import DeadlineTimers.Proofs.Movement
import Mathlib.Logic.Function.Iterate

/-!
# Moving in one go and tick by tick

A movement of the counter works out from the distance to each compare value which events it latches. That
comes to the same as single ticks: two movements one after the other are one movement by the sum, and a
channel is latched exactly if its compare value, cut to the width of the counter, is among the values that
the counter takes one after another. A channel may be passed in several rounds, and one that the counter
stands on at the start is met again only after a whole round.
-/

namespace DeadlineTimers.Simulated

namespace ChannelState

variable (channel : ChannelState) (width : CounterWidth) (counter : UInt32)

/-- How many ticks a counter has to go until it shows the compare value, zero if it shows it now. -/
def distance (channel : ChannelState) (width : CounterWidth) (counter : UInt32) : UInt32 :=
  (channel.compare - counter) &&& width.counterMask

theorem latch_latch (first second : Nat) :
    (channel.latch first).latch second = channel.latch (first + second) := by
  by_cases none : first = 0
  · rw [none, latch_zero, Nat.zero_add]
  by_cases none' : second = 0
  · rw [none', latch_zero, Nat.add_zero]
  have some : first + second ≠ 0 := by omega
  simp only [latch, if_neg none, if_neg none', if_neg some, ↓reduceIte]
  congr 1
  split <;> omega

theorem phase_lt : channel.phase width counter < width.states := by
  rw [phase_toNat]
  exact Nat.mod_lt _ width.states_pos

theorem phase_add (ticks : UInt32) :
    channel.phase width ((counter + ticks) &&& width.counterMask) =
      (channel.phase width counter + ticks.toNat) % width.states := by
  have bound := channel.compare.toNat_lt
  simp only [phase_toNat, CounterWidth.add_and_counterMask_toNat]
  cases width <;> simp only [CounterWidth.states_eq, CounterWidth.bits] at * <;> omega

/-- The rounds completed in two movements are those completed in the one by their sum. -/
theorem arrivals_add {first second : UInt32} (fits : first.toNat + second.toNat < 2 ^ 32) :
    channel.arrivals width counter (first + second) =
      channel.arrivals width counter first +
        channel.arrivals width ((counter + first) &&& width.counterMask) second := by
  rw [arrivals, arrivals, arrivals, phase_add, UInt32.toNat_add, Nat.mod_eq_of_lt fits, ← Nat.add_assoc]
  generalize channel.phase width counter + first.toNat = moved
  calc (moved + second.toNat) / width.states
      = (moved % width.states + second.toNat + width.states * (moved / width.states)) /
          width.states := by
        rw [Nat.add_right_comm, Nat.mod_add_div]
    _ = moved / width.states + (moved % width.states + second.toNat) / width.states := by
        rw [Nat.add_mul_div_left _ _ width.states_pos, Nat.add_comm]

/-- A compare value is met once the movement covers the distance to it, which is a whole round for a value
that the counter shows at the start. A wide counter never makes a whole round in one movement. -/
theorem arrivals_ne_zero_iff (inside : counter.toNat < width.states) (ticks : UInt32) :
    channel.arrivals width counter ticks ≠ 0 ↔
      if channel.distance width counter = 0 then
        width.isNarrow = true ∧ width.epochSpan ≤ ticks
      else channel.distance width counter ≤ ticks := by
  have bound := channel.compare.toNat_lt
  have bound' := ticks.toNat_lt
  have distance : (channel.distance width counter).toNat =
      (2 ^ 32 - counter.toNat + channel.compare.toNat) % width.states :=
    width.sub_and_counterMask_toNat channel.compare counter
  have here_iff : channel.distance width counter = 0 ↔
      (2 ^ 32 - counter.toNat + channel.compare.toNat) % width.states = 0 := by
    rw [← distance, ← UInt32.toNat_inj]
    rfl
  rw [Ne, arrivals_eq_zero_iff, phase_toNat, Nat.not_lt, UInt32.le_iff_toNat_le, UInt32.le_iff_toNat_le,
    distance, if_congr here_iff rfl rfl, CounterWidth.epochSpan_toNat]
  cases width with
  | bits32 =>
    simp only [CounterWidth.states_eq, CounterWidth.bits, CounterWidth.isNarrow, false_and,
      reduceCtorEq] at *
    split
    · exact iff_of_false (by omega) id
    · omega
  | _ =>
    simp only [CounterWidth.states_eq, CounterWidth.bits, CounterWidth.isNarrow, true_and] at *
    split <;> omega

end ChannelState

namespace Timer

variable {timer : Timer}

theorem advance_add (running : timer.running = true) (inRange : timer.InRange) {first second : UInt32}
    (fits : first.toNat + second.toNat < 2 ^ 32) :
    timer.advance (first + second) = (timer.advance first).advance second := by
  have running' : (timer.advance first).running = true := (timer.advance_running first).trans running
  have inRange' := inRange_advance inRange first
  have counter : (timer.counter + (first + second)) &&& timer.width.counterMask =
      (((timer.counter + first) &&& timer.width.counterMask) + second) &&&
        timer.width.counterMask := by
    apply UInt32.toNat_inj.1
    simp only [CounterWidth.add_and_counterMask_toNat, UInt32.toNat_add, Nat.mod_eq_of_lt fits,
      Nat.mod_add_mod, Nat.add_assoc]
  have channels (channel : ChannelState) :
      channel.latch (channel.arrivals timer.width timer.counter (first + second)) =
        (channel.latch (channel.arrivals timer.width timer.counter first)).latch
          ((channel.latch (channel.arrivals timer.width timer.counter first)).arrivals timer.width
            ((timer.counter + first) &&& timer.width.counterMask) second) := by
    have same (count : Nat) (counter : UInt32) : (channel.latch count).arrivals timer.width counter second =
        channel.arrivals timer.width counter second := by
      simp only [ChannelState.arrivals, ChannelState.phase, ChannelState.latch_compare]
    rw [same, ChannelState.latch_latch, channel.arrivals_add _ _ fits]
  rw [advance_of_running running' inRange', advance_of_running running inRange,
    advance_of_running running inRange, counter, UInt32.toNat_add, Nat.mod_eq_of_lt fits, ← Nat.add_assoc]
  simp only [channels]
  rfl

/-- A movement is made of single ticks. -/
theorem iterate_advance_one (running : timer.running = true) (inRange : timer.InRange) (ticks : UInt32) :
    (fun timer : Timer => timer.advance 1)^[ticks.toNat] timer = timer.advance ticks := by
  suffices every : ∀ count < 2 ^ 32,
      (fun timer : Timer => timer.advance 1)^[count] timer = timer.advance (UInt32.ofNat count) by
    rw [every _ ticks.toNat_lt, UInt32.ofNat_toNat]
  intro count
  induction count with
  | zero =>
    intro _
    rw [Function.iterate_zero_apply, advance, if_neg (by simp)]
  | succ count ih =>
    intro fits
    have toNat : (UInt32.ofNat count).toNat = count := UInt32.toNat_ofNat_of_lt' (Nat.lt_of_succ_lt fits)
    have next : (UInt32.ofNat count).toNat + (1 : UInt32).toNat < 2 ^ 32 := by
      rw [toNat]
      exact fits
    rw [Function.iterate_succ_apply', ih (by omega), ← advance_add running inRange next,
      UInt32.ofNat_add]
    rfl

/-- The values that the counter shows in a movement, one after each tick. -/
def visited (timer : Timer) (ticks : Nat) : List Nat :=
  (List.range ticks).map fun passed => (timer.counter.toNat + (passed + 1)) % timer.width.states

/-- A channel is matched as often as its compare value is visited. -/
theorem arrivals_eq_count (timer : Timer) (channel : ChannelState) (ticks : UInt32) :
    channel.arrivals timer.width timer.counter ticks =
      (timer.visited ticks.toNat).count (channel.compare.toNat % timer.width.states) := by
  rw [ChannelState.arrivals]
  generalize ticks.toNat = count
  induction count with
  | zero => exact Nat.div_eq_of_lt (channel.phase_lt timer.width timer.counter)
  | succ count ih =>
    have bound := channel.compare.toNat_lt
    have matches_iff : timer.width.states ∣ channel.phase timer.width timer.counter + count + 1 ↔
        (timer.counter.toNat + (count + 1)) % timer.width.states =
          channel.compare.toNat % timer.width.states := by
      rw [ChannelState.phase_toNat]
      cases timer.width <;> simp only [CounterWidth.states_eq, CounterWidth.bits] <;> omega
    have one_more : timer.visited (count + 1) =
        timer.visited count ++ [(timer.counter.toNat + (count + 1)) % timer.width.states] := by
      rw [visited, List.range_succ, List.map_append, List.map_singleton, visited]
    rw [← Nat.add_assoc, Nat.succ_div, ih, one_more, List.count_append, List.count_singleton]
    simp only [matches_iff, beq_iff_eq]

theorem mem_visited_iff (timer : Timer) (channel : ChannelState) (ticks : UInt32) :
    channel.compare.toNat % timer.width.states ∈ timer.visited ticks.toNat ↔
      channel.arrivals timer.width timer.counter ticks ≠ 0 := by
  rw [arrivals_eq_count, ← Nat.pos_iff_ne_zero, List.count_pos_iff]

theorem event_advance_iff (running : timer.running = true) (inRange : timer.InRange) (ticks : UInt32)
    (channel : Channel) :
    ((timer.advance ticks).channels.get channel).event = true ↔
      (timer.channels.get channel).event = true ∨
        (timer.channels.get channel).compare.toNat % timer.width.states ∈
          timer.visited ticks.toNat := by
  rw [advance_get_of_running running inRange, ChannelState.latch_event, mem_visited_iff,
    Bool.or_eq_true, bne_iff_ne]

/-- Moving a running counter by a sum of ticks is moving it by the one number and then by the other, and so
it is made of single ticks. It latches the channels whose compare values the counter visits on its way,
which the distance to them tells, and leaves everything else as it was. -/
theorem advance_tick_by_tick (running : timer.running = true) (inRange : timer.InRange) :
    (∀ first second : UInt32, first.toNat + second.toNat < 2 ^ 32 →
        timer.advance (first + second) = (timer.advance first).advance second) ∧
      ∀ ticks : UInt32,
        let after := timer.advance ticks
        after = (fun timer : Timer => timer.advance 1)^[ticks.toNat] timer ∧
        after.counter.toNat = (timer.counter.toNat + ticks.toNat) % timer.width.states ∧
        (∀ channel,
          let before := timer.channels.get channel
          let visits := before.compare.toNat % timer.width.states ∈ timer.visited ticks.toNat
          ((after.channels.get channel).event = true ↔ before.event = true ∨ visits) ∧
          (visits ↔
            if before.distance timer.width timer.counter = 0 then
              timer.width.isNarrow = true ∧ timer.width.epochSpan ≤ ticks
            else before.distance timer.width timer.counter ≤ ticks) ∧
          after.channels.get channel =
            { before with
              event := (after.channels.get channel).event
              missed := (after.channels.get channel).missed }) ∧
        after = { timer with
          counter := after.counter
          channels := after.channels
          travelled := timer.travelled + ticks.toNat } := by
  refine ⟨fun _ _ fits => advance_add running inRange fits, fun ticks => ?_⟩
  refine ⟨(iterate_advance_one running inRange ticks).symm, advance_counter_toNat running inRange ticks,
    fun channel => ⟨event_advance_iff running inRange ticks channel, ?_, ?_⟩, ?_⟩
  · exact (timer.mem_visited_iff _ ticks).trans
      ((timer.channels.get channel).arrivals_ne_zero_iff _ _ inRange ticks)
  · rw [← timer.advance_compare ticks channel, ← timer.advance_interruptEnabled ticks channel]
  · rw [advance_of_running running inRange ticks]

/-- An 8-bit counter that stands on a compare value wider than itself comes back to it after a round, be it
made in one go or with a stop on the way, and another channel is met before. -/
theorem advance_round_from_compare :
    let timer : Timer :=
      { width := .bits8
        counter := 0xFE
        running := true
        channels := ⟨{ compare := 0 }, { compare := 0xFD }, { compare := 0x3FE }⟩ }
    timer.running = true ∧ timer.InRange ∧ timer.advance (200 + 56) = (timer.advance 200).advance 56 ∧
      (timer.advance 255).channels.interrupt.event = false ∧
      (timer.advance 256).channels.interrupt.event = true ∧
      (timer.advance 2).channels.overflow.event = true ∧
      (timer.advance 254).channels.read.event = false := by
  intro timer
  have inRange : timer.InRange := by decide
  obtain ⟨splits, moves⟩ := @advance_tick_by_tick timer rfl inRange
  obtain ⟨-, -, latched, -⟩ := moves 256
  have met := (latched .interrupt).1.2 (.inr ((latched .interrupt).2.1.2 ?_))
  · exact ⟨rfl, inRange, splits 200 56 (by decide), by decide, met, by decide, by decide⟩
  · decide

end Timer

end DeadlineTimers.Simulated
