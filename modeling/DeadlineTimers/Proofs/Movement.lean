import DeadlineTimers.Proofs.Epochs
import DeadlineTimers.Simulated.Timer

/-!
# How a simulated counter moves

A movement of a running counter adds to the counter modulo its states, latches the event of every
channel it arrives at, and leaves everything else as it was. Taking the counter moves it as well, by
the automatic advance, so a reading is a movement followed by a note in the read register.
-/

namespace DeadlineTimers.Simulated

namespace ChannelState

variable (channel : ChannelState) (width : CounterWidth) (counter ticks : UInt32) (count : Nat)

@[simp] theorem latch_zero : channel.latch 0 = channel := rfl

@[simp] theorem latch_compare : (channel.latch count).compare = channel.compare := by
  unfold latch
  split <;> rfl

@[simp] theorem latch_interruptEnabled :
    (channel.latch count).interruptEnabled = channel.interruptEnabled := by
  unfold latch
  split <;> rfl

theorem latch_event : (channel.latch count).event = (channel.event || count != 0) := by
  unfold latch
  split <;> simp_all

/-- No match is lost exactly if there is at most one, and none that finds the event latched. -/
theorem latch_missed_eq_iff :
    (channel.latch count).missed = channel.missed ↔
      count = 0 ∨ channel.event = false ∧ count = 1 := by
  unfold latch
  split
  · simp_all
  · cases channel.event
    · simp
      omega
    · simp

theorem missed_le_latch : channel.missed ≤ (channel.latch count).missed := by
  unfold latch
  split <;> simp

theorem arrivals_eq_zero_iff :
    channel.arrivals width counter ticks = 0 ↔
      channel.phase width counter + ticks.toNat < width.states := by
  rw [arrivals, Nat.div_eq_zero_iff]
  have := width.states_pos
  omega

theorem phase_toNat :
    channel.phase width counter =
      (2 ^ 32 - channel.compare.toNat + counter.toNat) % width.states :=
  width.sub_and_counterMask_toNat counter channel.compare

/-- A channel that compares with zero counts the whole rounds from zero. -/
theorem arrivals_of_compare_zero {channel : ChannelState} {width : CounterWidth} {counter : UInt32}
    (zero : channel.compare = 0) (inside : counter.toNat < width.states) (ticks : UInt32) :
    channel.arrivals width counter ticks = (counter.toNat + ticks.toNat) / width.states := by
  rw [arrivals, phase, zero, UInt32.sub_zero, CounterWidth.and_counterMask_toNat,
    Nat.mod_eq_of_lt inside]

end ChannelState

namespace Timer

variable (timer : Timer) (ticks : UInt32)

def InRange (timer : Timer) : Prop := timer.counter.toNat < timer.width.states

instance (timer : Timer) : Decidable timer.InRange :=
  inferInstanceAs (Decidable (timer.counter.toNat < timer.width.states))

/-- What a movement does, a movement by no ticks included. -/
theorem advance_of_running {timer : Timer} (running : timer.running = true)
    (inRange : timer.InRange) (ticks : UInt32) :
    timer.advance ticks =
      { timer with
        counter := (timer.counter + ticks) &&& timer.width.counterMask
        channels := timer.channels.map fun channel =>
          channel.latch (channel.arrivals timer.width timer.counter ticks)
        travelled := timer.travelled + ticks.toNat } := by
  by_cases still : ticks = 0
  · subst still
    have same : timer.counter &&& timer.width.counterMask = timer.counter := by
      apply UInt32.toNat_inj.1
      rw [CounterWidth.and_counterMask_toNat, Nat.mod_eq_of_lt inRange]
    have unmoved : ∀ channel : ChannelState,
        channel.latch (channel.arrivals timer.width timer.counter 0) = channel := by
      intro channel
      have none : channel.arrivals timer.width timer.counter 0 = 0 := by
        rw [ChannelState.arrivals_eq_zero_iff, ChannelState.phase_toNat]
        exact Nat.mod_lt _ timer.width.states_pos
      rw [none, ChannelState.latch_zero]
    simp [advance, same, unmoved, PerChannel.map]
  · simp [advance, running, still]

@[simp] theorem advance_width : (timer.advance ticks).width = timer.width := by
  unfold advance
  split <;> rfl

@[simp] theorem advance_running : (timer.advance ticks).running = timer.running := by
  unfold advance
  split <;> rfl

@[simp] theorem advance_autoAdvance :
    (timer.advance ticks).autoAdvance = timer.autoAdvance := by
  unfold advance
  split <;> rfl

/-- What a movement does to one channel: it may latch the event. -/
theorem advance_get (channel : Channel) :
    ∃ count, (timer.advance ticks).channels.get channel =
      (timer.channels.get channel).latch count := by
  unfold advance
  split
  · exact ⟨_, PerChannel.get_map _ _ _⟩
  · exact ⟨0, rfl⟩

theorem advance_get_of_running {timer : Timer} (running : timer.running = true)
    (inRange : timer.InRange) (ticks : UInt32) (channel : Channel) :
    (timer.advance ticks).channels.get channel =
      (timer.channels.get channel).latch
        ((timer.channels.get channel).arrivals timer.width timer.counter ticks) := by
  rw [advance_of_running running inRange, PerChannel.get_map]

theorem advance_compare (channel : Channel) :
    ((timer.advance ticks).channels.get channel).compare =
      (timer.channels.get channel).compare := by
  obtain ⟨count, latched⟩ := timer.advance_get ticks channel
  rw [latched, ChannelState.latch_compare]

theorem advance_interruptEnabled (channel : Channel) :
    ((timer.advance ticks).channels.get channel).interruptEnabled =
      (timer.channels.get channel).interruptEnabled := by
  obtain ⟨count, latched⟩ := timer.advance_get ticks channel
  rw [latched, ChannelState.latch_interruptEnabled]

theorem advance_event_of_event {channel : Channel}
    (event : (timer.channels.get channel).event = true) :
    ((timer.advance ticks).channels.get channel).event = true := by
  obtain ⟨count, latched⟩ := timer.advance_get ticks channel
  rw [latched, ChannelState.latch_event, event, Bool.true_or]

theorem inRange_advance {timer : Timer} (inRange : timer.InRange) (ticks : UInt32) :
    (timer.advance ticks).InRange := by
  unfold advance InRange
  split
  · simp only [CounterWidth.add_and_counterMask_toNat]
    exact Nat.mod_lt _ timer.width.states_pos
  · exact inRange

theorem inRange_masked (timer : Timer) (width : CounterWidth) (word : UInt32) :
    InRange { timer with width, counter := word &&& width.counterMask } := by
  rw [InRange, CounterWidth.and_counterMask_toNat]
  exact Nat.mod_lt _ width.states_pos

/-- No access takes the counter out of its range. -/
theorem inRange_run {timer : Timer} (inRange : timer.InRange) (access : TimerAccess) :
    (access.run timer).2.InRange := by
  cases access with
  | advance ticks => exact inRange_advance inRange ticks
  | setAutoAdvance ticks => exact inRange
  | setCounter value => exact timer.inRange_masked timer.width value
  | register access =>
    cases access with
    | capture channel => exact inRange_advance inRange timer.autoAdvance
    | clear => exact timer.width.states_pos
    | setWidth width => exact timer.inRange_masked width timer.counter
    | _ => exact inRange

theorem advance_counter_toNat {timer : Timer} (running : timer.running = true)
    (inRange : timer.InRange) (ticks : UInt32) :
    (timer.advance ticks).counter.toNat =
      (timer.counter.toNat + ticks.toNat) % timer.width.states := by
  rw [advance_of_running running inRange, CounterWidth.add_and_counterMask_toNat]

/-- The timer after its counter was taken into the read register. -/
def captured (timer : Timer) : Timer := (timer.capture .read).2

theorem captured_eq :
    timer.captured = (timer.advance timer.autoAdvance).modifyChannel .read fun state =>
      { state with compare := (timer.advance timer.autoAdvance).counter } := rfl

@[simp] theorem captured_width : timer.captured.width = timer.width :=
  timer.advance_width timer.autoAdvance

@[simp] theorem captured_running : timer.captured.running = timer.running :=
  timer.advance_running timer.autoAdvance

@[simp] theorem captured_autoAdvance : timer.captured.autoAdvance = timer.autoAdvance :=
  timer.advance_autoAdvance timer.autoAdvance

@[simp] theorem captured_overflow : timer.captured.channels.overflow =
    (timer.advance timer.autoAdvance).channels.overflow := rfl

@[simp] theorem captured_counter :
    timer.captured.counter = (timer.advance timer.autoAdvance).counter := rfl

@[simp] theorem captured_travelled :
    timer.captured.travelled = (timer.advance timer.autoAdvance).travelled := rfl

theorem captured_of_still {timer : Timer} (still : timer.autoAdvance = 0) :
    timer.captured =
      timer.modifyChannel .read fun state => { state with compare := timer.counter } := by
  have unmoved : timer.advance timer.autoAdvance = timer := by simp [advance, still]
  rw [captured_eq, unmoved]

end Timer

end DeadlineTimers.Simulated
