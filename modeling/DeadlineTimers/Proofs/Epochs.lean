import DeadlineTimers.CounterWidth
import DeadlineTimers.Tick
import Mathlib.Data.Nat.Bitwise

/-!
# Ticks as numbers

A tick is an epoch, a multiple of the states of the counter, and a place in it. Here the masks that
split a tick, and the order of ticks, become arithmetic on natural numbers, which is how every proof
about a counter reads them.
-/

namespace DeadlineTimers

namespace CounterWidth

variable {width : CounterWidth} {tally low expiry : UInt32}

theorem states_eq (width : CounterWidth) : width.states = 2 ^ width.bits :=
  Nat.one_shiftLeft width.bits

theorem states_of_not_narrow (wide : width.isNarrow = false) : width.states = 2 ^ 32 := by
  cases width <;> first | rfl | contradiction

theorem states_lt_of_narrow (narrow : width.isNarrow = true) : width.states ≤ 2 ^ 24 := by
  cases width <;> first | decide | contradiction

theorem states_dvd (width : CounterWidth) : width.states ∣ 2 ^ 32 := by
  cases width <;> decide

theorem epochSpan_toNat (width : CounterWidth) :
    width.epochSpan.toNat = width.states % 2 ^ 32 := by
  cases width <;> rfl

theorem toNat_le_states {ticks : UInt32} (within : ticks ≤ width.epochSpan) :
    ticks.toNat ≤ width.states := by
  have span := UInt32.le_iff_toNat_le.1 within
  rw [epochSpan_toNat] at span
  exact span.trans (Nat.mod_le _ _)

/-- Going on by some ticks and keeping the bits of the counter is adding modulo its states. -/
theorem add_and_counterMask_toNat (width : CounterWidth) (counter ticks : UInt32) :
    ((counter + ticks) &&& width.counterMask).toNat =
      (counter.toNat + ticks.toNat) % width.states := by
  rw [and_counterMask_toNat, UInt32.toNat_add, Nat.mod_mod_of_dvd _ width.states_dvd]

/-- The distance from one place of the counter on to another, modulo its states. -/
theorem sub_and_counterMask_toNat (width : CounterWidth) (counter compare : UInt32) :
    ((counter - compare) &&& width.counterMask).toNat =
      (2 ^ 32 - compare.toNat + counter.toNat) % width.states := by
  rw [and_counterMask_toNat, UInt32.toNat_sub, Nat.mod_mod_of_dvd _ width.states_dvd]

/-- A counter that stands before a place has the rest of its round from there to go. -/
theorem behind_mod_states (width : CounterWidth) {place target : Nat} (behind : place < target)
    (inside : target < width.states) :
    (2 ^ 32 - target + place) % width.states = width.states - target + place := by
  cases width <;> simp only [states_eq, bits] at * <;> omega

/-- A tally has no bits in common with a place in the epoch, so joining them is adding them. -/
theorem tally_or_toNat (aligned : tally.toNat % width.states = 0)
    (inside : low.toNat < width.states) :
    (tally ||| low).toNat = tally.toNat + low.toNat := by
  obtain ⟨epochs, counted⟩ := Nat.dvd_of_mod_eq_zero aligned
  rw [states_eq] at inside
  rw [UInt32.toNat_or, counted, states_eq, Nat.mul_comm, ← Nat.shiftLeft_eq,
    ← Nat.shiftLeft_add_eq_or_of_lt inside]

theorem and_epochMask_toNat (width : CounterWidth) (word : UInt32) :
    (word &&& width.epochMask).toNat = word.toNat - word.toNat % width.states := by
  have joined := congrArg UInt32.toNat (epochMask_or_counterMask width word)
  have apart : (word &&& width.epochMask).toNat % width.states = 0 := by
    rw [← and_counterMask_toNat, UInt32.and_assoc]
    simp [epochMask]
  have inside : (word &&& width.counterMask).toNat < width.states := by
    rw [and_counterMask_toNat]
    exact Nat.mod_lt _ width.states_pos
  rw [tally_or_toNat apart inside, and_counterMask_toNat] at joined
  omega

theorem aligned_add_epochSpan (aligned : tally.toNat % width.states = 0) :
    (tally + width.epochSpan).toNat % width.states = 0 := by
  have bound := tally.toNat_lt
  rw [UInt32.toNat_add, epochSpan_toNat]
  cases width <;> simp only [states_eq, bits] at * <;> omega

end CounterWidth

namespace Tick

theorem reached_iff_toNat (now deadline : Ticks) :
    reached now deadline = true ↔
      (2 ^ 32 - deadline.toNat + now.toNat) % 2 ^ 32 < 2 ^ 31 := by
  rw [← UInt32.toNat_sub]
  simp [reached, halfTurn, UInt32.lt_iff_toNat_lt]

theorem before_iff_toNat (a b : Ticks) :
    before a b = true ↔ 2 ^ 31 ≤ (2 ^ 32 - b.toNat + a.toNat) % 2 ^ 32 := by
  rw [← UInt32.toNat_sub]
  simp [before, halfTurn, UInt32.le_iff_toNat_le]

theorem reached_eq_false_iff_toNat (now deadline : Ticks) :
    reached now deadline = false ↔
      2 ^ 31 ≤ (2 ^ 32 - deadline.toNat + now.toNat) % 2 ^ 32 := by
  rw [← Bool.not_eq_true, reached_iff_toNat, Nat.not_lt]

theorem before_eq_false_iff_toNat (a b : Ticks) :
    before a b = false ↔ (2 ^ 32 - b.toNat + a.toNat) % 2 ^ 32 < 2 ^ 31 := by
  rw [← Bool.not_eq_true, before_iff_toNat, Nat.not_le]

variable {width : CounterWidth} {tally counter expiry : Ticks}

/-- A deadline further on in the epoch of the tally lies ahead. -/
theorem not_reached_of_same_epoch (narrow : width.isNarrow = true)
    (epoch : expiry &&& width.epochMask = tally)
    (further : counter.toNat < expiry.toNat % width.states) :
    reached (tally + counter) expiry = false := by
  have start := width.and_epochMask_toNat expiry
  have bound := expiry.toNat_lt
  rw [epoch] at start
  rw [reached_eq_false_iff_toNat, UInt32.toNat_add]
  cases width with
  | bits32 => contradiction
  | _ => simp only [CounterWidth.states_eq, CounterWidth.bits] at *; omega

/-- A deadline in the epoch of the tally that lies ahead is further on in it. -/
theorem further_of_same_epoch (narrow : width.isNarrow = true)
    (inside : counter.toNat < width.states)
    (epoch : expiry &&& width.epochMask = tally)
    (ahead : reached (tally + counter) expiry = false) :
    counter.toNat < expiry.toNat % width.states := by
  have start := width.and_epochMask_toNat expiry
  have bound := expiry.toNat_lt
  rw [epoch] at start
  rw [reached_eq_false_iff_toNat, UInt32.toNat_add] at ahead
  cases width with
  | bits32 => contradiction
  | _ => simp only [CounterWidth.states_eq, CounterWidth.bits] at *; omega

/-- A deadline in an epoch that comes after that of the tally lies ahead. -/
theorem not_reached_of_later_epoch (narrow : width.isNarrow = true)
    (aligned : tally.toNat % width.states = 0) (inside : counter.toNat < width.states)
    (later : expiry &&& width.epochMask ≠ tally)
    (ahead : before (expiry &&& width.epochMask) tally = false) :
    reached (tally + counter) expiry = false := by
  have different : (expiry &&& width.epochMask).toNat ≠ tally.toNat :=
    fun same => later (UInt32.toNat_inj.1 same)
  have bound := expiry.toNat_lt
  have tallyBound := tally.toNat_lt
  rw [before_eq_false_iff_toNat] at ahead
  rw [CounterWidth.and_epochMask_toNat] at different ahead
  rw [reached_eq_false_iff_toNat, UInt32.toNat_add]
  cases width with
  | bits32 => contradiction
  | _ => simp only [CounterWidth.states_eq, CounterWidth.bits] at *; omega

end Tick

end DeadlineTimers
