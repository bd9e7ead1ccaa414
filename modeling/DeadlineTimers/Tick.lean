/-!
# Wrapping ticks

The logical timebase is a 32-bit tick that wraps. Two ticks are ordered by their wrapping
difference: `a` is before `b` when going forward from `b` to `a` would take at least half a turn.
Any set of ticks inside one half turn is therefore ordered as if the ticks never wrapped, and
`Tick.reached` is exactly the negation of `Tick.before`.
-/

namespace DeadlineTimers

/-- Ticks of a device, modulo `2^32`. -/
abbrev Ticks := UInt32

namespace Tick

/-- Half a turn of the tick counter. -/
def halfTurn : Ticks := 0x80000000

/-- Tests whether `a` lies strictly before `b`. -/
def before (a b : Ticks) : Bool := halfTurn ≤ a - b

/-- Tests whether `now` has arrived at `deadline` or gone past it. -/
def reached (now deadline : Ticks) : Bool := now - deadline < halfTurn

theorem reached_eq_not_before (now deadline : Ticks) :
    reached now deadline = !before now deadline := by
  simp only [reached, before, ← decide_not, UInt32.not_le]

end Tick

end DeadlineTimers
