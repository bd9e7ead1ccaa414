import DeadlineTimers.Hardware.Interface

/-!
# The simulated clock

A clock that is stable at once and counts how often it was asked to be.
-/

namespace DeadlineTimers.Simulated

/-- A clock that counts the requests made of it, modulo 2^32. -/
structure Clock where
  starts : UInt32 := 0
  deriving DecidableEq

namespace Clock

def requests (clock : Clock) : Nat := clock.starts.toNat

instance : ClockSource Clock where
  ensureReady clock := some (false, ⟨clock.starts + 1⟩)

end Clock

end DeadlineTimers.Simulated
