import DeadlineTimers.Config
import DeadlineTimers.Error

/-!
# Prescaler selection

A hardware timer divides its source clock by a power of two. A requested frequency is mapped to
the exponent whose divider lies nearest to the whole number of source cycles per requested tick;
of two equally near dividers the smaller one, the higher frequency, is taken.
-/

namespace DeadlineTimers

/-- A setting of the prescaler together with the frequency it yields. -/
structure Prescaler where
  /-- The source is divided by two to this power. -/
  exponent : Nat
  /-- The resulting tick frequency in Hz. -/
  frequency : Nat
  deriving DecidableEq

namespace Prescaler

/-- The first exponent from `exponent` on, among `steps` more, whose divider is at least `divisor`. -/
def ceilExponent (divisor exponent : Nat) : Nat → Nat
  | 0 => exponent
  | steps + 1 =>
    if divisor ≤ 1 <<< exponent then exponent else ceilExponent divisor (exponent + 1) steps

/-- The exponent whose divider is nearest to `divisor`, the smaller one of two equally near. -/
def nearestExponent (divisor : Nat) : Nat :=
  if divisor ≤ 1 then 0
  else
    let upper := ceilExponent divisor 1 (maxPrescalerExponent - 1)
    if divisor - 1 <<< (upper - 1) ≤ 1 <<< upper - divisor then upper - 1 else upper

/-- Maps a requested frequency to a setting, for a source of `source` Hz. A request is too high
when it exceeds the source, and too low when it is zero, needs a divider above the largest one, or
divides the source down to nothing. -/
def select (source request : Nat) : Except TimerError Prescaler :=
  if request = 0 then .error (.invalid .frequencyTooLow)
  else if source / request = 0 then .error (.invalid .frequencyTooHigh)
  else if 1 <<< maxPrescalerExponent < source / request then .error (.invalid .frequencyTooLow)
  else
    let exponent := nearestExponent (source / request)
    if source >>> exponent = 0 then .error (.invalid .frequencyTooLow)
    else .ok ⟨exponent, source >>> exponent⟩

end Prescaler

/-- Length of a tick in whole nanoseconds. A frequency of zero has none. -/
def periodNanoseconds? (frequency : Nat) : Option Nat :=
  if frequency = 0 then none else some (1000000000 / frequency)

end DeadlineTimers
