import DeadlineTimers.Config
import DeadlineTimers.Error

/-!
# Faults

A fault is a misuse for which a call has no answer. It ends the call, and every call around it, on
the spot; what had been done before it stays done.
-/

namespace DeadlineTimers

/-- The ways a call ends without an answer. -/
inductive Fault where
  /-- The tick of a device that cannot be read was asked for. -/
  | readOf (id : DeviceId) (error : TimerError)
  | lineOutOfRange (line : IrqLine)
  | peripheralOutOfRange (id : DeviceId)
  /-- No page of registers lies at the address. -/
  | addressOutOfRange (address : Nat)
  | boardOutOfRange (board : Nat)
  /-- A period was asked of a frequency of zero. -/
  | divisionByZero
  /-- The call would wait or repeat without end. -/
  | stalled
  deriving DecidableEq

namespace Fault

/-- What a fault reports of itself. Only a failed read names its cause. -/
def report? : Fault → Option String
  | readOf id error => some ("read of " ++ id.label ++ ": " ++ error.message)
  | _ => none

end Fault

end DeadlineTimers
