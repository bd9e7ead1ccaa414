import DeadlineTimers.Device.Counter

/-!
# Arming the compare

One compare channel serves all waiting timers: it is armed for the earliest deadline. A compare
raises its event only when the counter arrives at the value, so a deadline that has passed by the
time the compare is written would go unnoticed; the tick is read afterwards, and a deadline found
reached makes the line pending by hand.

A narrow counter compares only the low bits, so a deadline of a later epoch cannot be armed yet. It
is deferred, with the compare interrupt off, until the overflow that opens its epoch.
-/

namespace DeadlineTimers

/-- What arming did with a deadline. -/
inductive ArmOutcome where
  /-- The hardware will raise the interrupt. -/
  | armed
  /-- The deadline has been reached, and the line was made pending. -/
  | late
  /-- The deadline lies in a later epoch. -/
  | deferred
  deriving DecidableEq

def ArmOutcome.label : ArmOutcome → String
  | armed => "Armed"
  | late => "Late"
  | deferred => "Deferred"

/-- An outcome of arming with what led to it. -/
inductive ArmReport where
  /-- The compare is written and the deadline lies ahead. -/
  | armed
  /-- The deadline was reached when the tick was read after writing the compare. -/
  | missed (now : Ticks)
  /-- The epoch of the deadline is over. -/
  | epochPassed
  /-- The epoch of the deadline, given by its first tick, has not begun. -/
  | epochAhead (epoch : Ticks)
  deriving DecidableEq

def ArmReport.outcome : ArmReport → ArmOutcome
  | armed => .armed
  | missed _ => .late
  | epochPassed => .late
  | epochAhead _ => .deferred

namespace Port

variable {R C : Type} [TimerPeripheral R] [InterruptController C]

/-- Writes the compare for a deadline of the current epoch, and makes the line pending if the
deadline has been reached after that. -/
def program (port : Port R C) (line : IrqLine) (expiry : Ticks) : ArmReport × Port R C :=
  let written := port.modifyTimer fun timer =>
    let timer :=
      TimerPeripheral.setCompare timer .interrupt (expiry &&& port.device.width.counterMask)
    let timer := TimerPeripheral.clearEvent timer .interrupt
    TimerPeripheral.enableInterrupt timer .interrupt
  let (now, port) := written.read line
  if Tick.reached now expiry then (.missed now, port.setPending line) else (.armed, port)

def arm (port : Port R C) (line : IrqLine) (expiry : Ticks) : ArmReport × Port R C :=
  let port := port.disarm
  let epoch := expiry &&& port.device.width.epochMask
  if port.device.width.isNarrow && epoch != port.device.tally then
    if Tick.before epoch port.device.tally then (.epochPassed, port.setPending line)
    else (.epochAhead epoch, port)
  else port.program line expiry

/-- Arms the compare for the earliest deadline and reports on it, or disarms it if nothing waits. -/
def rearm (port : Port R C) : Option (Ticks × ArmReport) × Port R C :=
  match port.device.queue.nextExpiry with
  | some expiry =>
    let (report, port) := port.arm port.device.config.line expiry
    (some (expiry, report), port)
  | none => (none, port.disarm)

end Port

end DeadlineTimers
