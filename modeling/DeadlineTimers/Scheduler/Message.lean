import DeadlineTimers.Device.Arming
import DeadlineTimers.Log.Logger
import DeadlineTimers.Timer

/-!
# Messages of the scheduler

Everything the scheduler writes to the log, each message with its level and its text. Ticks are
shown in hexadecimal.
-/

namespace DeadlineTimers

/-- A number in hexadecimal, with its customary two characters in front. -/
def hexadecimal (n : Nat) : String := "0x" ++ String.ofList (Nat.toDigits 16 n)

/-- What the scheduler has to say. -/
inductive Message where
  | running (id : DeviceId) (config : DeviceConfig) (prescaler : Prescaler)
  /-- A device was stopped while timers wait on it. -/
  | stoppedWith (id : DeviceId) (waiting : Nat)
  /-- A timer could not be queued. -/
  | notQueued (id : DeviceId) (expiry : Ticks) (error : TimerError)
  | started (id : DeviceId) (expiry : Ticks) (waiting : Nat)
  /-- A timer that was queued became the head. -/
  | newHead (id : DeviceId) (expiry : Ticks) (outcome : ArmOutcome)
  /-- A timer that should wait on a device was not in its queue. -/
  | strayTimer (id : DeviceId)
  | stopped (id : DeviceId) (expiry : Ticks)
  /-- The head of a queue is attached elsewhere. -/
  | foreignHead (id : DeviceId) (owner : Option DeviceId)
  /-- A deadline was reached while the compare was written. -/
  | deadlineMissed (expiry now : Ticks)
  /-- A deadline lies in an epoch that is over. -/
  | epochPassed (expiry : Ticks)
  /-- A deadline lies in an epoch that has not begun. -/
  | epochAhead (expiry epoch : Ticks)
  | handled (id : DeviceId) (fired : Nat) (rearmed : Option ArmOutcome)
  | crystalStarted
  /-- A line interrupted that is routed to no device. -/
  | unroutedLine (line : IrqLine)

namespace Message

/-- What arming has to say about a deadline, if anything. -/
def ofArming? (expiry : Ticks) : ArmReport → Option Message
  | .armed => none
  | .missed now => some (deadlineMissed expiry now)
  | .epochPassed => some (epochPassed expiry)
  | .epochAhead epoch => some (epochAhead expiry epoch)

def level : Message → Log.Level
  | running .. => .info
  | stoppedWith .. => .warn
  | notQueued .. => .warn
  | started .. => .debug
  | newHead .. => .trace
  | strayTimer .. => .warn
  | stopped .. => .debug
  | foreignHead .. => .error
  | deadlineMissed .. => .trace
  | epochPassed .. => .trace
  | epochAhead .. => .trace
  | handled .. => .trace
  | crystalStarted => .info
  | unroutedLine .. => .warn

def tickText (tick : Ticks) : String := hexadecimal tick.toNat

def outcomeText : Option ArmOutcome → String
  | none => "None"
  | some outcome => "Some(" ++ outcome.label ++ ")"

def text : Message → String
  | running id config prescaler =>
    id.label ++ ": " ++ toString prescaler.frequency ++ " Hz (prescaler 2^" ++
      toString prescaler.exponent ++ ", " ++ toString config.width.bits ++ "-bit counter, irq " ++
      toString config.line ++ ")"
  | stoppedWith id waiting =>
    id.label ++ ": stopped with " ++ toString waiting ++ " timers pending"
  | notQueued id expiry error =>
    id.label ++ ": cannot queue timer for " ++ tickText expiry ++ ": " ++ error.message
  | started id expiry waiting =>
    id.label ++ ": start " ++ tickText expiry ++ " (" ++ toString waiting ++ " pending)"
  | newHead id expiry outcome =>
    id.label ++ ": new head " ++ tickText expiry ++ ", " ++ outcome.label
  | strayTimer id => id.label ++ ": timer marked pending but not queued"
  | stopped id expiry => id.label ++ ": stop " ++ tickText expiry
  | foreignHead id owner => id.label ++ ": queue head belongs to " ++ TimerSlot.ownerText owner
  | deadlineMissed expiry now =>
    "arm " ++ tickText expiry ++ ": missed at " ++ tickText now ++ ", forcing interrupt"
  | epochPassed expiry =>
    "arm " ++ tickText expiry ++ ": epoch already passed, forcing interrupt"
  | epochAhead expiry epoch =>
    "arm " ++ tickText expiry ++ ": epoch " ++ tickText epoch ++ " not reached, deferring"
  | handled id fired rearmed =>
    id.label ++ ": fired " ++ toString fired ++ ", rearm " ++ outcomeText rearmed
  | crystalStarted => "HFCLK crystal started"
  | unroutedLine line => "irq " ++ toString line ++ ": no timer installed"

end Message

def Log.Logger.note (logger : Log.Logger) (message : Message) : Log.Logger :=
  logger.record message.level [message.text]

def Log.Logger.noteArming (logger : Log.Logger) (expiry : Ticks) (report : ArmReport) :
    Log.Logger :=
  match Message.ofArming? expiry report with
  | some message => logger.note message
  | none => logger

end DeadlineTimers
