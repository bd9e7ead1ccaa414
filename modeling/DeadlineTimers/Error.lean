/-!
# Errors of the scheduling calls

A call is either rejected for its argument, with the reason, or refused because the queue of the
device has no free slot. Each cause has a fixed sentence for the reader and a short label.
-/

namespace DeadlineTimers

/-- Why the argument of a call was rejected. -/
inductive InvalidArgument where
  /-- The device number lies outside the table of devices. -/
  | deviceOutOfRange
  /-- No device is registered under that number. -/
  | deviceMissing
  | alreadyEnabled
  /-- The question needs a running device. -/
  | notEnabled
  /-- The device still has timers queued and cannot be replaced. -/
  | timersQueued
  /-- The requested frequency is above that of the source. -/
  | frequencyTooHigh
  /-- The requested frequency needs more division than the prescaler offers, or leaves nothing of the
  source. -/
  | frequencyTooLow
  | timerPending
  | noCallback
  | notAttached
  /-- A relative start of zero ticks. -/
  | zeroTicks
  deriving DecidableEq

/-- The ways a scheduling call fails. -/
inductive TimerError where
  /-- The argument was rejected. -/
  | invalid (reason : InvalidArgument)
  /-- The queue of the device is full. -/
  | queueFull
  deriving DecidableEq

namespace InvalidArgument

def label : InvalidArgument → String
  | deviceOutOfRange => "DeviceOutOfRange"
  | deviceMissing => "DeviceMissing"
  | alreadyEnabled => "AlreadyEnabled"
  | notEnabled => "NotEnabled"
  | timersQueued => "TimersQueued"
  | frequencyTooHigh => "FrequencyTooHigh"
  | frequencyTooLow => "FrequencyTooLow"
  | timerPending => "TimerPending"
  | noCallback => "NoCallback"
  | notAttached => "NotAttached"
  | zeroTicks => "ZeroTicks"

def message : InvalidArgument → String
  | deviceOutOfRange => "device index out of range"
  | deviceMissing => "device not configured"
  | alreadyEnabled => "device already enabled"
  | notEnabled => "device not enabled"
  | timersQueued => "timers still queued on device"
  | frequencyTooHigh => "frequency too high"
  | frequencyTooLow => "frequency too low"
  | timerPending => "timer already pending"
  | noCallback => "timer has no callback"
  | notAttached => "timer not attached to a device"
  | zeroTicks => "zero relative ticks"

end InvalidArgument

namespace TimerError

def isInvalidArgument : TimerError → Bool
  | invalid _ => true
  | queueFull => false

/-- The short name of an error, with its reason in parentheses. -/
def label : TimerError → String
  | invalid reason => "InvalidArgument(" ++ reason.label ++ ")"
  | queueFull => "QueueFull"

def message : TimerError → String
  | invalid reason => "Invalid argument: " ++ reason.message
  | queueFull => "Timer queue full"

end TimerError

end DeadlineTimers
