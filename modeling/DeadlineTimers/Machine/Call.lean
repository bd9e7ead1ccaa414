import DeadlineTimers.Fault
import DeadlineTimers.Hardware.Access
import DeadlineTimers.Timer

/-!
# Calls as data

The scheduling calls, each named with its arguments, and the answers they give. A platform adds
requests of its own, as the type `X`. A call goes to one of several boards.

Registering a device is kept apart as a `Command`, because a callback cannot do it. A command names no
hardware, so it registers the hardware timer that is at the place of the device.
-/

namespace DeadlineTimers

abbrev BoardId := Nat

/-- What can be asked of a board, by its user and by callbacks. -/
inductive Request (X : Type) where
  | init (id : DeviceId) (frequency : Nat)
  | deinit (id : DeviceId)
  | attach (id : DeviceId) (timer : TimerId) (callback : CallbackId) (arg : Nat)
  | start (timer : TimerId) (ticks : Ticks)
  | startAt (timer : TimerId) (expiry : Ticks)
  | stop (timer : TimerId)
  | read (id : DeviceId)
  | tryRead (id : DeviceId)
  | delay (id : DeviceId) (ticks : Ticks)
  | resolution (id : DeviceId)
  | frequency (id : DeviceId)
  | isrCount (id : DeviceId)
  | pending (id : DeviceId)
  | isEnabled (id : DeviceId)
  | nextDeadline (id : DeviceId)
  | interrupt (id : DeviceId)
  | timer (timer : TimerId)
  | platform (request : X)
  deriving DecidableEq

structure Call (X : Type) where
  board : BoardId
  request : Request X
  deriving DecidableEq

/-- What the user of a machine can do: make a call, or register a device in its place. -/
inductive Command (X : Type) where
  | call (call : Call X)
  | register (board : BoardId) (id : DeviceId) (config : DeviceConfig)
  deriving DecidableEq

inductive Reply where
  | done
  | rejected (error : TimerError)
  | number (value : Nat)
  | maybe (value : Option Nat)
  | flag (value : Bool)
  | reading (reading : Reading)
  | timer (slot : TimerSlot)
  deriving DecidableEq

namespace Reply

def ofExcept {α : Type} (reply : α → Reply) : Except TimerError α → Reply
  | .ok answer => reply answer
  | .error error => .rejected error

/-- The reply of a call that has nothing to tell when it succeeds. -/
def ofUnit : Except TimerError Unit → Reply := ofExcept fun _ => .done

end Reply

end DeadlineTimers
