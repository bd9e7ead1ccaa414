import DeadlineTimers.Scheduler.Basic

/-!
# Steps of the interrupt handler on a scheduler

The handler acknowledges the interrupt, takes due timers one at a time, and arms the compare for
what remains. A timer is unlinked as it is taken, before its callback runs, so the callback may
start it again.
-/

namespace DeadlineTimers.Scheduler

variable {R C K : Type} [TimerPeripheral R] [InterruptController C]

/-- A timer taken off a queue, with the tick read at that moment. -/
structure DueTimer where
  entry : QueueEntry
  now : Ticks
  /-- The callback and the value to hand to it, as the timer remembers them. -/
  callback : Option (CallbackId × Nat)
  deriving DecidableEq

/-- Acknowledges an interrupt of a device and tells whether the device runs. A device that is not
registered does not run. -/
def acknowledge (scheduler : Scheduler R C K) (id : DeviceId) : Bool × Scheduler R C K :=
  match scheduler.onPort id Port.acknowledge with
  | (.ok runs, scheduler) => (runs, scheduler)
  | (.error _, scheduler) => (false, scheduler)

/-- Takes the head off the queue of a device if its deadline has been reached, and unlinks it. -/
def takeDue (scheduler : Scheduler R C K) (id : DeviceId) :
    Option DueTimer × Scheduler R C K :=
  match scheduler.onPort id Port.takeDue with
  | (.ok (some (entry, now)), scheduler) =>
    let slot := scheduler.timers.get entry.timer
    let timers := scheduler.timers.set entry.timer { slot with linked := false }
    (some ⟨entry, now, slot.callback.map fun callback => (callback, slot.arg)⟩,
      { scheduler with timers })
  | (.ok none, scheduler) => (none, scheduler)
  | (.error _, scheduler) => (none, scheduler)

/-- Ends an interrupt of a device in which a number of callbacks were called: arms the compare for
what remains in the queue. -/
def finish (scheduler : Scheduler R C K) (id : DeviceId) (fired : Nat) : Scheduler R C K :=
  match scheduler.onPort id Port.rearm with
  | (.ok rearmed, scheduler) =>
    (scheduler.noteRearming rearmed).note
      (.handled id fired (rearmed.map fun (_, report) => report.outcome))
  | (.error _, scheduler) => scheduler

end DeadlineTimers.Scheduler
