import DeadlineTimers.Device.Arming

/-!
# Steps of the interrupt handler

The handler of a device first acknowledges the interrupt, then takes due timers off the queue one at
a time, reading the tick afresh for each, and last arms the compare for what remains. Here are the
first two steps; between them the callbacks of the timers run.
-/

namespace DeadlineTimers.Port

variable {R C : Type} [TimerPeripheral R]

/-- Acknowledges an interrupt: clears the compare event, adds an overflow to the tally, and counts
the interrupt. Tells whether the device runs; a stopped device is disarmed and has nothing due. -/
def acknowledge (port : Port R C) : Bool × Port R C :=
  let cleared := port.modifyTimer fun timer => TimerPeripheral.clearEvent timer .interrupt
  let counted := cleared.consumeOverflow.2.modifyDevice fun device =>
    { device with isrs := device.isrs + 1 }
  if counted.device.enabled then (true, counted) else (false, counted.disarm)

/-- Takes the head off the queue if the tick has reached its deadline, together with that tick. -/
def takeDue [InterruptController C] (port : Port R C) : Option (QueueEntry × Ticks) × Port R C :=
  let (now, port) := port.read port.device.config.line
  let (due, queue) := port.device.queue.popExpired now
  (due.map fun entry => (entry, now), port.modifyDevice fun device => { device with queue })

end DeadlineTimers.Port
