import DeadlineTimers.Device.Basic

/-!
# Reading the tick

The tick of a device is its counter, extended by the tally when the counter is narrow. An overflow
that has happened but is not yet in the tally shows as a latched event. Whoever meets that event
first adds one epoch to the tally and clears it, the reader here or the interrupt handler, so each
overflow is counted once. A reader that does so takes the counter again, because the first reading
may be from before the overflow, and makes the handler run, because the next deadline may lie in
the epoch that just began.
-/

namespace DeadlineTimers.Port

variable {R C : Type} [TimerPeripheral R]

/-- Reads the tick of the device, counting an overflow that is not in the tally yet. -/
def read [InterruptController C] (port : Port R C) (line : IrqLine) : Ticks × Port R C :=
  let width := port.device.width
  let (low, timer) := TimerPeripheral.capture port.timer .read
  let captured := { port with timer }
  if !width.isNarrow then (low, captured)
  else if TimerPeripheral.event timer .overflow then
    let tally := port.device.tally + width.epochSpan
    let (low, timer) := TimerPeripheral.capture timer .read
    let folded := { captured with
      timer := TimerPeripheral.clearEvent timer .overflow
      device := { port.device with tally } }
    (tally ||| (low &&& width.counterMask), folded.setPending line)
  else (port.device.tally ||| (low &&& width.counterMask), captured)

/-- Adds an overflow to the tally that is not in it yet, and tells whether there was one. -/
def consumeOverflow (port : Port R C) : Bool × Port R C :=
  let width := port.device.width
  if width.isNarrow && TimerPeripheral.event port.timer .overflow then
    (true, { port with
      timer := TimerPeripheral.clearEvent port.timer .overflow
      device := { port.device with tally := port.device.tally + width.epochSpan } })
  else (false, port)

end DeadlineTimers.Port
