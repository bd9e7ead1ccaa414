import DeadlineTimers.Hardware.Interface
import DeadlineTimers.Prescaler
import DeadlineTimers.Queue

/-!
# Devices

A device is what the scheduler keeps about one hardware timer: whether it runs, the tally of ticks
from the overflows of a narrow counter, and the timers that wait on it. A `Port` is a device together
with the two pieces of hardware it works on, its timer and the interrupt controller; every operation
on a device takes a port to a port.
-/

namespace DeadlineTimers

/-- What the scheduler keeps about one hardware timer. -/
structure Device where
  config : DeviceConfig
  /-- Set while the device runs. -/
  enabled : Bool
  /-- Width that the counter is set to. -/
  width : CounterWidth
  /-- Ticks from the overflows of a narrow counter, the high bits of the tick. -/
  tally : UInt32
  isrs : UInt32
  /-- Tick frequency in Hz, zero before the first start. -/
  frequency : Nat
  queue : DeadlineQueue queueDepth
  deriving DecidableEq

/-- A device that has not been started yet. -/
def Device.ofConfig (config : DeviceConfig) : Device where
  config := config
  enabled := false
  width := config.width
  tally := 0
  isrs := 0
  frequency := 0
  queue := .empty

/-- A device with its hardware timer and the interrupt controller. -/
structure Port (R C : Type) where
  device : Device
  timer : R
  controller : C

namespace Port

variable {R C : Type}

def modifyDevice (port : Port R C) (change : Device → Device) : Port R C :=
  { port with device := change port.device }

def modifyTimer (port : Port R C) (change : R → R) : Port R C :=
  { port with timer := change port.timer }

def setPending [InterruptController C] (port : Port R C) (line : IrqLine) : Port R C :=
  { port with controller := InterruptController.setPending port.controller line }

variable [TimerPeripheral R]

/-- Keeps the compare interrupt from being raised. The counter runs on. -/
def disarm (port : Port R C) : Port R C :=
  port.modifyTimer fun timer => TimerPeripheral.disableInterrupt timer .interrupt

/-- Sets a stopped hardware timer to a prescaler and to the configured width, and starts its counter
at zero. A narrow counter also has its overflow event set up as a match at zero. -/
def bringUp (port : Port R C) (prescaler : Prescaler) : Port R C :=
  let width := port.device.config.width
  let prepare (timer : R) : R :=
    let timer := TimerPeripheral.stop timer
    let timer := TimerPeripheral.setPrescaler timer (UInt8.ofNat prescaler.exponent)
    TimerPeripheral.setWidth timer width
  let watchOverflow (timer : R) : R :=
    let timer := TimerPeripheral.setCompare timer .overflow 0
    let timer := TimerPeripheral.clearEvent timer .overflow
    TimerPeripheral.enableInterrupt timer .overflow
  let launch (timer : R) : R :=
    let timer := TimerPeripheral.clearEvent timer .interrupt
    TimerPeripheral.start (TimerPeripheral.clear timer)
  let timer := prepare port.timer
  { port with
    timer := launch (if width.isNarrow then watchOverflow timer else timer)
    device := { port.device with width, tally := 0, frequency := prescaler.frequency } }

/-- Stops the counter and both interrupts. The waiting timers stay queued. -/
def shutDown (port : Port R C) : Port R C :=
  { port with
    timer :=
      let timer := TimerPeripheral.disableInterrupt port.timer .interrupt
      let timer := TimerPeripheral.disableInterrupt timer .overflow
      TimerPeripheral.stop timer
    device := { port.device with enabled := false } }

end Port

end DeadlineTimers
