import DeadlineTimers.Config
import DeadlineTimers.Hardware.Channel

/-!
# What the scheduler asks of the hardware

Three kinds of hardware stand below the scheduler: a timer with a free-running counter and compare
channels, an interrupt controller, and the clock that feeds the timers. Each is a class over the
type of the hardware's state, and an operation takes a state to the next one.
-/

namespace DeadlineTimers

/-- A timer with a free-running counter and compare channels, as the states `R`. An event is latched
when the counter arrives at the compare value of a channel, and stays until it is cleared. -/
class TimerPeripheral (R : Type) where
  /-- Takes the counter into a compare register and returns it. -/
  capture : R → Channel → UInt32 × R
  compare : R → Channel → UInt32
  setCompare : R → Channel → UInt32 → R
  event : R → Channel → Bool
  clearEvent : R → Channel → R
  /-- Lets the event of a channel raise an interrupt. -/
  enableInterrupt : R → Channel → R
  /-- Keeps the event of a channel from raising an interrupt. -/
  disableInterrupt : R → Channel → R
  /-- Tests whether the event of a channel raises an interrupt. -/
  interruptEnabled : R → Channel → Bool
  start : R → R
  /-- Stops the counter where it is. -/
  stop : R → R
  /-- Sets the counter to zero. -/
  clear : R → R
  setWidth : R → CounterWidth → R
  /-- Sets the exponent of the prescaler. -/
  setPrescaler : R → UInt8 → R

/-- An interrupt controller, as the states `C`. -/
class InterruptController (C : Type) where
  /-- Routes a line to the handler of a device at a priority, if there is such a line. -/
  install : C → IrqLine → UInt8 → DeviceId → Option C
  /-- Lets a line interrupt, if there is such a line. -/
  enable : C → IrqLine → Option C
  /-- Marks a line pending without an event of the hardware. -/
  setPending : C → IrqLine → C

/-- The clock that feeds the timers, as the states `K`. -/
class ClockSource (K : Type) where
  /-- Waits until the clock is stable, and tells whether a crystal had to be started for that. There
  is no answer if the wait would never end. -/
  ensureReady : K → Option (Bool × K)

end DeadlineTimers
