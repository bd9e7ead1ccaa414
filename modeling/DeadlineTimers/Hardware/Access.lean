import DeadlineTimers.Hardware.Interface

/-!
# Register accesses as data

A single access to a hardware timer, named so that it can be part of a longer sequence, and the
answer it gives.
-/

namespace DeadlineTimers

/-- What an access to the hardware answers. -/
inductive Reading where
  | nothing
  | word (value : UInt32)
  | flag (value : Bool)
  deriving DecidableEq

inductive RegisterAccess where
  | capture (channel : Channel)
  | compare (channel : Channel)
  | setCompare (channel : Channel) (value : UInt32)
  | event (channel : Channel)
  | clearEvent (channel : Channel)
  | enableInterrupt (channel : Channel)
  | disableInterrupt (channel : Channel)
  | interruptEnabled (channel : Channel)
  | start
  | stop
  | clear
  | setWidth (width : CounterWidth)
  | setPrescaler (exponent : UInt8)
  deriving DecidableEq

def RegisterAccess.run {R : Type} [TimerPeripheral R] (timer : R) : RegisterAccess → Reading × R
  | capture channel =>
    let (value, timer) := TimerPeripheral.capture timer channel
    (.word value, timer)
  | compare channel => (.word (TimerPeripheral.compare timer channel), timer)
  | setCompare channel value => (.nothing, TimerPeripheral.setCompare timer channel value)
  | event channel => (.flag (TimerPeripheral.event timer channel), timer)
  | clearEvent channel => (.nothing, TimerPeripheral.clearEvent timer channel)
  | enableInterrupt channel => (.nothing, TimerPeripheral.enableInterrupt timer channel)
  | disableInterrupt channel => (.nothing, TimerPeripheral.disableInterrupt timer channel)
  | interruptEnabled channel => (.flag (TimerPeripheral.interruptEnabled timer channel), timer)
  | start => (.nothing, TimerPeripheral.start timer)
  | stop => (.nothing, TimerPeripheral.stop timer)
  | clear => (.nothing, TimerPeripheral.clear timer)
  | setWidth width => (.nothing, TimerPeripheral.setWidth timer width)
  | setPrescaler exponent => (.nothing, TimerPeripheral.setPrescaler timer exponent)

end DeadlineTimers
