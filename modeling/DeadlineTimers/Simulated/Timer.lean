import DeadlineTimers.Hardware.Access

/-!
# The simulated timer

A timer whose counter moves only when told to: by `advance`, or by a set number of ticks at every
capture. The counter visits every value on its way, so a movement of `n` ticks latches the event of
each channel whose compare value it passes or lands on.

Beside what the registers show, the timer carries two instruments that never influence it.
`travelled` is the number of ticks counted since the counter was last cleared, and `missed` the
number of matches of a channel since then that found its event latched already, matches whose own
event was therefore lost.
-/

namespace DeadlineTimers.Simulated

structure ChannelState where
  compare : UInt32 := 0
  event : Bool := false
  interruptEnabled : Bool := false
  /-- Matches since the counter was last cleared that found the event latched already. -/
  missed : Nat := 0
  deriving DecidableEq

structure Timer where
  width : CounterWidth
  counter : UInt32 := 0
  prescaler : UInt8 := 0
  running : Bool := false
  /-- Ticks that the counter moves at every capture. -/
  autoAdvance : UInt32 := 0
  channels : PerChannel ChannelState := .replicate {}
  /-- Ticks counted since the counter was last cleared. -/
  travelled : Nat := 0
  deriving DecidableEq

namespace ChannelState

/-- How many ticks past the compare value a counter stands, on its way around. -/
def phase (channel : ChannelState) (width : CounterWidth) (counter : UInt32) : Nat :=
  ((counter - channel.compare) &&& width.counterMask).toNat

/-- How often a counter arrives at the compare value when it moves `ticks` ticks on from `counter`:
once for each whole round that it completes, counted from the compare value. -/
def arrivals (channel : ChannelState) (width : CounterWidth) (counter ticks : UInt32) : Nat :=
  (channel.phase width counter + ticks.toNat) / width.states

/-- Latches the event if the counter arrived at the compare value at least once, and counts the
matches that found the event latched. -/
def latch (channel : ChannelState) (count : Nat) : ChannelState :=
  if count = 0 then channel
  else
    { channel with
      event := true
      missed := channel.missed + (if channel.event then count else count - 1) }

end ChannelState

namespace Timer

/-- Moves the counter forward, latching the events of the channels it passes. A stopped counter does
not move. -/
def advance (timer : Timer) (ticks : UInt32) : Timer :=
  if timer.running && ticks != 0 then
    { timer with
      counter := (timer.counter + ticks) &&& timer.width.counterMask
      channels := timer.channels.map fun channel =>
        channel.latch (channel.arrivals timer.width timer.counter ticks)
      travelled := timer.travelled + ticks.toNat }
  else timer

def setAutoAdvance (timer : Timer) (ticks : UInt32) : Timer := { timer with autoAdvance := ticks }

/-- Puts the counter at a value without latching any event. -/
def setCounter (timer : Timer) (value : UInt32) : Timer :=
  { timer with counter := value &&& timer.width.counterMask }

/-- Tests whether an enabled event is latched, so that the interrupt line is high. -/
def irqAsserted (timer : Timer) : Bool :=
  timer.channels.toList.any fun channel => channel.event && channel.interruptEnabled

def modifyChannel (timer : Timer) (channel : Channel) (change : ChannelState → ChannelState) :
    Timer :=
  { timer with channels := timer.channels.modify channel change }

/-- Moves the counter as far as every capture does, and takes it into a compare register. -/
def capture (timer : Timer) (channel : Channel) : UInt32 × Timer :=
  let moved := timer.advance timer.autoAdvance
  (moved.counter, moved.modifyChannel channel fun state => { state with compare := moved.counter })

instance : TimerPeripheral Timer where
  capture := capture
  compare timer channel := (timer.channels.get channel).compare
  setCompare timer channel value :=
    timer.modifyChannel channel fun state =>
      { state with compare := value &&& timer.width.counterMask }
  event timer channel := (timer.channels.get channel).event
  clearEvent timer channel := timer.modifyChannel channel fun state => { state with event := false }
  enableInterrupt timer channel :=
    timer.modifyChannel channel fun state => { state with interruptEnabled := true }
  disableInterrupt timer channel :=
    timer.modifyChannel channel fun state => { state with interruptEnabled := false }
  interruptEnabled timer channel := (timer.channels.get channel).interruptEnabled
  start timer := { timer with running := true }
  stop timer := { timer with running := false }
  clear timer :=
    { timer with
      counter := 0
      channels := timer.channels.map fun channel => { channel with missed := 0 }
      travelled := 0 }
  setWidth timer width := { timer with width, counter := timer.counter &&& width.counterMask }
  setPrescaler timer exponent := { timer with prescaler := exponent }

end Timer

/-- An access to a simulated timer: one to its registers, or a movement of the simulation. -/
inductive TimerAccess where
  | register (access : RegisterAccess)
  | advance (ticks : UInt32)
  | setAutoAdvance (ticks : UInt32)
  | setCounter (value : UInt32)
  deriving DecidableEq

def TimerAccess.run (timer : Timer) : TimerAccess → Reading × Timer
  | register access => access.run timer
  | advance ticks => (.nothing, timer.advance ticks)
  | setAutoAdvance ticks => (.nothing, timer.setAutoAdvance ticks)
  | setCounter value => (.nothing, timer.setCounter value)

end DeadlineTimers.Simulated
