import DeadlineTimers.Hardware.Interface
import DeadlineTimers.Nrf51.Page

/-!
# The high-frequency clock of the nRF51

The timers are fed from a clock that runs on an inaccurate oscillator until its crystal is started.
The clock is ready at once if the status word says that the crystal runs. Otherwise the crystal is
started, and the wait ends with the event that it raises. The page is plain memory, so that event
needs an oscillator beside it, which raises the event whenever the start task holds a one; without
an oscillator the wait would never end.
-/

namespace DeadlineTimers.Nrf51

/-- The page of the clock, and whether an oscillator answers to it. -/
structure Clock where
  page : Page := {}
  oscillator : Bool := false
  deriving DecidableEq

namespace Clock

/-! Offsets of the registers in the page, in bytes. -/

def startTask : Nat := 0x000

def startedEvent : Nat := 0x100

def status : Nat := 0x40C

def runningBit : UInt32 := 0x10000

def running : Clock := { page := ({} : Page).write status runningBit }

/-- A clock whose crystal stands still, with an oscillator that answers when it is started. -/
def still : Clock := { oscillator := true }

/-- Lets the oscillator raise its event if it has been told to start. -/
def settle (clock : Clock) : Clock :=
  if clock.oscillator && clock.page.read startTask == 1 && clock.page.read startedEvent == 0 then
    { clock with page := clock.page.write startedEvent 1 }
  else clock

/-- Writes a word of the page, and lets the oscillator answer. -/
def write (clock : Clock) (offset : Nat) (value : UInt32) : Clock :=
  settle { clock with page := clock.page.write offset value }

instance : ClockSource Clock where
  ensureReady clock :=
    if clock.page.test status runningBit then some (false, clock)
    else
      let clock := (clock.write startedEvent 0).write startTask 1
      if clock.page.read startedEvent = 0 then none else some (true, clock)

end Clock

end DeadlineTimers.Nrf51
