import DeadlineTimers.Hardware.Interface
import DeadlineTimers.Nrf51.Page

/-!
# The TIMER peripheral of the nRF51

Each operation on the timer is one or two accesses to its page. The page is plain memory, so a task
leaves its one behind and the counter does not count, and the words that enable and disable
interrupts keep what was last written to either.
-/

namespace DeadlineTimers.Nrf51

/-- The page of a TIMER peripheral. -/
structure Timer where
  page : Page := {}
  deriving DecidableEq

namespace Timer

/-! Offsets of the registers in the page, in bytes. -/

def startTask : Nat := 0x000

def stopTask : Nat := 0x004

def clearTask : Nat := 0x00C

def captureTask (channel : Channel) : Nat := 0x040 + 4 * channel.index

def compareEvent (channel : Channel) : Nat := 0x140 + 4 * channel.index

def interruptSet : Nat := 0x304

def interruptClear : Nat := 0x308

/-- Offset of the word that chooses between counting ticks and counting events. -/
def mode : Nat := 0x504

def bitMode : Nat := 0x508

def prescaler : Nat := 0x510

def compareRegister (channel : Channel) : Nat := 0x540 + 4 * channel.index

/-- The mode in which ticks are counted. -/
def timerMode : UInt32 := 0

def widthCode : CounterWidth → UInt32
  | .bits16 => 0
  | .bits8 => 1
  | .bits24 => 2
  | .bits32 => 3

def write (timer : Timer) (offset : Nat) (value : UInt32) : Timer :=
  ⟨timer.page.write offset value⟩

instance : TimerPeripheral Timer where
  capture timer channel :=
    let timer := timer.write (captureTask channel) 1
    (timer.page.read (compareRegister channel), timer)
  compare timer channel := timer.page.read (compareRegister channel)
  setCompare timer channel value := timer.write (compareRegister channel) value
  event timer channel := timer.page.read (compareEvent channel) != 0
  clearEvent timer channel := timer.write (compareEvent channel) 0
  enableInterrupt timer channel := timer.write interruptSet channel.interruptMask
  disableInterrupt timer channel := timer.write interruptClear channel.interruptMask
  interruptEnabled timer channel := timer.page.test interruptSet channel.interruptMask
  start timer := timer.write startTask 1
  stop timer := timer.write stopTask 1
  clear timer := timer.write clearTask 1
  setWidth timer width := (timer.write mode timerMode).write bitMode (widthCode width)
  setPrescaler timer exponent := timer.write prescaler exponent.toUInt32

end Timer

end DeadlineTimers.Nrf51
