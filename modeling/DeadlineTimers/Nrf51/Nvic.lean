import DeadlineTimers.Hardware.Interface
import DeadlineTimers.Nrf51.Page

/-!
# The interrupt controller of the nRF51

Lines are enabled, made pending and given priorities through the system control page, and a table
routes each of the thirty-two lines to a device. Four lines share a word of priorities, which can only
be written whole, so a priority is set by reading the word and writing it back with one byte changed.
Of that byte the hardware implements the two highest bits.
-/

namespace DeadlineTimers.Nrf51

def lineCount : Nat := 32

/-- The system control page and the routes of the lines. -/
structure Nvic where
  page : Page := {}
  routes : Vector (Option DeviceId) lineCount := .replicate lineCount none
  deriving DecidableEq

namespace Nvic

/-! Offsets of the registers in the page, in bytes. -/

def enableSet : Nat := 0x100

def pendingSet : Nat := 0x200

/-- Offset of the word that holds the priority of a line. -/
def priorityWord (line : IrqLine) : Nat := 0x400 + 4 * (line / 4)

/-- Place of the priority of a line within its word, in bits. -/
def priorityShift (line : IrqLine) : UInt32 := UInt32.ofNat (8 * (line % 4))

def priorityByte (priority : UInt8) : UInt32 :=
  (priority.toUInt32 <<< UInt32.ofNat (8 - priorityBits)) &&& 0xFF

def lineBit (line : IrqLine) : UInt32 := 1 <<< UInt32.ofNat line

def route (nvic : Nvic) (line : IrqLine) : Option DeviceId := nvic.routes[line]?.join

/-- Sets the priority of a line and leaves the others in its word. -/
def setPriority (nvic : Nvic) (line : IrqLine) (priority : UInt8) : Nvic :=
  let shift := priorityShift line
  let word := nvic.page.read (priorityWord line)
  let kept := word &&& ~~~(0xFF <<< shift)
  { nvic with page := nvic.page.write (priorityWord line) (kept ||| priorityByte priority <<< shift) }

/-- Routes a line to a device at a priority. A line beyond the table gets the priority only. -/
def install (nvic : Nvic) (line : IrqLine) (priority : UInt8) (device : DeviceId) : Nvic :=
  { nvic.setPriority line priority with routes := nvic.routes.setIfInBounds line (some device) }

def enable? (nvic : Nvic) (line : IrqLine) : Option Nvic :=
  if line < lineCount then some { nvic with page := nvic.page.write enableSet (lineBit line) }
  else none

def setPending? (nvic : Nvic) (line : IrqLine) : Option Nvic :=
  if line < lineCount then some { nvic with page := nvic.page.write pendingSet (lineBit line) }
  else none

instance : InterruptController Nvic where
  install nvic line priority device := some (nvic.install line priority device)
  enable := enable?
  setPending nvic line := (nvic.setPending? line).getD nvic

end Nvic

end DeadlineTimers.Nrf51
