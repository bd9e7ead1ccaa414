/-!
# Compare channels

Three of the four compare channels of a hardware timer are in use: one notices a narrow counter
wrapping to zero, one takes the counter when it is read, and one raises the scheduling interrupt.
`PerChannel` keeps one value for each of them.
-/

namespace DeadlineTimers

/-- The compare channels in use. -/
inductive Channel where
  /-- Matches at zero, so its event tells that a narrow counter wrapped. -/
  | overflow
  /-- Takes the counter when it is read. -/
  | read
  /-- Raises the interrupt at the earliest deadline. -/
  | interrupt
  deriving DecidableEq, Inhabited

namespace Channel

/-- Position of a channel among the registers of the hardware. -/
def index : Channel → Nat
  | overflow => 1
  | read => 2
  | interrupt => 3

def ofIndex? : Nat → Option Channel
  | 1 => some overflow
  | 2 => some read
  | 3 => some interrupt
  | _ => none

def all : List Channel := [overflow, read, interrupt]

/-- The bit that enables the interrupt of the hardware channel at a position. -/
def interruptBit (position : Nat) : UInt32 := UInt32.ofNat (1 <<< (16 + position))

def interruptMask (channel : Channel) : UInt32 := interruptBit channel.index

/-- The enable bits of all four channels of the hardware, the unused one included. -/
def allInterrupts : UInt32 :=
  interruptBit 0 ||| interruptBit 1 ||| interruptBit 2 ||| interruptBit 3

@[simp] theorem ofIndex?_index (channel : Channel) : ofIndex? channel.index = some channel := by
  cases channel <;> rfl

end Channel

/-- One value for each channel. -/
structure PerChannel (α : Type) where
  overflow : α
  read : α
  interrupt : α
  deriving DecidableEq

namespace PerChannel

variable {α β : Type}

def replicate (value : α) : PerChannel α := ⟨value, value, value⟩

def get (values : PerChannel α) : Channel → α
  | .overflow => values.overflow
  | .read => values.read
  | .interrupt => values.interrupt

def set (values : PerChannel α) (channel : Channel) (value : α) : PerChannel α :=
  match channel with
  | .overflow => { values with overflow := value }
  | .read => { values with read := value }
  | .interrupt => { values with interrupt := value }

def modify (values : PerChannel α) (channel : Channel) (change : α → α) : PerChannel α :=
  values.set channel (change (values.get channel))

def map (change : α → β) (values : PerChannel α) : PerChannel β :=
  ⟨change values.overflow, change values.read, change values.interrupt⟩

def toList (values : PerChannel α) : List α := [values.overflow, values.read, values.interrupt]

@[simp] theorem get_map (change : α → β) (values : PerChannel α) (channel : Channel) :
    (values.map change).get channel = change (values.get channel) := by
  cases channel <;> rfl

end PerChannel

end DeadlineTimers
