import DeadlineTimers.Config
import DeadlineTimers.Tick

/-!
# Software timers

A software timer belongs to its client and outlives any wait. It remembers the callback it was
attached with, the device, and, while it waits, its deadline. Every number names a timer, and one
that was never used is idle; so the table of timers is a total map with finitely many entries set.
-/

namespace DeadlineTimers

/-- Number of a callback among those of the client. -/
abbrev CallbackId := Nat

/-- What is remembered about one software timer. -/
structure TimerSlot where
  callback : Option CallbackId := none
  /-- The value handed to the callback. -/
  arg : Nat := 0
  device : Option DeviceId := none
  expiry : Ticks := 0
  /-- Set while the timer waits in a queue. -/
  linked : Bool := false
  deriving DecidableEq

namespace TimerSlot

def idle : TimerSlot := {}

def isPending (slot : TimerSlot) : Bool := slot.linked

def pendingExpiry (slot : TimerSlot) : Option Ticks :=
  if slot.linked then some slot.expiry else none

def ownerText : Option DeviceId → String
  | none => "None"
  | some id => "Some(DeviceId(" ++ toString id ++ "))"

/-- A timer in words, for a person who looks for a fault. -/
def description (slot : TimerSlot) : String :=
  "HalTimer \x7b device: " ++ ownerText slot.device ++ ", linked: " ++ toString slot.linked ++
    ", expiry: " ++ toString slot.expiry.toNat ++ " \x7d"

end TimerSlot

/-- The software timers by number. -/
structure TimerTable where
  slots : Array TimerSlot := #[]
  deriving DecidableEq

namespace TimerTable

def get (table : TimerTable) (timer : TimerId) : TimerSlot := table.slots.getD timer .idle

def set (table : TimerTable) (timer : TimerId) (slot : TimerSlot) : TimerTable :=
  let room := table.slots ++ Array.replicate (timer + 1 - table.slots.size) .idle
  ⟨room.setIfInBounds timer slot⟩

def modify (table : TimerTable) (timer : TimerId) (change : TimerSlot → TimerSlot) : TimerTable :=
  table.set timer (change (table.get timer))

theorem get_set (table : TimerTable) (timer other : TimerId) (slot : TimerSlot) :
    (table.set timer slot).get other = if other = timer then slot else table.get other := by
  simp only [get, set, Array.getD_eq_getD_getElem?, Array.getElem?_setIfInBounds,
    Array.getElem?_append, Array.getElem?_replicate]
  grind

@[simp] theorem get_set_self (table : TimerTable) (timer : TimerId) (slot : TimerSlot) :
    (table.set timer slot).get timer = slot := by
  simp [get_set]

theorem get_set_of_ne (table : TimerTable) {timer other : TimerId} (slot : TimerSlot)
    (different : other ≠ timer) : (table.set timer slot).get other = table.get other := by
  simp [get_set, different]

end TimerTable

end DeadlineTimers
