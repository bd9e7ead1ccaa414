import DeadlineTimers.Hardware.Interface

/-!
# The simulated interrupt controller

Thirty-two interrupt lines, each with a pending mark, an enable mark, a priority and the device it
is routed to. Marks are kept by line number modulo 32; a priority and a route exist only for the
thirty-two lines themselves.
-/

namespace DeadlineTimers.Simulated

def lineCount : Nat := 32

structure LineState where
  pending : Bool := false
  enabled : Bool := false
  priority : UInt8 := 0
  route : Option DeviceId := none
  deriving DecidableEq, Inhabited

/-- An interrupt controller that remembers what it was asked to do. -/
structure Nvic where
  lines : Vector LineState lineCount := .replicate lineCount {}
  deriving DecidableEq

namespace Nvic

/-- The place where the marks of a line are kept. -/
def slot (line : IrqLine) : Fin lineCount := ⟨line % lineCount, Nat.mod_lt _ (by decide)⟩

def marks (nvic : Nvic) (line : IrqLine) : LineState := nvic.lines[slot line]

def modifyMarks (nvic : Nvic) (line : IrqLine) (change : LineState → LineState) : Nvic :=
  ⟨nvic.lines.set (slot line) (change (nvic.marks line))⟩

def isPending (nvic : Nvic) (line : IrqLine) : Bool := (nvic.marks line).pending

def isEnabled (nvic : Nvic) (line : IrqLine) : Bool := (nvic.marks line).enabled

/-- Clears the pending mark of a line and tells whether it was set. -/
def takePending (nvic : Nvic) (line : IrqLine) : Bool × Nvic :=
  (nvic.isPending line, nvic.modifyMarks line fun state => { state with pending := false })

def setPending (nvic : Nvic) (line : IrqLine) : Nvic :=
  nvic.modifyMarks line fun state => { state with pending := true }

def line? (nvic : Nvic) (line : IrqLine) : Option LineState := nvic.lines[line]?

def priority? (nvic : Nvic) (line : IrqLine) : Option UInt8 := (nvic.line? line).map (·.priority)

/-- The lines that pass a test, as a sum of powers of two. -/
def mask (nvic : Nvic) (test : LineState → Bool) : Nat :=
  nvic.lines.toList.zipIdx.foldl
    (fun sum (state, line) => if test state then sum + 1 <<< line else sum) 0

def pendingMask (nvic : Nvic) : Nat := nvic.mask (·.pending)

def enabledMask (nvic : Nvic) : Nat := nvic.mask (·.enabled)

theorem marks_modifyMarks (nvic : Nvic) (line other : IrqLine) (change : LineState → LineState) :
    (nvic.modifyMarks line change).marks other =
      if slot other = slot line then change (nvic.marks line) else nvic.marks other := by
  by_cases same : slot other = slot line
  · simp [marks, modifyMarks, same]
  · have different : (slot line).val ≠ (slot other).val := fun equal => same (Fin.ext equal.symm)
    simp [marks, modifyMarks, same, Vector.getElem_set_ne, different]

@[simp] theorem isPending_setPending_self (nvic : Nvic) (line : IrqLine) :
    (nvic.setPending line).isPending line = true := by
  simp [isPending, setPending, marks_modifyMarks]

@[simp] theorem isPending_takePending_self (nvic : Nvic) (line : IrqLine) :
    (nvic.takePending line).2.isPending line = false := by
  simp [isPending, takePending, marks_modifyMarks]

/-- Clearing a mark that is not set changes nothing. -/
theorem takePending_of_not_pending {nvic : Nvic} {line : IrqLine}
    (idle : nvic.isPending line = false) : nvic.takePending line = (false, nvic) := by
  have same : { nvic.marks line with pending := false } = nvic.marks line := by
    rw [← idle]
    rfl
  rw [takePending, idle, modifyMarks, same]
  exact congrArg (Prod.mk false) (congrArg Nvic.mk (Vector.set_getElem_self _))

@[simp] theorem isEnabled_setPending (nvic : Nvic) (line other : IrqLine) :
    (nvic.setPending line).isEnabled other = nvic.isEnabled other := by
  simp only [isEnabled, setPending, marks_modifyMarks]
  split
  · next same => simp [marks, same]
  · rfl

@[simp] theorem isEnabled_takePending (nvic : Nvic) (line other : IrqLine) :
    (nvic.takePending line).2.isEnabled other = nvic.isEnabled other := by
  simp only [isEnabled, takePending, marks_modifyMarks]
  split
  · next same => simp [marks, same]
  · rfl

instance : InterruptController Nvic where
  install nvic line priority device :=
    if h : line < lineCount then
      some ⟨nvic.lines.set line { nvic.lines[line] with priority, route := some device }⟩
    else none
  enable nvic line := some (nvic.modifyMarks line fun state => { state with enabled := true })
  setPending := setPending

end Nvic

end DeadlineTimers.Simulated
