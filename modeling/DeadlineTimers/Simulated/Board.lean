import DeadlineTimers.Simulated.Clock
import DeadlineTimers.Simulated.Nvic
import DeadlineTimers.Simulated.Timer
import DeadlineTimers.Machine.Execution

/-!
# The simulated board

Three simulated timers on a simulated interrupt controller and clock. Time and interrupts are in the
hands of the user: `service` runs the handler of a device for as long as its line is active, `step`
moves the counter one tick at a time and serves the line after each, and `jump` moves it in one go
and serves the line once, as after a long stretch without interrupts.

A line is active when it may interrupt and is marked pending, or its hardware timer asserts it. All
of this goes by the line that the layout states, whatever was registered since.
-/

namespace DeadlineTimers.Simulated

/-- What can be asked of a simulated board beside the scheduling calls. -/
inductive BoardRequest where
  | access (id : DeviceId) (access : TimerAccess)
  | setPending (line : IrqLine)
  /-- Clears the pending mark of a line and tells whether it was set. -/
  | takePending (line : IrqLine)
  /-- Runs the handler of a device while its line is active. -/
  | service (id : DeviceId)
  /-- Moves a counter tick by tick, serving its line after each. -/
  | step (id : DeviceId) (ticks : Ticks)
  /-- Moves a counter in one go and then serves its line. -/
  | jump (id : DeviceId) (ticks : Ticks)
  | jumps (id : DeviceId) (ticks : Ticks) (times : Nat)
  deriving DecidableEq

abbrev SimBoard := Board Timer Nvic Clock

abbrev SimScheduler := Scheduler Timer Nvic Clock

abbrev SimRun := Run Timer Nvic Clock BoardRequest

/-- A simulated board with a layout, everything at rest. -/
def boardOfLayout (layout : Vector DeviceConfig maxDevices) : SimBoard :=
  .ofLayout layout (layout.map fun config => { width := config.width }) {} {}

/-- Handler runs that one `service` makes at most. -/
def servicePasses : Nat := 64

namespace SimScheduler

def modifyPeripheral {α : Type} (place : Fin maxDevices) (operation : Timer → α × Timer)
    (scheduler : SimScheduler) : α × SimScheduler :=
  let (answer, timer) := operation (scheduler.board.peripherals.get place)
  let peripherals := scheduler.board.peripherals.set place timer place.isLt
  (answer, { scheduler with board := { scheduler.board with peripherals } })

def takePending (line : IrqLine) (scheduler : SimScheduler) : Bool × SimScheduler :=
  let (pending, controller) := scheduler.board.controller.takePending line
  (pending, { scheduler with board := { scheduler.board with controller } })

def setPending (line : IrqLine) (scheduler : SimScheduler) : SimScheduler :=
  { scheduler with board :=
      { scheduler.board with controller := scheduler.board.controller.setPending line } }

/-- Tests whether the line of a device is active, clearing its pending mark if it may interrupt. -/
def takeActive (place : Fin maxDevices) (scheduler : SimScheduler) : Bool × SimScheduler :=
  let line := (scheduler.board.layout.get place).line
  if scheduler.board.controller.isEnabled line then
    let (pending, scheduler) := takePending line scheduler
    (pending || (scheduler.board.peripherals.get place).irqAsserted, scheduler)
  else (false, scheduler)

end SimScheduler

def findPeripheral (id : DeviceId) : SimRun (Fin maxDevices) :=
  if h : id < maxDevices then pure ⟨id, h⟩ else throw (.peripheralOutOfRange id)

section Service

variable (interrupt : BoardId → DeviceId → SimRun Nat) (board : BoardId)

/-- Runs the handler while the line of a device is active, at most a given number of times. Answers
how many callbacks were called. -/
def servicePass (place : Fin maxDevices) : Nat → SimRun Nat
  | 0 => pure 0
  | passes + 1 => do
    if ← Run.onBoard board (SimScheduler.takeActive place) then
      let fired ← interrupt board place
      let others ← servicePass place passes
      pure (fired + others)
    else pure 0

def service (place : Fin maxDevices) : SimRun Nat :=
  servicePass interrupt board place servicePasses

def advance (place : Fin maxDevices) (ticks : Ticks) : SimRun Unit :=
  Run.onBoard board (SimScheduler.modifyPeripheral place fun timer => ((), timer.advance ticks))

/-- Moves a counter one tick and serves its line, a number of times. -/
def stepTicks (place : Fin maxDevices) : Nat → SimRun Nat
  | 0 => pure 0
  | ticks + 1 => do
    advance board place 1
    let fired ← service interrupt board place
    let others ← stepTicks place ticks
    pure (fired + others)

/-- Serves the line of a device, and then moves its counter tick by tick, serving after each. -/
def step (place : Fin maxDevices) (ticks : Ticks) : SimRun Nat := do
  let fired ← service interrupt board place
  let others ← stepTicks interrupt board place ticks.toNat
  pure (fired + others)

/-- Moves a counter in one go and serves its line. -/
def jump (place : Fin maxDevices) (ticks : Ticks) : SimRun Nat := do
  advance board place ticks
  service interrupt board place

/-- Jumps a number of times. The hardware timer is looked for at each jump. -/
def jumps (id : DeviceId) (ticks : Ticks) : Nat → SimRun Nat
  | 0 => pure 0
  | times + 1 => do
    let fired ← jump interrupt board (← findPeripheral id) ticks
    let others ← jumps id ticks times
    pure (fired + others)

end Service

instance : Platform Timer Nvic Clock BoardRequest where
  perform interrupt board request :=
    match request with
    | .access id access => do
      let place ← findPeripheral id
      .reading <$> Run.onBoard board (SimScheduler.modifyPeripheral place access.run)
    | .setPending line => do
      Run.onBoard board fun scheduler => ((), SimScheduler.setPending line scheduler)
      pure .done
    | .takePending line => .flag <$> Run.onBoard board (SimScheduler.takePending line)
    | .service id => do .number <$> service interrupt board (← findPeripheral id)
    | .step id ticks => do .number <$> step interrupt board (← findPeripheral id) ticks
    | .jump id ticks => do .number <$> jump interrupt board (← findPeripheral id) ticks
    | .jumps id ticks times => .number <$> jumps interrupt board id ticks times

end DeadlineTimers.Simulated
