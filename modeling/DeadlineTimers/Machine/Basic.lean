import DeadlineTimers.Scheduler.Handler
import DeadlineTimers.Machine.Program

/-!
# Machines

A machine is any number of boards that share the software timers, the log, and a history of what
happened. Operations on a machine are runs: they may end in a fault, and what they did before that
stays done. An operation on a scheduler becomes a run by way of one of the boards.
-/

namespace DeadlineTimers

/-- Boards with the timers, the log and the history that they share. -/
structure Machine (R C K X : Type) where
  boards : Array (Board R C K)
  timers : TimerTable
  logger : Log.Logger
  history : Array (Event X)

/-- An operation on a machine that may end in a fault. -/
abbrev Run (R C K X : Type) := ExceptT Fault (StateM (Machine R C K X))

namespace Machine

def ofBoards {R C K : Type} (X : Type) (boards : Array (Board R C K)) (logger : Log.Logger) :
    Machine R C K X where
  boards := boards
  timers := {}
  logger := logger
  history := #[]

end Machine

namespace Run

variable {R C K X : Type}

/-- Carries out an operation on the scheduler that a board makes up with the shared parts. -/
def onBoard {α : Type} (board : BoardId) (operation : Scheduler R C K → α × Scheduler R C K) :
    Run R C K X α := do
  let machine ← get
  match machine.boards[board]? with
  | none => throw (.boardOutOfRange board)
  | some present =>
    let (answer, scheduler) := operation ⟨present, machine.timers, machine.logger⟩
    set { machine with
      boards := machine.boards.setIfInBounds board scheduler.board
      timers := scheduler.timers
      logger := scheduler.logger }
    pure answer

/-- Carries out an operation on a scheduler that may end in a fault. -/
def onBoardOrFault {α : Type} (board : BoardId)
    (operation : Scheduler R C K → Except Fault α × Scheduler R C K) : Run R C K X α := do
  match ← onBoard board operation with
  | .ok answer => pure answer
  | .error fault => throw fault

def ask {α : Type} (board : BoardId) (question : Scheduler R C K → α) : Run R C K X α :=
  onBoard board fun scheduler => (question scheduler, scheduler)

def note (event : Event X) : Run R C K X Unit :=
  modify fun machine => { machine with history := machine.history.push event }

end Run

end DeadlineTimers
