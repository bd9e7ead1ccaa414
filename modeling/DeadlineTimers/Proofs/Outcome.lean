import DeadlineTimers.Machine.Execution

/-!
# What a run comes to

A run is a function from a machine to an answer or a fault and the next machine. `Run.outcome` is that
function, and the equations below evaluate it. `Run.Ensures` is the statement most proofs make about
a run: from a machine with one board, whenever there is an answer, the scheduler and the history that
come with it satisfy an assertion. It says nothing about a run that ends in a fault.
-/

namespace DeadlineTimers

/-- What happened on a machine, oldest first. -/
abbrev History (X : Type) := Array (Event X)

variable {R C K X : Type} {α β : Type}

theorem append_append (history : History X) (first second : List (Event X)) :
    history ++ first ++ second = history ++ (first ++ second) := by
  apply Array.ext'
  rw [Array.toList_appendList, Array.toList_appendList, Array.toList_appendList, List.append_assoc]

def Machine.single (scheduler : Scheduler R C K) (history : History X) : Machine R C K X where
  boards := #[scheduler.board]
  timers := scheduler.timers
  logger := scheduler.logger
  history := history

theorem Machine.single_inj {scheduler scheduler' : Scheduler R C K} {history history' : History X}
    (same : Machine.single scheduler history = Machine.single scheduler' history') :
    scheduler = scheduler' ∧ history = history' := by
  obtain ⟨board, timers, logger⟩ := scheduler
  obtain ⟨board', timers', logger'⟩ := scheduler'
  simpa [Machine.single, and_assoc] using same

namespace Run

/-- The answer or the fault of a run on a machine, and the machine it leaves. -/
def outcome (run : Run R C K X α) (machine : Machine R C K X) :
    Except Fault α × Machine R C K X := run.run.run machine

section Equations

variable (machine : Machine R C K X)

@[simp] theorem outcome_pure (answer : α) :
    outcome (pure answer : Run R C K X α) machine = (.ok answer, machine) := rfl

theorem outcome_bind (run : Run R C K X α) (next : α → Run R C K X β) :
    outcome (run >>= next) machine =
      match outcome run machine with
      | (.ok answer, machine) => outcome (next answer) machine
      | (.error fault, machine) => (.error fault, machine) := by
  change (ExceptT.bindCont next (run machine).1) (run machine).2 =
    match run machine with
    | (.ok answer, machine) => outcome (next answer) machine
    | (.error fault, machine) => (.error fault, machine)
  rcases run machine with ⟨_ | _, _⟩ <;> rfl

theorem outcome_bind_of_ok {run : Run R C K X α} {next : α → Run R C K X β} {answer : α}
    {machine after : Machine R C K X} (ran : outcome run machine = (.ok answer, after)) :
    outcome (run >>= next) machine = outcome (next answer) after := by
  rw [outcome_bind, ran]

theorem outcome_map (change : α → β) (run : Run R C K X α) :
    outcome (change <$> run) machine =
      match outcome run machine with
      | (.ok answer, machine) => (.ok (change answer), machine)
      | (.error fault, machine) => (.error fault, machine) := by
  rw [← bind_pure_comp, outcome_bind]
  rfl

theorem outcome_map_of_ok {change : α → β} {run : Run R C K X α} {answer : α}
    {machine after : Machine R C K X} (ran : outcome run machine = (.ok answer, after)) :
    outcome (change <$> run) machine = (.ok (change answer), after) := by
  rw [outcome_map, ran]

theorem outcome_get :
    outcome (get : Run R C K X (Machine R C K X)) machine = (.ok machine, machine) := rfl

theorem outcome_note (event : Event X) (scheduler : Scheduler R C K) (history : History X) :
    outcome (note event) (.single scheduler history) =
      (.ok (), .single scheduler (history.push event)) := rfl

theorem outcome_onBoard (scheduler : Scheduler R C K) (history : History X)
    (operation : Scheduler R C K → α × Scheduler R C K) :
    outcome (onBoard 0 operation) (.single scheduler history) =
      (.ok (operation scheduler).1, .single (operation scheduler).2 history) := rfl

theorem outcome_onBoardOrFault_of_ok {scheduler after : Scheduler R C K} {history : History X}
    {operation : Scheduler R C K → Except Fault α × Scheduler R C K} {answer : α}
    (did : operation scheduler = (.ok answer, after)) :
    outcome (onBoardOrFault 0 operation) (.single scheduler history) =
      (.ok answer, .single after history) := by
  rw [onBoardOrFault, outcome_bind_of_ok (outcome_onBoard _ _ _), did]
  rfl

theorem outcome_onBoard_of_ne (scheduler : Scheduler R C K) (history : History X)
    {board : BoardId} (other : board ≠ 0) (operation : Scheduler R C K → α × Scheduler R C K) :
    outcome (onBoard board operation) (.single scheduler history) =
      (.error (.boardOutOfRange board), .single scheduler history) := by
  have none : (Machine.single scheduler history).boards[board]? = none :=
    Array.getElem?_eq_none (Nat.one_le_iff_ne_zero.2 other)
  rw [onBoard, outcome_bind_of_ok (outcome_get _), none]
  rfl

/-- Calling a callback notes it, and runs the program that the client gives for it. -/
theorem outcome_fire [TimerPeripheral R] [InterruptController C] [ClockSource K]
    [Platform R C K X] (client : Client X) (limit depth : Nat) (firing : Firing)
    (scheduler : Scheduler R C K) (history : History X) :
    outcome (fire client limit (depth + 1) firing) (.single scheduler history) =
      outcome (runProgram (fire client limit depth) limit history.size
          (client (history.push (.fired firing)) firing))
        (.single scheduler (history.push (.fired firing))) := by
  rw [fire, outcome_bind_of_ok (outcome_note _ _ _), outcome_bind_of_ok (outcome_get _)]
  simp [Machine.single]

end Equations

/-! ## Assertions about runs -/

abbrev Assertion (R C K X : Type) := Scheduler R C K → History X → Prop

/-- Whenever the run answers, on a machine with one board that satisfies `before`, there is still one
board, and `after` holds of the answer. -/
def Ensures (before : Assertion R C K X) (run : Run R C K X α)
    (after : α → Assertion R C K X) : Prop :=
  ∀ scheduler history, before scheduler history →
    ∀ answer machine, outcome run (.single scheduler history) = (.ok answer, machine) →
      ∃ scheduler' history', machine = .single scheduler' history' ∧
        after answer scheduler' history'

section Rules

variable {before between after' : Assertion R C K X} {after : α → Assertion R C K X}

theorem Ensures.of_imp {run : Run R C K X α} {before' : Assertion R C K X}
    {after' : α → Assertion R C K X} (ensures : Ensures before run after)
    (stronger : ∀ scheduler history, before' scheduler history → before scheduler history)
    (weaker : ∀ answer scheduler history,
      after answer scheduler history → after' answer scheduler history) :
    Ensures before' run after' := by
  intro scheduler history held answer machine ran
  obtain ⟨scheduler', history', rfl, holds⟩ :=
    ensures scheduler history (stronger scheduler history held) answer machine ran
  exact ⟨scheduler', history', rfl, weaker answer scheduler' history' holds⟩

theorem Ensures.pure {answer : α}
    (holds : ∀ scheduler history, before scheduler history → after answer scheduler history) :
    Ensures before (Pure.pure answer) after := by
  intro scheduler history held answer' machine ran
  rw [outcome_pure] at ran
  obtain ⟨answered, rfl⟩ := Prod.mk.inj ran
  obtain rfl := Except.ok.inj answered
  exact ⟨scheduler, history, rfl, holds scheduler history held⟩

theorem Ensures.throw {fault : Fault} :
    Ensures before (MonadExcept.throw fault : Run R C K X α) after := by
  intro scheduler history _ answer machine ran
  cases congrArg Prod.fst ran

theorem Ensures.bind {run : Run R C K X α} {next : α → Run R C K X β}
    {middle : α → Assertion R C K X} {after : β → Assertion R C K X}
    (first : Ensures before run middle) (rest : ∀ answer, Ensures (middle answer) (next answer) after) :
    Ensures before (run >>= next) after := by
  intro scheduler history held answer machine ran
  rw [outcome_bind] at ran
  split at ran
  · next middleAnswer between came =>
    obtain ⟨scheduler', history', rfl, holds⟩ := first scheduler history held _ _ came
    exact rest middleAnswer scheduler' history' holds answer machine ran
  · cases congrArg Prod.fst ran

theorem Ensures.map {change : α → β} {run : Run R C K X α} {after : β → Assertion R C K X}
    (ensures : Ensures before run fun answer => after (change answer)) :
    Ensures before (change <$> run) after := by
  rw [← bind_pure_comp]
  exact ensures.bind fun _ => .pure fun _ _ => id

theorem Ensures.note {event : Event X} {after : Unit → Assertion R C K X}
    (holds : ∀ scheduler history, before scheduler history →
      after () scheduler (history.push event)) :
    Ensures before (note event) after := by
  intro scheduler history held answer machine ran
  rw [outcome_note] at ran
  obtain ⟨-, rfl⟩ := Prod.mk.inj ran
  exact ⟨scheduler, history.push event, rfl, holds scheduler history held⟩

theorem Ensures.onBoard {board : BoardId}
    {operation : Scheduler R C K → α × Scheduler R C K}
    (holds : board = 0 → ∀ scheduler history, before scheduler history →
      after (operation scheduler).1 (operation scheduler).2 history) :
    Ensures before (onBoard board operation) after := by
  intro scheduler history held answer machine ran
  by_cases zero : board = 0
  · subst zero
    rw [outcome_onBoard] at ran
    obtain ⟨answered, rfl⟩ := Prod.mk.inj ran
    obtain rfl := Except.ok.inj answered
    exact ⟨_, history, rfl, holds rfl scheduler history held⟩
  · rw [outcome_onBoard_of_ne _ _ zero] at ran
    cases congrArg Prod.fst ran

theorem Ensures.onBoardOrFault {board : BoardId}
    {operation : Scheduler R C K → Except Fault α × Scheduler R C K}
    (holds : board = 0 → ∀ scheduler history answer scheduler',
      before scheduler history → operation scheduler = (.ok answer, scheduler') →
        after answer scheduler' history) :
    Ensures before (onBoardOrFault board operation) after := by
  have first : Ensures before (Run.onBoard board operation) fun result scheduler' history =>
      ∀ answer, result = .ok answer → after answer scheduler' history := by
    apply Ensures.onBoard
    intro zero scheduler history held answer answered
    exact holds zero scheduler history answer _ held (Prod.ext answered rfl)
  refine first.bind ?_
  rintro (fault | answer)
  · exact .throw
  · exact .pure fun _ _ holds => holds answer rfl

end Rules

/-! ## Runs that come to an answer -/

/-- On a machine with one board the run comes to an answer. What happens meanwhile is added to the history,
and an assertion holds of the answer, of what happened and of the scheduler that is left. -/
def Attains (scheduler : Scheduler R C K) (history : History X) (run : Run R C K X α)
    (after : α → List (Event X) → Scheduler R C K → Prop) : Prop :=
  ∃ (answer : α) (events : List (Event X)) (scheduler' : Scheduler R C K),
    outcome run (.single scheduler history) =
      (.ok answer, .single scheduler' (history ++ events)) ∧ after answer events scheduler'

namespace Attains

variable {scheduler : Scheduler R C K} {history : History X}
  {after : α → List (Event X) → Scheduler R C K → Prop}

theorem of_imp {run : Run R C K X α} {after' : α → List (Event X) → Scheduler R C K → Prop}
    (attains : Attains scheduler history run after)
    (weaker : ∀ answer (events : List (Event X)) scheduler', after answer events scheduler' →
      after' answer events scheduler') : Attains scheduler history run after' := by
  obtain ⟨answer, events, scheduler', ran, holds⟩ := attains
  exact ⟨answer, events, scheduler', ran, weaker answer events scheduler' holds⟩

theorem pure {answer : α} (holds : after answer [] scheduler) :
    Attains scheduler history (Pure.pure answer) after :=
  ⟨answer, [], scheduler, by rw [outcome_pure, Array.appendList_nil], holds⟩

theorem note {event : Event X} {after : Unit → List (Event X) → Scheduler R C K → Prop}
    (holds : after () [event] scheduler) : Attains scheduler history (note event) after :=
  ⟨(), [event], scheduler, outcome_note event scheduler history, holds⟩

theorem of_outcome {run : Run R C K X α} {answer : α} {scheduler' : Scheduler R C K}
    (ran : outcome run (.single scheduler history) = (.ok answer, .single scheduler' history))
    (holds : after answer [] scheduler') : Attains scheduler history run after :=
  ⟨answer, [], scheduler', by rw [ran, Array.appendList_nil], holds⟩

theorem bind {run : Run R C K X α} {next : α → Run R C K X β}
    {middle : α → List (Event X) → Scheduler R C K → Prop}
    {after : β → List (Event X) → Scheduler R C K → Prop}
    (first : Attains scheduler history run middle)
    (rest : ∀ answer (events : List (Event X)) between, middle answer events between →
      Attains between (history ++ events) (next answer) fun answer' events' =>
        after answer' (events ++ events')) : Attains scheduler history (run >>= next) after := by
  obtain ⟨answer, events, between, ran, holds⟩ := first
  obtain ⟨answer', events', scheduler', ran', holds'⟩ := rest answer events between holds
  refine ⟨answer', events ++ events', scheduler', ?_, holds'⟩
  rw [outcome_bind_of_ok ran, ran', append_append]

end Attains

end Run

/-! ## One of several boards -/

section Boards

variable {machine : Machine R C K X} {board : BoardId} {present : Board R C K}

def Machine.withScheduler (machine : Machine R C K X) (board : BoardId) (scheduler : Scheduler R C K) :
    Machine R C K X :=
  { machine with
    boards := machine.boards.setIfInBounds board scheduler.board
    timers := scheduler.timers
    logger := scheduler.logger }

theorem Machine.withScheduler_self (found : machine.boards[board]? = some present) :
    machine.withScheduler board ⟨present, machine.timers, machine.logger⟩ = machine := by
  have boards : machine.boards.setIfInBounds board present = machine.boards := by
    obtain ⟨inBounds, -⟩ := Array.getElem?_eq_some_iff.1 found
    apply Array.ext_getElem?
    intro other
    by_cases same : board = other
    · rw [← same, Array.getElem?_setIfInBounds_self_of_lt inBounds, found]
    · exact Array.getElem?_setIfInBounds_ne same
  rw [withScheduler, boards]

@[simp] theorem Machine.withScheduler_withScheduler (first second : Scheduler R C K) :
    (machine.withScheduler board first).withScheduler board second =
      machine.withScheduler board second := by
  simp [withScheduler]

theorem Machine.getElem?_withScheduler (found : machine.boards[board]? = some present)
    (scheduler : Scheduler R C K) :
    (machine.withScheduler board scheduler).boards[board]? = some scheduler.board := by
  obtain ⟨inBounds, -⟩ := Array.getElem?_eq_some_iff.1 found
  exact Array.getElem?_setIfInBounds_self_of_lt inBounds

namespace Run

theorem outcome_onBoard_of_missing (missing : machine.boards[board]? = none)
    (operation : Scheduler R C K → α × Scheduler R C K) :
    outcome (onBoard board operation) machine = (.error (.boardOutOfRange board), machine) := by
  rw [onBoard, outcome_bind_of_ok (outcome_get _), missing]
  rfl

theorem outcome_onBoard_of_present (found : machine.boards[board]? = some present)
    (operation : Scheduler R C K → α × Scheduler R C K) :
    outcome (onBoard board operation) machine =
      (.ok (operation ⟨present, machine.timers, machine.logger⟩).1,
        machine.withScheduler board (operation ⟨present, machine.timers, machine.logger⟩).2) := by
  rw [onBoard, outcome_bind_of_ok (outcome_get _), found]
  rfl

end Run

end Boards

end DeadlineTimers
