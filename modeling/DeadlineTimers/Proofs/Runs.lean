import DeadlineTimers.Proofs.Moments

/-!
# Runs go through moments

Every run that the interpreter makes, and that ends with an answer, is a sequence of moves. The proof
follows the interpreter: a dispatch by induction on its passes, the service of a line on its handler
runs, the program of a callback on the tree, and nested callbacks on their depth.
-/

namespace DeadlineTimers.Simulated

open Run

variable {allowed : Request BoardRequest → Prop} {start : Moment} {handlers : List Handling}
  {caller : Option Nat} {board : BoardId} {limit : Nat} {id : DeviceId}
  {fire : Firing → SimRun Unit}

def Passing (allowed : Request BoardRequest → Prop) (start : Moment) (handlers : List Handling) :
    Assertion Timer Nvic Clock BoardRequest := fun scheduler history =>
  Moves allowed start ⟨scheduler, history, handlers⟩

/-- The run has come to a moment at which the handler of a device is about to run. -/
def Summoning (allowed : Request BoardRequest → Prop) (start : Moment) (handlers : List Handling)
    (id : DeviceId) : Assertion Timer Nvic Clock BoardRequest := fun scheduler history =>
  ∃ before, Passing allowed start handlers before history ∧ Summons allowed before id scheduler

/-- The handler of a device has just tried to take a due timer. -/
def Taking (allowed : Request BoardRequest → Prop) (start : Moment) (handlers : List Handling)
    (id : DeviceId) (due : Option Scheduler.DueTimer) :
    Assertion Timer Nvic Clock BoardRequest := fun scheduler history =>
  ∃ before, Passing allowed start (⟨id, none⟩ :: handlers) before history ∧
    before.takeDue id = (due, scheduler)

def FiresThroughMoments (allowed : Request BoardRequest → Prop) (start : Moment)
    (fire : Firing → SimRun Unit) : Prop :=
  ∀ handlers id entry now callback arg,
    Ensures (Taking allowed start handlers id (some ⟨entry, now, some (callback, arg)⟩))
      (fire ⟨0, id, entry.timer, entry.expiry, now, callback, arg⟩)
      fun _ => Passing allowed start (⟨id, none⟩ :: handlers)

def HandlesThroughMoments (allowed : Request BoardRequest → Prop) (start : Moment)
    (interrupt : BoardId → DeviceId → SimRun Nat) : Prop :=
  ∀ handlers caller board id, Calls handlers caller →
    Ensures (Summoning allowed start handlers id) (interrupt board id)
      fun _ => Passing allowed start handlers

/-! ## Handlers -/

theorem dispatch_ensures (fires : FiresThroughMoments allowed start fire) :
    Ensures (Passing allowed start (⟨id, none⟩ :: handlers)) (dispatch fire board id limit)
      fun _ => Taking allowed start handlers id none := by
  induction limit with
  | zero => exact .throw
  | succ limit ih =>
    have take : Ensures (Passing allowed start (⟨id, none⟩ :: handlers))
        (onBoard board (·.takeDue id))
        fun due scheduler history =>
          board = 0 ∧ Taking allowed start handlers id due scheduler history :=
      .onBoard fun zero scheduler history passing => ⟨zero, scheduler, passing, rfl⟩
    refine take.bind fun due => ?_
    match due with
    | none => exact .pure fun _ _ taking => taking.2
    | some ⟨entry, now, none⟩ =>
      refine ih.of_imp ?_ fun _ _ _ taking => taking
      rintro scheduler history ⟨-, before, passing, takes⟩
      exact passing.tail (.skip takes)
    | some ⟨entry, now, some (callback, arg)⟩ =>
      by_cases zero : board = 0
      · subst zero
        have fired := (fires handlers id entry now callback arg).of_imp
          (fun _ _ (taking : 0 = 0 ∧ _) => taking.2) fun _ _ _ passing => passing
        exact fired.bind fun _ => ih.bind fun _ => .pure fun _ _ taking => taking
      · exact fun _ _ taking => absurd taking.1 zero

theorem interrupt_handles (fires : FiresThroughMoments allowed start fire) :
    HandlesThroughMoments allowed start (interrupt fire limit) := by
  intro handlers caller board id calls
  have acknowledge : Ensures (Summoning allowed start handlers id)
      (onBoard board (·.acknowledge id)) fun runs =>
        Passing allowed start (if runs then ⟨id, none⟩ :: handlers else handlers) := by
    apply Ensures.onBoard
    rintro - between history ⟨before, passing, summons⟩
    cases acknowledges : between.acknowledge id with
    | mk runs after =>
      cases runs with
      | true => exact passing.tail (.enter calls summons acknowledges)
      | false => exact passing.tail (.dismiss calls summons acknowledges)
  refine acknowledge.bind fun runs => ?_
  cases runs with
  | false => exact .pure fun _ _ passing => passing
  | true =>
    refine (dispatch_ensures fires).bind fun fired => ?_
    have finish : Ensures (Taking allowed start handlers id none)
        (onBoard board fun scheduler => ((), scheduler.finish id fired))
        fun _ => Passing allowed start handlers := by
      apply Ensures.onBoard
      rintro - after history ⟨before, passing, takes⟩
      exact passing.tail (.leave fired takes)
    exact finish.bind fun _ => .pure fun _ _ passing => passing

/-! ## Serving lines -/

section Service

variable {interrupt : BoardId → DeviceId → SimRun Nat} {place : Fin maxDevices}
  {request : Request BoardRequest}

theorem servicePass_ensures (handles : HandlesThroughMoments allowed start interrupt)
    (calls : Calls handlers caller) (permitted : allowed request)
    (serves : served? request = some place.val) (passes : Nat) :
    Ensures (Passing allowed start handlers) (servicePass interrupt board place passes)
      fun _ => Passing allowed start handlers := by
  induction passes with
  | zero => exact .pure fun _ _ passing => passing
  | succ passes ih =>
    have take : Ensures (Passing allowed start handlers)
        (onBoard board (SimScheduler.takeActive place)) fun active =>
          if active then Summoning allowed start handlers place
          else Passing allowed start handlers := by
      apply Ensures.onBoard
      intro _ before history passing
      cases takes : SimScheduler.takeActive place before with
      | mk active after =>
        cases active with
        | true => exact ⟨before, passing, .line permitted serves takes⟩
        | false => exact passing.tail (.quiet calls permitted serves takes)
    refine take.bind fun active => ?_
    cases active with
    | false => exact .pure fun _ _ passing => passing
    | true =>
      exact (handles handlers caller board place calls).bind fun fired =>
        ih.bind fun others => .pure fun _ _ passing => passing

theorem advance_ensures (calls : Calls handlers caller) (permitted : allowed request)
    (serves : served? request = some place.val) (ticks : Ticks) :
    Ensures (Passing allowed start handlers) (advance board place ticks)
      fun _ => Passing allowed start handlers :=
  .onBoard fun _ _ _ passing => passing.tail (.advance calls permitted serves rfl)

theorem stepTicks_ensures (handles : HandlesThroughMoments allowed start interrupt)
    (calls : Calls handlers caller) (permitted : allowed request)
    (serves : served? request = some place.val) (ticks : Nat) :
    Ensures (Passing allowed start handlers) (stepTicks interrupt board place ticks)
      fun _ => Passing allowed start handlers := by
  induction ticks with
  | zero => exact .pure fun _ _ passing => passing
  | succ ticks ih =>
    exact (advance_ensures calls permitted serves 1).bind fun _ =>
      (servicePass_ensures handles calls permitted serves servicePasses).bind fun _ =>
        ih.bind fun _ => .pure fun _ _ passing => passing

theorem step_ensures (handles : HandlesThroughMoments allowed start interrupt)
    (calls : Calls handlers caller) (permitted : allowed request)
    (serves : served? request = some place.val) (ticks : Ticks) :
    Ensures (Passing allowed start handlers) (step interrupt board place ticks)
      fun _ => Passing allowed start handlers :=
  (servicePass_ensures handles calls permitted serves servicePasses).bind fun _ =>
    (stepTicks_ensures handles calls permitted serves ticks.toNat).bind fun _ =>
      .pure fun _ _ passing => passing

theorem jump_ensures (handles : HandlesThroughMoments allowed start interrupt)
    (calls : Calls handlers caller) (permitted : allowed request)
    (serves : served? request = some place.val) (ticks : Ticks) :
    Ensures (Passing allowed start handlers) (jump interrupt board place ticks)
      fun _ => Passing allowed start handlers :=
  (advance_ensures calls permitted serves ticks).bind fun _ =>
    servicePass_ensures handles calls permitted serves servicePasses

theorem findPeripheral_ensures (before : Assertion Timer Nvic Clock BoardRequest)
    (id : DeviceId) :
    Ensures before (findPeripheral id) fun place scheduler history =>
      place.val = id ∧ before scheduler history := by
  unfold findPeripheral
  split
  · exact .pure fun _ _ held => ⟨rfl, held⟩
  · exact .throw

/-- A request that serves a device, once the device is found. -/
theorem found_ensures {α : Type} {next : Fin maxDevices → SimRun α}
    {before : Assertion Timer Nvic Clock BoardRequest}
    {after : α → Assertion Timer Nvic Clock BoardRequest}
    (rest : ∀ place : Fin maxDevices, place.val = id → Ensures before (next place) after) :
    Ensures before (findPeripheral id >>= next) after := by
  refine (findPeripheral_ensures before id).bind fun place => ?_
  intro scheduler history held
  exact rest place held.1 scheduler history held.2

theorem jumps_ensures (handles : HandlesThroughMoments allowed start interrupt)
    (calls : Calls handlers caller) (permitted : allowed request)
    (serves : served? request = some id) (ticks : Ticks) (times : Nat) :
    Ensures (Passing allowed start handlers) (jumps interrupt board id ticks times)
      fun _ => Passing allowed start handlers := by
  induction times with
  | zero => exact .pure fun _ _ passing => passing
  | succ times ih =>
    refine found_ensures fun place found => ?_
    have serves : served? request = some place.val := found ▸ serves
    exact (jump_ensures handles calls permitted serves ticks).bind fun _ =>
      ih.bind fun _ => .pure fun _ _ passing => passing

end Service

/-! ## Calls -/

/-- The run has made a call and comes to a moment once the answer is noted. -/
def Noting (allowed : Request BoardRequest → Prop) (start : Moment) (handlers : List Handling)
    (caller : Option Nat) (call : Call BoardRequest) (reply : Reply) :
    Assertion Timer Nvic Clock BoardRequest := fun scheduler history =>
  Moves allowed start ⟨scheduler, history.push (.answered caller call reply), handlers⟩

variable {request : Request BoardRequest}

theorem noting_of_answers (calls : Calls handlers caller) (permitted : allowed request)
    (zero : board = 0) {before after : SimScheduler} {history : History BoardRequest}
    {reply : Reply} (passing : Passing allowed start handlers before history)
    (answers : Answers before request reply after) :
    Noting allowed start handlers caller ⟨board, request⟩ reply after history := by
  subst zero
  exact passing.tail (.answer calls permitted answers)

/-- A call that may run handlers is at a moment when it has its answer. -/
theorem noting_of_passing {α : Type} {run : SimRun α} (reply : α → Reply)
    (calls : Calls handlers caller) (permitted : allowed request)
    (runs : runsHandlers request = true)
    (passes : Ensures (Passing allowed start handlers) run
      fun _ => Passing allowed start handlers) :
    Ensures (Passing allowed start handlers) (reply <$> run)
      (Noting allowed start handlers caller ⟨board, request⟩) :=
  .map <| passes.of_imp (fun _ _ passing => passing) fun answer _ _ passing =>
    passing.tail (.report ⟨board, request⟩ (reply answer) calls permitted runs)

def Answered (before : SimScheduler) (history : History BoardRequest) (board : BoardId)
    (request : Request BoardRequest) (reply : Reply) : Assertion Timer Nvic Clock BoardRequest :=
  fun after events => board = 0 ∧ events = history ∧ Answers before request reply after

section Answered

variable {before : SimScheduler} {history : History BoardRequest} {α : Type} {reply : α → Reply}

theorem answered_onBoard {operation : SimScheduler → α × SimScheduler}
    (answers : Answers before request (reply (operation before).1) (operation before).2) :
    Ensures (fun scheduler events => scheduler = before ∧ events = history)
      (reply <$> onBoard board operation) (Answered before history board request) := by
  refine .map <| .onBoard ?_
  rintro zero _ _ ⟨rfl, rfl⟩
  exact ⟨zero, rfl, answers⟩

theorem answered_onBoardOrFault {operation : SimScheduler → Except Fault α × SimScheduler}
    (answers : ∀ answer after, operation before = (.ok answer, after) →
      Answers before request (reply answer) after) :
    Ensures (fun scheduler events => scheduler = before ∧ events = history)
      (reply <$> onBoardOrFault board operation) (Answered before history board request) := by
  refine .map <| .onBoardOrFault ?_
  rintro zero _ _ answer after ⟨rfl, rfl⟩ did
  exact ⟨zero, rfl, answers answer after did⟩

/-- A request that runs no handler is answered at once. -/
theorem perform_answers (fire : Firing → SimRun Unit) (limit : Nat) (board : BoardId)
    (silent : runsHandlers request = false) (before : SimScheduler)
    (history : History BoardRequest) :
    Ensures (fun scheduler events => scheduler = before ∧ events = history)
      (perform fire limit ⟨board, request⟩) (Answered before history board request) := by
  cases request with
  | interrupt => cases silent
  | init id frequency => exact answered_onBoardOrFault fun _ _ did => .init did
  | deinit id => exact answered_onBoard (.deinit rfl)
  | attach id timer callback arg => exact answered_onBoard (.attach rfl)
  | start timer ticks => exact answered_onBoard (.start rfl)
  | startAt timer expiry => exact answered_onBoard (.startAt rfl)
  | stop timer => exact answered_onBoard (.stop rfl)
  | read id => exact answered_onBoardOrFault fun _ _ did => .read did
  | tryRead id => exact answered_onBoard (.tryRead rfl)
  | delay id ticks => exact answered_onBoardOrFault fun _ _ did => .delay did
  | resolution id =>
    refine answered_onBoardOrFault fun period after did => ?_
    obtain ⟨told, rfl⟩ := Prod.mk.inj did
    exact .resolution told
  | frequency id => exact answered_onBoard .frequency
  | isrCount id => exact answered_onBoard .isrCount
  | pending id => exact answered_onBoard .pending
  | isEnabled id => exact answered_onBoard .isEnabled
  | nextDeadline id => exact answered_onBoard .nextDeadline
  | timer timer => exact answered_onBoard .timer
  | platform request =>
    cases request with
    | access id access =>
      refine found_ensures fun place found => ?_
      subst found
      exact answered_onBoard (.access place rfl)
    | setPending line =>
      have marks := @answered_onBoard board (.platform (.setPending line)) before history Unit
        (fun _ => .done) (fun scheduler => ((), SimScheduler.setPending line scheduler)) .setPending
      rw [map_eq_pure_bind] at marks
      exact marks
    | takePending line => exact answered_onBoard (.takePending rfl)
    | _ => cases silent

end Answered

theorem platform_ensures {request : BoardRequest} (fires : FiresThroughMoments allowed start fire)
    (calls : Calls handlers caller) (permitted : allowed (.platform request))
    (runs : runsHandlers (.platform request) = true) :
    Ensures (Passing allowed start handlers)
      (Platform.perform (interrupt fire limit) board request)
      (Noting allowed start handlers caller ⟨board, .platform request⟩) := by
  have handles : HandlesThroughMoments allowed start (interrupt fire limit) :=
    interrupt_handles fires
  cases request with
  | service id =>
    exact found_ensures fun place found => noting_of_passing _ calls permitted rfl
      (servicePass_ensures handles calls permitted (congrArg some found.symm) servicePasses)
  | step id ticks =>
    exact found_ensures fun place found => noting_of_passing _ calls permitted rfl
      (step_ensures handles calls permitted (congrArg some found.symm) ticks)
  | jump id ticks =>
    exact found_ensures fun place found => noting_of_passing _ calls permitted rfl
      (jump_ensures handles calls permitted (congrArg some found.symm) ticks)
  | jumps id ticks times =>
    exact noting_of_passing _ calls permitted rfl
      (jumps_ensures handles calls permitted rfl ticks times)
  | _ => cases runs

theorem perform_ensures (limit : Nat) (fires : FiresThroughMoments allowed start fire)
    (calls : Calls handlers caller) {call : Call BoardRequest} (permitted : allowed call.request) :
    Ensures (Passing allowed start handlers) (perform fire limit call)
      (Noting allowed start handlers caller call) := by
  obtain ⟨board, request⟩ := call
  cases runs : runsHandlers request with
  | false =>
    intro before history passing reply machine ran
    obtain ⟨after, _, rfl, zero, rfl, answers⟩ :=
      perform_answers fire limit board runs before history before history ⟨rfl, rfl⟩ reply machine ran
    exact ⟨after, _, rfl, noting_of_answers calls permitted zero passing answers⟩
  | true =>
    cases request with
    | platform request => exact platform_ensures fires calls permitted runs
    | interrupt id =>
      refine noting_of_passing _ calls permitted rfl ?_
      refine (interrupt_handles fires handlers caller board id calls).of_imp ?_
        fun _ _ _ held => held
      exact fun scheduler _ passing => ⟨scheduler, passing, .request permitted⟩
    | _ => cases runs

theorem outcome_onBoard_of_eq {α : Type} {before after : SimScheduler}
    {history : History BoardRequest} {operation : SimScheduler → α × SimScheduler} {answer : α}
    (did : operation before = (answer, after)) :
    outcome (onBoard 0 operation) (.single before history) =
      (.ok answer, .single after history) := by
  rw [outcome_onBoard, did]

/-- A request that runs no handler is answered just so. -/
theorem outcome_perform_of_answers (fire : Firing → SimRun Unit) (limit : Nat)
    {before after : SimScheduler} {history : History BoardRequest} {reply : Reply}
    (answers : Answers before request reply after) :
    outcome (perform fire limit ⟨0, request⟩) (.single before history) =
      (.ok reply, .single after history) := by
  cases answers with
  | init did => exact outcome_map_of_ok (outcome_onBoardOrFault_of_ok did)
  | deinit did => exact outcome_map_of_ok (outcome_onBoard_of_eq did)
  | attach did => exact outcome_map_of_ok (outcome_onBoard_of_eq did)
  | start did => exact outcome_map_of_ok (outcome_onBoard_of_eq did)
  | startAt did => exact outcome_map_of_ok (outcome_onBoard_of_eq did)
  | stop did => exact outcome_map_of_ok (outcome_onBoard_of_eq did)
  | read did => exact outcome_map_of_ok (outcome_onBoardOrFault_of_ok did)
  | tryRead did => exact outcome_map_of_ok (outcome_onBoard_of_eq did)
  | delay did => exact outcome_map_of_ok (outcome_onBoardOrFault_of_ok did)
  | resolution told =>
    exact outcome_map_of_ok (outcome_onBoardOrFault_of_ok (Prod.ext told rfl))
  | access place did =>
    have found : findPeripheral place.val = pure place := dif_pos place.isLt
    change outcome (findPeripheral place.val >>= _) _ = _
    rw [found, outcome_bind_of_ok (outcome_pure _ _)]
    exact outcome_map_of_ok (outcome_onBoard_of_eq did)
  | setPending => rfl
  | takePending did => exact outcome_map_of_ok (outcome_onBoard_of_eq did)
  | _ => exact outcome_map_of_ok (outcome_onBoard_of_eq rfl)

/-! ## Callbacks and commands -/

theorem runProgram_ensures (limit : Nat) (fires : FiresThroughMoments allowed start fire)
    {caller : Nat}
    (calls : Calls handlers (some caller)) (program : Program BoardRequest)
    (makes : program.Makes allowed) :
    Ensures (Passing allowed start handlers) (runProgram fire limit caller program)
      fun _ => Passing allowed start handlers := by
  induction program with
  | finished => exact .pure fun _ _ passing => passing
  | call call next ih =>
    refine (perform_ensures limit fires calls makes.1).bind fun reply => ?_
    have noted : Ensures (Noting allowed start handlers (some caller) call reply)
        (note (.answered (some caller) call reply) : SimRun Unit)
        fun _ => Passing allowed start handlers := .note fun _ _ passing => passing
    exact noted.bind fun _ => ih reply (makes.2 reply)

theorem fire_throughMoments (start : Moment) {client : Client BoardRequest}
    (makes : client.Makes allowed) (limit depth : Nat) :
    FiresThroughMoments allowed start (Run.fire client limit depth) := by
  induction depth with
  | zero => exact fun _ _ _ _ _ _ => .throw
  | succ depth ih =>
    rintro handlers id entry now callback arg scheduler history ⟨before, passing, takes⟩
    let firing : Firing := ⟨0, id, entry.timer, entry.expiry, now, callback, arg⟩
    have called : Passing allowed start (⟨id, some history.size⟩ :: handlers) scheduler
        (history.push (.fired firing)) := passing.tail (.fire takes)
    have program := runProgram_ensures limit ih
      (.callback id history.size handlers) _ (makes (history.push (.fired firing)) firing)
    intro answer machine ran
    rw [outcome_fire] at ran
    obtain ⟨scheduler', history', rfl, passing⟩ := program _ _ called answer machine ran
    exact ⟨scheduler', history', rfl, passing.tail .resume⟩

theorem outcome_execute_of_answers (client : Client BoardRequest) (bounds : Bounds)
    {before after : SimScheduler} {history : History BoardRequest} {reply : Reply}
    (answers : Answers before request reply after) :
    outcome (execute client bounds (.call ⟨0, request⟩)) (.single before history) =
      (.ok reply, .single after (history.push (.answered none ⟨0, request⟩ reply))) := by
  rw [execute, outcome_bind_of_ok (outcome_perform_of_answers _ _ answers),
    outcome_bind_of_ok (outcome_note _ _ _), outcome_pure]

/-- A call of the user goes through moments, and leaves no handler running. -/
theorem execute_moves {client : Client BoardRequest} (makes : client.Makes allowed)
    {call : Call BoardRequest} (permitted : allowed call.request) (bounds : Bounds)
    {scheduler : SimScheduler} {history : History BoardRequest} {reply : Reply}
    {machine : Machine Timer Nvic Clock BoardRequest}
    (ran : outcome (execute client bounds (.call call)) (.single scheduler history) =
      (.ok reply, machine)) :
    ∃ scheduler' history', machine = .single scheduler' history' ∧
      Moves allowed ⟨scheduler, history, []⟩ ⟨scheduler', history', []⟩ := by
  have performs := perform_ensures bounds.dispatch
    (fire_throughMoments ⟨scheduler, history, []⟩ makes bounds.dispatch bounds.depth)
    .user permitted
  have executes : Ensures (Passing allowed ⟨scheduler, history, []⟩ [])
      (execute client bounds (.call call))
      fun _ => Passing allowed ⟨scheduler, history, []⟩ [] := by
    refine performs.bind fun reply => ?_
    have noted : Ensures (Noting allowed ⟨scheduler, history, []⟩ [] none call reply)
        (note (.answered none call reply) : SimRun Unit)
        fun _ => Passing allowed ⟨scheduler, history, []⟩ [] := .note fun _ _ passing => passing
    exact noted.bind fun _ => .pure fun _ _ passing => passing
  exact executes scheduler history .refl reply machine ran

end DeadlineTimers.Simulated
