import DeadlineTimers.Proofs.LinkedTimers
import DeadlineTimers.Proofs.StillPorts
import Mathlib.Logic.Function.Iterate

/-!
# Rejected calls

A call that is rejected leaves the devices, the timers and the hardware as they were. The one call that
does something before its last check is a relative start, which has to read the tick in order to know
its deadline; when the timer then turns out to wait already, or the queue to be full, the reading is all
that has happened.
-/

namespace DeadlineTimers

namespace Port

open Simulated

/-- What a reading may change of a port: where the captures move the counter, and whether an overflow
is in the tally or still latched. -/
structure OnlyRead (port port' : SimPort) : Prop where
  queue : port'.device.queue = port.device.queue
  compare : port'.timer.channels.interrupt.compare = port.timer.channels.interrupt.compare
  interruptEnabled : port'.timer.channels.interrupt.interruptEnabled =
    port.timer.channels.interrupt.interruptEnabled
  /-- The tick goes as far as one or two captures move the counter. -/
  tick : ∃ captures, captures ≤ 2 ∧ port'.tick = (taken^[captures] port).tick
  still : port.timer.autoAdvance = 0 → port'.tick = port.tick

variable {port : SimPort}

/-- Folding an overflow does not move the tick: the tally gains what the event stood for. -/
theorem tick_folded (narrow : port.device.width.isNarrow = true)
    (latched : port.timer.captured.channels.overflow.event = true) (line : IrqLine) :
    (port.folded line).tick = port.taken.taken.tick := by
  have latched : port.taken.taken.timer.channels.overflow.event = true :=
    @Timer.advance_event_of_event port.taken.timer port.taken.timer.autoAdvance .overflow latched
  have narrow' : port.taken.taken.device.width.isNarrow = true := narrow
  have folded : (port.folded line).device.width.isNarrow = true := narrow
  rw [tick, tick, if_pos folded, if_pos narrow', if_pos latched]
  change port.device.tally + port.device.width.epochSpan + 0 + _ = _
  rw [UInt32.add_zero]
  rfl

theorem onlyRead_read (port : SimPort) (line : IrqLine) : port.OnlyRead (port.read line).2 := by
  obtain ⟨compare, interruptEnabled⟩ := read_interrupt port line
  refine ⟨by rw [read_device], compare, interruptEnabled, ?_, fun unmoved => ?_⟩
  · rcases read_cases port line with ⟨-, once⟩ | ⟨narrow, latched, twice⟩
    · exact ⟨1, by omega, congrArg tick once⟩
    · exact ⟨2, by omega, (congrArg tick twice).trans (tick_folded narrow latched line)⟩
  · rcases read_cases port line with ⟨-, once⟩ | ⟨narrow, latched, twice⟩
    · rw [once]
      exact tick_taken unmoved
    · rw [twice, tick_folded narrow latched, taken_taken unmoved, tick_taken unmoved]

theorem OnlyRead.elsewhere (port : SimPort) (controller : Nvic) :
    port.OnlyRead { port with controller } :=
  ⟨rfl, rfl, rfl, ⟨0, by omega, rfl⟩, fun _ => rfl⟩

end Port

namespace Simulated

open Port Run

def cannotQueue : TimerError → Bool
  | .invalid .timerPending => true
  | .queueFull => true
  | _ => false

/-- A reading of the tick leaves the timers alone and does to each port only what a reading does. -/
structure ReadsOnly (before after : SimScheduler) : Prop where
  timers : after.timers = before.timers
  ports : ∀ place, (before.board.portAt place).OnlyRead (after.board.portAt place)

/-- What a rejected request leaves behind: what was there, or, for a start that could not queue its
timer, what a successful reading of the tick alone would have left. -/
inductive Rejected (before : SimScheduler) : Request BoardRequest → TimerError → SimScheduler → Prop
    where
  | unchanged {request error after} (same : SameApartFromLog before after)
      (checked : ∀ timer ticks, request = .start timer ticks → cannotQueue error = false) :
      Rejected before request error after
  | read {timer ticks error id now between after} (refused : cannotQueue error = true)
      (owner : (before.timers.get timer).device = some id)
      (tried : before.tryRead id = (.ok now, between)) (same : SameApartFromLog between after)
      (only : ReadsOnly before between) : Rejected before (.start timer ticks) error after

def Callable (timers : TimerTable) : Prop :=
  ∀ timer, (timers.get timer).device.isSome = true → (timers.get timer).callback.isSome = true

variable {before after : SimScheduler} {timer : TimerId} {id : DeviceId}
  {request : Request BoardRequest} {error : TimerError}

/-! ## Attached timers -/

namespace Callable

theorem set {timers : TimerTable} (callable : Callable timers) {slot : TimerSlot}
    (attached : slot.device.isSome = true → slot.callback.isSome = true) :
    Callable (timers.set timer slot) := by
  intro other
  rw [TimerTable.get_set]
  split
  · exact attached
  · exact callable other

theorem unlinks (callable : Callable before.timers) (unlinks : Unlinks before timer after) :
    Callable after.timers := by
  cases unlinks with
  | idle _ same => exact same.timers ▸ callable
  | waiting _ _ _ _ timers =>
    rw [timers]
    exact callable.set (callable timer)

theorem books {reply : Reply} (callable : Callable before.timers)
    (books : Books before request reply after) : Callable after.timers := by
  cases books with
  | keep same => exact same.timers ▸ callable
  | @start timer _ _ _ _ enqueues =>
    rw [enqueues.timers]
    exact callable.set (callable timer)
  | stop _ _ unlinks => exact callable.unlinks unlinks
  | attach _ _ unlinks _ timers =>
    rw [timers]
    exact (callable.unlinks unlinks).set fun _ => rfl

theorem takeDue {due : Option Scheduler.DueTimer} (callable : Callable before.timers)
    (did : before.takeDue id = (due, after)) : Callable after.timers := by
  rcases pops_of_takeDue did with ⟨-, same⟩ | ⟨_, entry, _, -, -, -, pops⟩
  · exact same.timers ▸ callable
  · rw [pops.timers]
    exact callable.set (callable entry.timer)

theorem move {allowed : Request BoardRequest → Prop} {moment moment' : Moment}
    (callable : Callable moment.scheduler.timers) (move : Move allowed moment moment') :
    Callable moment'.scheduler.timers := by
  have same {before after : SimScheduler} (same : SameBooks before after)
      (callable : Callable before.timers) : Callable after.timers := same.timers ▸ callable
  cases move with
  | answer _ _ answers => exact callable.books answers.books
  | report => exact callable
  | advance _ _ _ advances => exact same (.modifyPeripheral advances) callable
  | quiet _ _ _ inactive => exact same (.takeActive inactive) callable
  | enter _ summons acknowledges =>
    exact same ((SameBooks.summons summons).trans (.acknowledge acknowledges)) callable
  | dismiss _ summons acknowledges =>
    exact same ((SameBooks.summons summons).trans (.acknowledge acknowledges)) callable
  | skip takes => exact callable.takeDue takes
  | fire takes => exact callable.takeDue takes
  | resume => exact callable
  | leave fired takes => exact same (.finish _ _ fired) (callable.takeDue takes)

end Callable

/-- At every moment of a run the attached timers have callbacks. -/
theorem Passed.callable {allowed : SimBoard → Request BoardRequest → Prop} {moment : Moment}
    (passed : Passed allowed moment) : Callable moment.scheduler.timers := by
  induction passed with
  | start => exact fun timer attached => by cases attached
  | progress _ progress ih =>
    cases progress with
    | register => exact ih
    | move _ move => exact ih.move move

/-! ## What each operation has done when it fails -/

theorem locate_error {board : SimBoard} (missing : board.locate id = .error error) :
    cannotQueue error = false := by
  unfold Board.locate at missing
  split at missing
  · split at missing
    · cases missing
    · cases missing
      rfl
  · cases missing
    rfl

theorem insert_error {queue : DeadlineQueue queueDepth} {expiry : Ticks}
    (refused : queue.insert timer expiry = .error error) : cannotQueue error = true := by
  unfold DeadlineQueue.insert at refused
  split at refused
  · cases refused
    rfl
  · split at refused
    · cases refused
      rfl
    · cases refused

theorem ReadsOnly.tryRead {result : Except TimerError Ticks}
    (did : before.tryRead id = (result, after)) : ReadsOnly before after := by
  rcases tryRead_cases did with ⟨-, -, rfl⟩ | ⟨place, device, located, -, timers, board⟩
  · exact ⟨rfl, fun place => .elsewhere (after.board.portAt place) _⟩
  · refine ⟨timers, fun other => ?_⟩
    rw [board]
    exact ports_putPort located (onlyRead_read _ _) (raises_read (before.board.port place device) _)
      (fun port _ => .elsewhere port _) other

/-- A timer that has a callback and a registered device is refused for its queue only. -/
theorem startAt_error {expiry : Ticks} {located : Fin maxDevices × Device}
    (did : before.startAt timer expiry = (.error error, after))
    (callable : (before.timers.get timer).callback.isSome = true)
    (owner : (before.timers.get timer).device = some id)
    (found : before.board.locate id = .ok located) :
    cannotQueue error = true ∧ SameApartFromLog before after := by
  refine ⟨?_, ?_⟩
  · unfold Scheduler.startAt at did
    simp only [owner, found] at did
    split at did
    · obtain ⟨failed, -⟩ := Prod.mk.inj did
      cases failed
      rfl
    · split at did
      · next uncallable =>
        rw [Option.isNone_iff_eq_none] at uncallable
        rw [uncallable] at callable
        cases callable
      · split at did
        · next refused =>
          obtain ⟨failed, -⟩ := Prod.mk.inj did
          cases failed
          exact insert_error refused
        · split at did <;> cases congrArg Prod.fst did
  · rcases startAt_cases did with ⟨-, -, same⟩ | ⟨_, _, _, _, _, _, -, -, -, -, -, ok, -⟩
    · exact same
    · cases ok

/-- A relative start fails at one of its first checks, or it has read the tick and cannot queue the
timer. -/
theorem rejected_of_start {ticks : Ticks} (callable : Callable before.timers)
    (did : before.start timer ticks = (.error error, after)) :
    Rejected before (.start timer ticks) error after := by
  have unchanged (same : after = before) (checked : cannotQueue error = false) :
      Rejected before (.start timer ticks) error after :=
    .unchanged (same ▸ .refl _) fun _ _ _ => checked
  unfold Scheduler.start at did
  split at did
  · obtain ⟨failed, same⟩ := Prod.mk.inj did
    cases failed
    exact unchanged same.symm rfl
  · split at did
    · obtain ⟨failed, same⟩ := Prod.mk.inj did
      cases failed
      exact unchanged same.symm rfl
    · next id owner =>
      split at did
      · next error' between tried =>
        obtain ⟨failed, rfl⟩ := Prod.mk.inj did
        cases failed
        rcases onPort_cases tried with ⟨error, missing, failed, same⟩ | ⟨_, _, -, ok, -⟩
        · cases failed
          exact unchanged same (locate_error missing)
        · cases ok
      · next now between tried =>
        have only := ReadsOnly.tryRead tried
        have callable := callable timer (owner ▸ rfl)
        rcases tryRead_cases tried with ⟨_, failed, -⟩ | ⟨place, device, located, -, -, board⟩
        · cases failed
        · have found := Board.locate_putPort_self before.board place
            ((before.board.port place device).read device.config.line).2
          rw [located.id, ← board] at found
          rw [← only.timers] at owner callable
          obtain ⟨refused, same⟩ := startAt_error did callable owner found
          rw [only.timers] at owner
          exact .read refused owner tried same only

/-- Only an error is answered as a rejection. -/
theorem error_of_rejected {α : Type} {reply : α → Reply} {result : Except TimerError α}
    (answered : Reply.ofExcept reply result = .rejected error)
    (accepts : ∀ answer, reply answer ≠ .rejected error) : result = .error error := by
  cases result with
  | ok answer => exact absurd answered (accepts answer)
  | error failed =>
    obtain rfl := Reply.rejected.inj answered
    rfl

/-- A rejection of anything but a relative start has changed nothing. -/
theorem Answers.same_of_rejected {reply : Reply} (answers : Answers before request reply after)
    (rejected : reply = .rejected error) (other : ∀ timer ticks, request ≠ .start timer ticks) :
    SameApartFromLog before after := by
  have failed {result : Except TimerError Unit} (rejected : Reply.ofUnit result = .rejected error) :
      result = .error error := error_of_rejected rejected fun _ => Reply.noConfusion
  cases answers with
  | start => exact absurd rfl (other _ _)
  | init did =>
    rcases init_cases did with ⟨-, -, rfl⟩ | ⟨_, _, _, _, _, -, -, ok, -⟩
    · exact .refl _
    · cases ok.symm.trans (failed rejected)
  | deinit did =>
    rcases deinit_cases did with ⟨-, -, rfl⟩ | ⟨_, _, -, ok, -⟩
    · exact .refl _
    · cases ok.symm.trans (failed rejected)
  | attach did =>
    rcases attach_cases did with ⟨-, -, rfl⟩ | ⟨_, _, _, -, ok, -⟩
    · exact .refl _
    · cases ok.symm.trans (failed rejected)
  | startAt did =>
    rcases startAt_cases did with ⟨-, -, same⟩ | ⟨_, _, _, _, _, _, -, -, -, -, -, ok, -⟩
    · exact same
    · cases ok.symm.trans (failed rejected)
  | stop did =>
    rcases stop_cases did with ⟨-, -, rfl⟩ | ⟨_, -, -, rfl⟩ | ⟨_, _, _, -, -, -, ok, -⟩
    · exact .refl _
    · exact .refl _
    · cases ok.symm.trans (failed rejected)
  | tryRead did =>
    rcases tryRead_cases did with ⟨-, -, rfl⟩ | ⟨_, _, -, ok, -⟩
    · exact .refl _
    · cases ok.symm.trans (error_of_rejected rejected fun _ => Reply.noConfusion)
  | resolution => exact .refl _
  | frequency => exact .refl _
  | isrCount => exact .refl _
  | pending => exact .refl _
  | nextDeadline => exact .refl _
  | _ => cases rejected

theorem Answers.rejected {reply : Reply} (callable : Callable before.timers)
    (answers : Answers before request reply after) (rejected : reply = .rejected error) :
    Rejected before request error after := by
  by_cases starts : ∃ timer ticks, request = .start timer ticks
  · obtain ⟨timer, ticks, rfl⟩ := starts
    cases answers with
    | start did =>
      have failed := error_of_rejected rejected fun _ => Reply.noConfusion
      exact rejected_of_start callable (failed ▸ did)
  · have other (timer ticks) : request ≠ .start timer ticks := fun start =>
      starts ⟨timer, ticks, start⟩
    exact .unchanged (answers.same_of_rejected rejected other) fun timer ticks start =>
      absurd start (other timer ticks)

theorem register_error {board board' : SimBoard} {hardware : Timer} {config : DeviceConfig}
    (did : board.register id hardware config = (.error error, board')) : board' = board := by
  unfold Board.register at did
  split at did
  · simp only at did
    split at did
    · cases congrArg Prod.fst did
    · split at did
      · exact (Prod.mk.inj did).2.symm
      · split at did
        · cases congrArg Prod.fst did
        · exact (Prod.mk.inj did).2.symm
  · exact (Prod.mk.inj did).2.symm

theorem registerInPlace_error {board board' : SimBoard} {config : DeviceConfig}
    (did : board.registerInPlace id config = (.error error, board')) : board' = board := by
  unfold Board.registerInPlace at did
  split at did
  · exact register_error did
  · exact (Prod.mk.inj did).2.symm

/-! ## Calls -/

variable {machine : Machine Timer Nvic Clock BoardRequest} {history : History BoardRequest}

theorem outcome_map_eq_ok {α : Type} {change : α → Reply} {run : SimRun α} {reply : Reply}
    {start : Machine Timer Nvic Clock BoardRequest}
    (ran : outcome (change <$> run) start = (.ok reply, machine)) :
    ∃ answer, outcome run start = (.ok answer, machine) ∧ change answer = reply := by
  rw [outcome_map] at ran
  split at ran
  · next answer machine' came =>
    obtain ⟨answered, rfl⟩ := Prod.mk.inj ran
    exact ⟨answer, came, Except.ok.inj answered⟩
  · cases congrArg Prod.fst ran

theorem outcome_ofUnit_onBoard (operation : SimScheduler → Except TimerError Unit × SimScheduler)
    (scheduler : SimScheduler) (history : History BoardRequest) :
    outcome (Reply.ofUnit <$> Run.onBoard 0 operation : SimRun Reply) (.single scheduler history) =
      (.ok (.ofUnit (operation scheduler).1), .single (operation scheduler).2 history) :=
  outcome_map_of_ok (outcome_onBoard_of_eq rfl)

/-- A registration that changes nothing when it fails leaves the machine as it was when it is rejected. -/
theorem unchanged_of_rejected_registration
    (operation : SimBoard → Except TimerError Unit × SimBoard) {scheduler : SimScheduler}
    (unchanged : ∀ error board, operation scheduler.board = (.error error, board) →
      board = scheduler.board)
    (ran : outcome (Reply.ofUnit <$> Run.onBoard 0 fun scheduler : SimScheduler =>
        ((operation scheduler.board).1, { scheduler with board := (operation scheduler.board).2 }))
      (.single scheduler history) = (.ok (.rejected error), machine)) :
    machine = .single scheduler history := by
  rw [outcome_ofUnit_onBoard] at ran
  obtain ⟨answered, rfl⟩ := Prod.mk.inj ran
  have failed := error_of_rejected (Except.ok.inj answered) fun _ => Reply.noConfusion
  have same := unchanged error _ (Prod.ext failed rfl)
  exact congrArg (fun board => Machine.single { scheduler with board } history) same

/-- A request that may run handlers answers with a number. -/
theorem not_rejected_of_runsHandlers {fire : Firing → SimRun Unit} {limit : Nat}
    (runs : runsHandlers request = true)
    (ran : outcome (perform fire limit ⟨0, request⟩) (.single before history) =
      (.ok (.rejected error), machine)) : False := by
  have numbered {run : SimRun Nat} {start : Machine Timer Nvic Clock BoardRequest} :
      outcome (Reply.number <$> run) start ≠ (.ok (.rejected error), machine) := fun ran => by
    obtain ⟨fired, -, answered⟩ := outcome_map_eq_ok ran
    cases answered
  have served {id : DeviceId} {next : Fin maxDevices → SimRun Nat}
      (ran : outcome (findPeripheral id >>= fun place => Reply.number <$> next place)
        (.single before history) = (.ok (.rejected error), machine)) : False := by
    rw [outcome_bind] at ran
    split at ran
    · exact numbered ran
    · cases congrArg Prod.fst ran
  cases request with
  | interrupt => exact numbered ran
  | platform request =>
    cases request with
    | service => exact served ran
    | step => exact served ran
    | jump => exact served ran
    | jumps => exact numbered ran
    | _ => cases runs
  | _ => cases runs

/-- A request that is rejected, from wherever it is made, leaves the board and the timers as they were,
and so does a registration. Only a start that cannot queue its timer has read the tick. -/
theorem unchanged_of_rejected {allowed : SimBoard → Request BoardRequest → Prop} {moment : Moment}
    (passed : Passed allowed moment) :
    (∀ (fire : Firing → SimRun Unit) limit request error machine,
      outcome (perform fire limit ⟨0, request⟩) (.single moment.scheduler moment.history) =
          (.ok (.rejected error), machine) →
        ∃ after, machine = .single after moment.history ∧
          Rejected moment.scheduler request error after) ∧
      (∀ client bounds id config error machine,
        outcome (execute client bounds (.register 0 id config))
            (.single moment.scheduler moment.history) = (.ok (.rejected error), machine) →
          machine = .single moment.scheduler moment.history) ∧
      ∀ id hardware config error machine,
        outcome (Run.register 0 id hardware config)
            (.single moment.scheduler moment.history) = (.ok (.rejected error), machine) →
          machine = .single moment.scheduler moment.history := by
  refine ⟨?_, ?_, ?_⟩
  · intro fire limit request error machine ran
    cases runs : runsHandlers request with
    | true => exact (not_rejected_of_runsHandlers runs ran).elim
    | false =>
      obtain ⟨after, _, rfl, -, rfl, answers⟩ := perform_answers fire limit 0 runs moment.scheduler
        moment.history moment.scheduler moment.history ⟨rfl, rfl⟩ _ machine ran
      exact ⟨after, rfl, answers.rejected passed.callable rfl⟩
  · intro client bounds id config error machine ran
    exact unchanged_of_rejected_registration (·.registerInPlace id config)
      (fun _ _ => registerInPlace_error) ran
  · intro id hardware config error machine ran
    exact unchanged_of_rejected_registration (·.register id hardware config)
      (fun _ _ => register_error) ran

/-- A timer that waits is started again, and a device that runs is registered over, in its place and for
a timer that is new. -/
theorem unchanged_of_rejected_start :
    let running := (nrf51AtRest.init 0 1000000).2
    let attached := (running.attach 0 0 0 7).2
    let waiting := (attached.start 0 100).2
    let refused := (waiting.start 0 5).2
    (waiting.timers.get 0).linked = true ∧
      Rejected waiting (.start 0 5) (.invalid .timerPending) refused ∧
      ∃ history, Passed Scheduling ⟨waiting, history, []⟩ ∧
        (outcome (execute silentClient ⟨2, 1⟩ (.register 0 0 .nrf51Timer0))
          (.single waiting history)).2 = .single waiting history ∧
        (outcome (Run.register 0 0 { width := .bits32 } .nrf51Timer0 : SimRun Reply)
          (.single waiting history)).2 = .single waiting history := by
  intro running attached waiting refused
  have init : Answers nrf51AtRest (.init 0 1000000) (.ofUnit (.ok ())) running :=
    .init (Prod.ext rfl rfl)
  have attach : Answers running (.attach 0 0 0 7) _ attached := .attach (Prod.eta _).symm
  have start : Answers attached (.start 0 100) _ waiting := .start (Prod.eta _).symm
  have again : Answers waiting (.start 0 5) _ refused := .start (Prod.eta _).symm
  have pending : (waiting.start 0 5).1 = .error (.invalid .timerPending) := by decide +kernel
  have runs : (waiting.registerInPlace 0 .nrf51Timer0).1 = .error (.invalid .alreadyEnabled) := by
    decide +kernel
  have runs' : (waiting.register 0 { width := .bits32 } .nrf51Timer0).1 =
      .error (.invalid .alreadyEnabled) := by decide +kernel
  have linked : (waiting.timers.get 0).linked = true := by decide +kernel
  rw [pending] at again
  clear_value refused waiting attached running
  have atRest : Passed Scheduling ⟨nrf51AtRest, #[], []⟩ := .start DeviceConfig.nrf51 [0, 1, 2] {}
  obtain ⟨history, passed⟩ : ∃ history, Passed Scheduling ⟨waiting, history, []⟩ :=
    ⟨_, ((atRest.progress (.answer .user init rfl)).progress (.answer .user attach rfl)).progress
      (.answer .user start rfl)⟩
  obtain ⟨requests, commands, registers⟩ := unchanged_of_rejected passed
  obtain ⟨after, same, rejected⟩ := requests (fun _ => pure ()) 2 _ (.invalid .timerPending) _
    (outcome_perform_of_answers _ _ again)
  obtain rfl := (Machine.single_inj same).1
  have answered := outcome_ofUnit_onBoard (·.registerInPlace 0 .nrf51Timer0) waiting history
  have answered' := outcome_ofUnit_onBoard (·.register 0 { width := .bits32 } .nrf51Timer0) waiting
    history
  rw [runs] at answered
  rw [runs'] at answered'
  exact ⟨linked, rejected, history, passed,
    commands silentClient ⟨2, 1⟩ 0 .nrf51Timer0 _ _ (Prod.ext (congrArg Prod.fst answered) rfl),
    registers 0 { width := .bits32 } .nrf51Timer0 _ _ (Prod.ext (congrArg Prod.fst answered') rfl)⟩

end Simulated

end DeadlineTimers
