import DeadlineTimers.Proofs.Bookkeeping
import DeadlineTimers.Proofs.Runs

/-!
# Reachable schedulers

A scheduler is reachable if commands of a user lead to it from a simulated board at rest. Each command
may come with another client and other bounds, and has to have ended with an answer. Which requests are
allowed is a parameter, and may depend on how the board is wired. A device is registered for the hardware
timer of its place, or for another one that the user brings, if that stands still and is silent.

What holds at the start, is kept when a device is registered, and is kept by every move, holds at every
moment of every such run.
-/

namespace DeadlineTimers.Simulated

open Run

/-- A hardware timer that counts nothing and raises no interrupts, as one does that was never used. Its
registers may hold anything. -/
structure Timer.Idle (timer : Timer) : Prop where
  still : timer.running = false
  silent : ∀ channel, (timer.channels.get channel).interruptEnabled = false

/-- A scheduler and what has happened, after commands that make allowed requests only. -/
inductive Reachable (allowed : SimBoard → Request BoardRequest → Prop) :
    SimScheduler → History BoardRequest → Prop where
  | start (layout : Vector DeviceConfig maxDevices) (ids : List DeviceId) (logger : Log.Logger) :
      Reachable allowed ⟨(boardOfLayout layout).registering ids, {}, logger⟩ #[]
  | call {before after history history' reply} (reachable : Reachable allowed before history)
      (client : Client BoardRequest) (bounds : Bounds) (call : Call BoardRequest)
      (makes : client.Makes (allowed before.board))
      (permitted : allowed before.board call.request)
      (ran : outcome (execute client bounds (.call call)) (.single before history) =
        (.ok reply, .single after history')) : Reachable allowed after history'
  | register {before after history history' reply} (reachable : Reachable allowed before history)
      (client : Client BoardRequest) (bounds : Bounds) (board : BoardId) (id : DeviceId)
      (config : DeviceConfig)
      (ran : outcome (execute client bounds (.register board id config)) (.single before history) =
        (.ok reply, .single after history')) : Reachable allowed after history'
  | bring {before after history history' reply} (reachable : Reachable allowed before history)
      (board : BoardId) (id : DeviceId) (timer : Timer) (config : DeviceConfig) (idle : timer.Idle)
      (ran : outcome (Run.register board id timer config) (.single before history) =
        (.ok reply, .single after history')) : Reachable allowed after history'

def silentClient : Client BoardRequest := fun _ _ => .finished

theorem silentClient_makes (allowed : Request BoardRequest → Prop) :
    silentClient.Makes allowed := fun _ _ => trivial

/-- A request that runs no handler leads on. -/
theorem Reachable.answer {allowed : SimBoard → Request BoardRequest → Prop}
    {before after : SimScheduler} {history : History BoardRequest} {request : Request BoardRequest}
    {reply : Reply} (reachable : Reachable allowed before history)
    (answers : Answers before request reply after) (permitted : allowed before.board request) :
    Reachable allowed after (history.push (.answered none ⟨0, request⟩ reply)) :=
  reachable.call silentClient ⟨0, 0⟩ ⟨0, request⟩ (silentClient_makes _) permitted
    (outcome_execute_of_answers _ _ answers)

/-- A device was registered at a place where none was, or one that stood still with an empty queue. -/
structure Registers (before after : SimBoard) (place : Fin maxDevices) (timer : Timer)
    (config : DeviceConfig) : Prop where
  replaced : ∀ device, before.devices.get place = some device →
    device.enabled = false ∧ device.queue.isEmpty = true
  after : after = before.putPort place ⟨.ofConfig config, timer, before.controller⟩

/-! ## Registering -/

variable {id : DeviceId} {place : Fin maxDevices} {timer : Timer} {config : DeviceConfig}

theorem register_cases {before after : SimBoard} {result : Except TimerError Unit}
    (did : before.register id timer config = (result, after)) :
    after = before ∨
      ∃ place : Fin maxDevices, place.val = id ∧ Registers before after place timer config := by
  unfold Board.register at did
  split at did
  · next inside =>
    simp only at did
    split at did
    · next missing =>
      obtain ⟨-, rfl⟩ := Prod.mk.inj did
      refine .inr ⟨⟨id, inside⟩, rfl, fun device registered => ?_, rfl⟩
      rw [get_place, missing] at registered
      cases registered
    · next present found =>
      split at did
      · obtain ⟨-, rfl⟩ := Prod.mk.inj did
        exact .inl rfl
      · next stopped =>
        split at did
        · next empty =>
          obtain ⟨-, rfl⟩ := Prod.mk.inj did
          refine .inr ⟨⟨id, inside⟩, rfl, fun device registered => ?_, rfl⟩
          rw [get_place, found] at registered
          obtain rfl := Option.some.inj registered
          exact ⟨by simpa using stopped, empty⟩
        · obtain ⟨-, rfl⟩ := Prod.mk.inj did
          exact .inl rfl
  · obtain ⟨-, rfl⟩ := Prod.mk.inj did
    exact .inl rfl

theorem registerInPlace_cases {before after : SimBoard} {result : Except TimerError Unit}
    (did : before.registerInPlace id config = (result, after)) :
    after = before ∨ ∃ place : Fin maxDevices, place.val = id ∧
      Registers before after place (before.peripherals.get place) config := by
  unfold Board.registerInPlace at did
  split at did
  · next inside =>
    rcases register_cases did with same | ⟨place, rfl, registers⟩
    · exact .inl same
    · exact .inr ⟨place, rfl, registers⟩
  · obtain ⟨-, rfl⟩ := Prod.mk.inj did
    exact .inl rfl

/-- A registration that came to an answer has changed the board at most. -/
theorem outcome_registration {operation : SimScheduler → Except TimerError Unit × SimScheduler}
    {board : BoardId} {before after : SimScheduler} {history history' : History BoardRequest}
    {reply : Reply} (onBoard : (operation before).2 = { before with board := (operation before).2.board })
    (ran : outcome (Reply.ofUnit <$> Run.onBoard board operation : SimRun Reply)
      (.single before history) = (.ok reply, .single after history')) :
    history' = history ∧ after = { before with board := (operation before).2.board } := by
  have changes : Ensures (fun scheduler events => scheduler = before ∧ events = history)
      (Reply.ofUnit <$> Run.onBoard board operation)
      fun _ scheduler events => events = history ∧
        scheduler = { before with board := (operation before).2.board } := by
    refine .map (.onBoard ?_)
    rintro - scheduler _ ⟨rfl, rfl⟩
    exact ⟨rfl, onBoard⟩
  obtain ⟨scheduler, events, same, holds⟩ := changes before history ⟨rfl, rfl⟩ reply _ ran
  obtain ⟨rfl, rfl⟩ := Machine.single_inj same
  exact holds

theorem Registers.stopped {before after : SimBoard}
    (registers : Registers before after place timer config) :
    (before.portAt place).device.enabled = false := by
  cases registered : before.devices.get place with
  | none =>
    simp only [Board.portAt, Board.port, registered, Option.getD_none]
    rfl
  | some device =>
    simp only [Board.portAt, Board.port, registered, Option.getD_some]
    exact (registers.replaced device registered).1

theorem Registers.empty {before after : SimBoard}
    (registers : Registers before after place timer config) :
    (before.queueAt place).entries = [] := by
  cases registered : before.devices.get place with
  | none =>
    simp only [Board.queueAt, Board.portAt, Board.port, registered, Option.getD_none]
    rfl
  | some device =>
    simp only [Board.queueAt, Board.portAt, Board.port, registered, Option.getD_some]
    exact List.isEmpty_iff.1 (registers.replaced device registered).2

theorem portAt_registers_self {before after : SimBoard}
    (registers : Registers before after place timer config) :
    after.portAt place = ⟨.ofConfig config, timer, before.controller⟩ := by
  rw [registers.after, portAt_putPort_self]

theorem portAt_registers_of_ne {before after : SimBoard} {other : Fin maxDevices}
    (registers : Registers before after place timer config) (different : other ≠ place) :
    after.portAt other = before.portAt other := by
  rw [registers.after, portAt_putPort_of_ne _ _ different]
  rfl

theorem portAt_boardOfLayout (layout : Vector DeviceConfig maxDevices) (ids : List DeviceId)
    (place : Fin maxDevices) :
    ((boardOfLayout layout).registering ids).portAt place =
      ⟨.ofConfig (layout.get place), { width := (layout.get place).width }, {}⟩ := by
  simp only [Board.portAt, Board.port, Board.registering, boardOfLayout, Board.ofLayout,
    get_place, Vector.getElem_mapFinIdx, Vector.getElem_map]
  split <;> rfl

def nrf51AtRest : SimScheduler := ⟨(boardOfLayout DeviceConfig.nrf51).registering [0, 1, 2], {}, {}⟩

/-- The second hardware timer, which is 16 bits wide on the nRF51. -/
def secondPlace : Fin maxDevices := ⟨1, by decide⟩

/-! ## Moments after reachable ones -/

/-- What leads from one moment to the next, over all the commands of a user. -/
inductive Progress (allowed : SimBoard → Request BoardRequest → Prop) : Moment → Moment → Prop where
  | register {scheduler : SimScheduler} {board history place timer config}
      (registers : Registers scheduler.board board place timer config)
      (offered : timer = (scheduler.board.portAt place).timer ∨ timer.Idle) :
      Progress allowed ⟨scheduler, history, []⟩ ⟨{ scheduler with board }, history, []⟩
  /-- The requests that a command may make depend on how the board is wired, which no move changes. -/
  | move {board moment moment'} (wiring : SameWiring board moment.scheduler.board)
      (move : Move (allowed board) moment moment') : Progress allowed moment moment'

/-- The moments of all runs from a board at rest. -/
inductive Passed (allowed : SimBoard → Request BoardRequest → Prop) : Moment → Prop where
  | start (layout : Vector DeviceConfig maxDevices) (ids : List DeviceId) (logger : Log.Logger) :
      Passed allowed ⟨⟨(boardOfLayout layout).registering ids, {}, logger⟩, #[], []⟩
  | progress {moment moment'} (passed : Passed allowed moment)
      (progress : Progress allowed moment moment') : Passed allowed moment'

def LeavesHardware (allowed : SimBoard → Request BoardRequest → Prop) : Prop :=
  ∀ board request, allowed board request → schedules request = true

def Scheduling (_ : SimBoard) (request : Request BoardRequest) : Prop := schedules request = true

theorem leavesHardware_scheduling : LeavesHardware Scheduling := fun _ _ => id

variable {allowed : SimBoard → Request BoardRequest → Prop}

/-- A call that is answered at once leads on. -/
theorem Progress.answer {before after : SimScheduler} {history : History BoardRequest}
    {handlers : List Handling} {caller : Option Nat} {request : Request BoardRequest} {reply : Reply}
    (calls : Calls handlers caller) (answers : Answers before request reply after)
    (permitted : allowed before.board request) :
    Progress allowed ⟨before, history, handlers⟩
      ⟨after, history.push (.answered caller ⟨0, request⟩ reply), handlers⟩ :=
  .move (.refl _) (.answer calls permitted answers)

theorem wiring_of_moves {allowed : Request BoardRequest → Prop} {moment moment' : Moment}
    (leaves : ∀ request, allowed request → schedules request = true)
    (moves : Moves allowed moment moment') :
    SameWiring moment.scheduler.board moment'.scheduler.board := by
  induction moves with
  | refl => exact .refl _
  | tail _ move ih => exact ih.trans (move.ports leaves).wiring

theorem progress_of_moves (leaves : LeavesHardware allowed) {board : SimBoard}
    {moment moment' : Moment} (wiring : SameWiring board moment.scheduler.board)
    (moves : Moves (allowed board) moment moment') :
    Relation.ReflTransGen (Progress allowed) moment moment' := by
  induction moves with
  | refl => exact .refl
  | tail moves move ih =>
    exact ih.tail (.move (wiring.trans (wiring_of_moves (leaves board) moves)) move)

theorem Passed.later {moment moment' : Moment} (passed : Passed allowed moment)
    (progress : Relation.ReflTransGen (Progress allowed) moment moment') :
    Passed allowed moment' := by
  induction progress with
  | refl => exact passed
  | tail _ progress ih => exact ih.progress progress

/-- A registration leads on, whether it was accepted or not. -/
theorem Passed.registration {scheduler : SimScheduler} {board : SimBoard}
    {history : History BoardRequest} (passed : Passed allowed ⟨scheduler, history, []⟩)
    (did : board = scheduler.board ∨ ∃ place timer config,
      Registers scheduler.board board place timer config ∧
        (timer = (scheduler.board.portAt place).timer ∨ timer.Idle)) :
    Passed allowed ⟨{ scheduler with board }, history, []⟩ := by
  rcases did with rfl | ⟨place, timer, config, registers, offered⟩
  · exact passed
  · exact passed.progress (.register registers offered)

/-- A call that came to an answer leads on. -/
theorem Reachable.replied {before : SimScheduler} {history : History BoardRequest} {reply : Reply}
    (reachable : Reachable allowed before history) (client : Client BoardRequest) (bounds : Bounds)
    (call : Call BoardRequest) (makes : client.Makes (allowed before.board))
    (permitted : allowed before.board call.request)
    (replied : (outcome (execute client bounds (.call call)) (.single before history)).1.toOption =
      some reply) :
    ∃ after history', outcome (execute client bounds (.call call)) (.single before history) =
      (.ok reply, .single after history') ∧ Reachable allowed after history' := by
  have ran : outcome (execute client bounds (.call call)) (.single before history) =
      (.ok reply, (outcome (execute client bounds (.call call)) (.single before history)).2) := by
    refine Prod.ext ?_ rfl
    generalize (outcome (execute client bounds (.call call)) (.single before history)).1 = result
      at replied
    cases result with
    | error => cases replied
    | ok answer => rw [Option.some.inj replied]
  obtain ⟨after, history', single, -⟩ := execute_moves makes permitted bounds ran
  rw [single] at ran
  exact ⟨after, history', ran, reachable.call client bounds call makes permitted ran⟩

/-- Commands of a user lead through such moments to one at which no handler is running. -/
theorem Reachable.passed {scheduler : SimScheduler} {history : History BoardRequest}
    (reachable : Reachable allowed scheduler history) (leaves : LeavesHardware allowed) :
    Passed allowed ⟨scheduler, history, []⟩ := by
  induction reachable with
  | start layout ids logger => exact .start layout ids logger
  | call _ client bounds call makes permitted ran ih =>
    obtain ⟨_, _, same, moves⟩ := execute_moves makes permitted bounds ran
    obtain ⟨rfl, rfl⟩ := Machine.single_inj same
    exact ih.later (progress_of_moves leaves (.refl _) moves)
  | @register before _ _ _ _ _ _ _ _ id config ran ih =>
    obtain ⟨rfl, rfl⟩ := outcome_registration rfl ran
    rcases registerInPlace_cases (Prod.eta (before.board.registerInPlace id config)).symm with
      same | ⟨place, -, registers⟩
    · exact ih.registration (.inl same)
    · exact ih.registration (.inr ⟨place, _, config, registers, .inl rfl⟩)
  | @bring before _ _ _ _ _ _ id timer config idle ran ih =>
    obtain ⟨rfl, rfl⟩ := outcome_registration rfl ran
    rcases register_cases (Prod.eta (before.board.register id timer config)).symm with
      same | ⟨place, -, registers⟩
    · exact ih.registration (.inl same)
    · exact ih.registration (.inr ⟨place, timer, config, registers, .inr idle⟩)

/-- A property of ports that holds at rest and of a device just registered, and that every move of a
port keeps, holds of every port at every moment. -/
theorem Passed.atEveryPort {moment : Moment} {property : Port Timer Nvic → Prop}
    (passed : Passed allowed moment) (leaves : LeavesHardware allowed)
    (atRest : ∀ config, property ⟨.ofConfig config, { width := config.width }, {}⟩)
    (registered : ∀ config timer port, port.device.enabled = false →
      (timer = port.timer ∨ timer.Idle) → property port →
        property ⟨.ofConfig config, timer, port.controller⟩)
    (moves : ∀ port port', PortMove port port' → property port → property port')
    (place : Fin maxDevices) : property (moment.scheduler.board.portAt place) := by
  induction passed with
  | start layout ids logger =>
    rw [portAt_boardOfLayout]
    exact atRest _
  | progress _ progress ih =>
    cases progress with
    | @register scheduler board history changed timer config registers offered =>
      by_cases same : place = changed
      · subst same
        change property (board.portAt place)
        rw [portAt_registers_self registers]
        exact registered config timer _ registers.stopped offered ih
      · change property (board.portAt place)
        rw [portAt_registers_of_ne registers same]
        exact ih
    | @move board _ _ wiring move =>
      exact moves _ _ ((move.ports (leaves board)).ports place) ih

theorem sound_registered {port : SimPort} (sound : Port.Sound port) (config : DeviceConfig)
    (offered : timer = port.timer ∨ timer.Idle) :
    Port.Sound ⟨.ofConfig config, timer, port.controller⟩ := by
  refine ⟨?_, fun enabled => Bool.noConfusion enabled⟩
  rcases offered with rfl | idle
  · exact sound.readSilent
  · exact idle.silent .read

theorem Passed.sound {moment : Moment} (passed : Passed allowed moment)
    (leaves : LeavesHardware allowed) (place : Fin maxDevices) :
    Port.Sound (moment.scheduler.board.portAt place) := by
  refine passed.atEveryPort leaves ?_ ?_ (fun _ _ move sound => move.sound sound) place
  · exact fun config => ⟨rfl, fun enabled => Bool.noConfusion enabled⟩
  · exact fun config _ _ _ offered sound => sound_registered sound config offered

/-- Overflows raise interrupts only of narrow counters that run. -/
theorem Passed.overflowSilent {moment : Moment} (passed : Passed allowed moment)
    (leaves : LeavesHardware allowed) (place : Fin maxDevices)
    (unwatched : (moment.scheduler.board.portAt place).device.enabled = true →
      (moment.scheduler.board.portAt place).device.width.isNarrow = false) :
    (moment.scheduler.board.portAt place).timer.channels.overflow.interruptEnabled = false := by
  let silent (port : SimPort) : Prop :=
    (port.device.enabled = true → port.device.width.isNarrow = false) →
      port.timer.channels.overflow.interruptEnabled = false
  have kept {port port' : SimPort} (ticks : Port.TickEvents port port') :
      port'.timer.channels.overflow.interruptEnabled =
        port.timer.channels.overflow.interruptEnabled :=
    @Port.interruptEnabled_eq_of_ticks _ _ ticks .overflow Channel.noConfusion
  have every : silent (moment.scheduler.board.portAt place) := by
    refine passed.atEveryPort leaves (fun config _ => rfl) ?_ ?_ place
    · intro config timer port stopped offered silent _
      rcases offered with rfl | idle
      · refine silent fun enabled => ?_
        rw [stopped] at enabled
        cases enabled
      · exact idle.silent .overflow
    · intro port port' move silent unwatched
      cases move with
      | ticks ticks =>
        rw [Port.enabled_eq_of_ticks ticks, Port.width_eq_of_ticks ticks] at unwatched
        exact (kept ticks).trans (silent unwatched)
      | @launch prescaler controller stopped lineEnabled =>
        have rearmed := Port.ticks_rearm (port.launched prescaler controller)
        rw [Port.enabled_eq_of_ticks rearmed, Port.width_eq_of_ticks rearmed] at unwatched
        rw [kept rearmed, port.launched_overflow_of_wide prescaler controller (unwatched rfl)]
        refine silent fun enabled => ?_
        rw [stopped] at enabled
        cases enabled
      | shutDown => rfl
  exact every unwatched

end DeadlineTimers.Simulated
