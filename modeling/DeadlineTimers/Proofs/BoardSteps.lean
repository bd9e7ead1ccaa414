import DeadlineTimers.Proofs.SchedulerOperations

/-!
# Steps of a board

What one move of a run does to every port of the board at once. A port that a move does not work on
sees at most a mark of a line being set, because the devices have hardware timers of their own. A place
where no device is registered counts as a device that was never started.
-/

namespace DeadlineTimers

def Board.portAt {R C K : Type} (board : Board R C K) (place : Fin maxDevices) : Port R C :=
  board.port place ((board.devices.get place).getD (.ofConfig (board.layout.get place)))

namespace Simulated

open Port

structure SameWiring (before after : SimBoard) : Prop where
  layout : after.layout = before.layout
  configs : ∀ place : Fin maxDevices,
    (after.devices.get place).map (·.config) = (before.devices.get place).map (·.config)

structure AtEveryPort (relation : SimPort → SimPort → Prop) (before after : SimBoard) : Prop where
  wiring : SameWiring before after
  ports : ∀ place, relation (before.portAt place) (after.portAt place)

abbrev Uses : SimBoard → SimBoard → Prop := AtEveryPort (Relation.ReflTransGen PortUse)

variable {board before after last : SimBoard} {id : DeviceId} {place : Fin maxDevices}
  {device : Device} {port port' : SimPort}

namespace SameWiring

theorem refl (board : SimBoard) : SameWiring board board := ⟨rfl, fun _ => rfl⟩

theorem trans (first : SameWiring before after) (second : SameWiring after last) :
    SameWiring before last :=
  ⟨second.layout.trans first.layout, fun place =>
    (second.configs place).trans (first.configs place)⟩

end SameWiring

/-! ## Putting a port back -/

theorem Located.portAt_eq (located : Located board id place device) :
    board.portAt place = board.port place device := by
  rw [Board.portAt, located.device, Option.getD_some]

theorem portAt_putPort_self (board : SimBoard) (place : Fin maxDevices) (port : SimPort) :
    (board.putPort place port).portAt place = port := by
  simp [Board.portAt, Board.port, Board.putPort]

theorem portAt_putPort_of_ne (board : SimBoard) {place other : Fin maxDevices} (port : SimPort)
    (different : other ≠ place) :
    (board.putPort place port).portAt other =
      { board.portAt other with controller := port.controller } := by
  have apart : place.val ≠ other.val := fun same => different (Fin.ext same.symm)
  simp [Board.portAt, Board.port, Board.putPort, Vector.getElem_set_ne, apart]

theorem Located.putPort_port (located : Located board id place device) (timer : Timer) :
    board.putPort place { board.port place device with timer } =
      { board with peripherals := board.peripherals.set place timer place.isLt } := by
  have registered := located.device
  have same : board.devices.set place (some device) place.isLt = board.devices := by
    rw [← registered]
    exact Vector.set_getElem_self _
  rw [Board.putPort, Board.port, same]

/-- A port that is put back as it was leaves the board as it was. -/
theorem Located.putPort_self (located : Located board id place device) :
    board.putPort place (board.port place device) = board := by
  have put := located.putPort_port (board.peripherals.get place)
  have same : board.peripherals.set place (board.peripherals.get place) place.isLt =
      board.peripherals := Vector.set_getElem_self _
  rw [same] at put
  exact put

theorem wiring_putPort (located : Located board id place device)
    (config : port.device.config = device.config) :
    SameWiring board (board.putPort place port) := by
  refine ⟨rfl, fun other => ?_⟩
  by_cases same : other = place
  · subst same
    have registered := located.device
    simp only [get_place] at registered
    simp [Board.putPort, registered, config]
  · have apart : place.val ≠ other.val := fun equal => same (Fin.ext equal.symm)
    simp [Board.putPort, Vector.getElem_set_ne, apart]

/-- Working on one port does to the others at most that a mark is set. -/
theorem ports_putPort {relation : SimPort → SimPort → Prop}
    (located : Located board id place device) (own : relation (board.port place device) port)
    (raises : board.controller.Raises port.controller)
    (elsewhere : ∀ other : SimPort, other.controller.Raises port.controller →
      relation other { other with controller := port.controller }) (other : Fin maxDevices) :
    relation (board.portAt other) ((board.putPort place port).portAt other) := by
  by_cases same : other = place
  · subst same
    rw [portAt_putPort_self, located.portAt_eq]
    exact own
  · rw [portAt_putPort_of_ne board port same]
    exact elsewhere _ raises

theorem portAt_modifyPeripheral_self {α : Type} (scheduler : SimScheduler)
    (place : Fin maxDevices) (operation : Timer → α × Timer) :
    (scheduler.modifyPeripheral place operation).2.board.portAt place =
      (scheduler.board.portAt place).modifyTimer fun timer => (operation timer).2 := by
  simp [SimScheduler.modifyPeripheral, Board.portAt, Board.port, modifyTimer]

theorem portAt_modifyPeripheral_of_ne {α : Type} (scheduler : SimScheduler)
    {place other : Fin maxDevices} (operation : Timer → α × Timer) (different : other ≠ place) :
    (scheduler.modifyPeripheral place operation).2.board.portAt other =
      scheduler.board.portAt other := by
  have apart : place.val ≠ other.val := fun same => different (Fin.ext same.symm)
  simp [SimScheduler.modifyPeripheral, Board.portAt, Board.port, Vector.getElem_set_ne, apart]

/-! ## Scheduling operations -/

namespace Uses

theorem refl (board : SimBoard) : Uses board board := ⟨.refl board, fun _ => .refl⟩

theorem trans (first : Uses before after) (second : Uses after last) : Uses before last :=
  ⟨first.wiring.trans second.wiring, fun place => (first.ports place).trans (second.ports place)⟩

theorem putPort (located : Located board id place device)
    (use : PortUse (board.port place device) port) : Uses board (board.putPort place port) where
  wiring := wiring_putPort located (config_eq_of_ticks use.ticks)
  ports := by
    refine ports_putPort located (.single use) ?_ fun _ raises => .single (.elsewhere _ raises)
    exact use.raises

variable {before after : SimScheduler} {timer : TimerId}

theorem tryRead {result : Except TimerError Ticks} (did : before.tryRead id = (result, after)) :
    Uses before.board after.board := by
  rcases tryRead_cases did with ⟨-, -, rfl⟩ | ⟨place, device, located, -, -, board⟩
  · exact refl _
  · rw [board]
    exact putPort located (.read _)

theorem delay {ticks : Ticks} (did : before.delay id ticks = (.ok (), after)) :
    Uses before.board after.board := by
  have reads := delay_reads did
  clear did
  induction reads with
  | refl => exact refl _
  | tail _ read ih =>
    obtain ⟨now, tried⟩ := read
    exact ih.trans (tryRead tried)

theorem startAt {expiry : Ticks} {result : Except TimerError Unit}
    (did : before.startAt timer expiry = (result, after)) :
    Uses before.board after.board := by
  rcases startAt_cases did with ⟨-, -, same⟩ |
    ⟨id, callback, place, device, isHead, queue, -, -, -, located, inserted, -, -, board⟩
  · rw [same.board]
    exact refl _
  · rw [board]
    exact putPort located (.enqueue _ inserted)

theorem start {ticks : Ticks} {result : Except TimerError Unit}
    (did : before.start timer ticks = (result, after)) :
    Uses before.board after.board := by
  rcases start_cases did with ⟨-, -, rfl⟩ | ⟨id, now, between, -, tried, started⟩
  · exact refl _
  · exact (tryRead tried).trans (startAt started)

theorem stop {result : Except TimerError Unit} (did : before.stop timer = (result, after)) :
    Uses before.board after.board := by
  rcases stop_cases did with ⟨-, -, rfl⟩ | ⟨-, -, -, rfl⟩ |
    ⟨id, place, device, -, -, located, -, -, board⟩
  · exact refl _
  · exact refl _
  · rw [board]
    exact putPort located (.dequeue _ timer)

theorem attach {callback : CallbackId} {arg : Nat} {result : Except TimerError Unit}
    (did : before.attach id timer callback arg = (result, after)) :
    Uses before.board after.board := by
  rcases attach_cases did with ⟨-, -, rfl⟩ | ⟨place, device, between, -, -, stopped, board, -⟩
  · exact refl _
  · rw [board]
    exact stop stopped

theorem modifyPeripheral {α : Type} {operation : Timer → α × Timer} {answer : α}
    (did : before.modifyPeripheral place operation = (answer, after))
    (use : PortUse (before.board.portAt place)
      ((before.board.portAt place).modifyTimer fun timer => (operation timer).2)) :
    Uses before.board after.board := by
  have done : (before.modifyPeripheral place operation).2 = after := congrArg Prod.snd did
  subst done
  refine ⟨⟨rfl, fun _ => rfl⟩, fun other => ?_⟩
  by_cases same : other = place
  · subst same
    rw [portAt_modifyPeripheral_self]
    exact .single use
  · rw [portAt_modifyPeripheral_of_ne _ _ same]

theorem setPending (scheduler : SimScheduler) (line : IrqLine) :
    Uses scheduler.board (scheduler.setPending line).board :=
  ⟨⟨rfl, fun _ => rfl⟩, fun place =>
    .single (.elsewhere (scheduler.board.portAt place) (Nvic.raises_setPending _ _))⟩

end Uses

namespace AtEveryPort

theorem step_refl (board : SimBoard) : AtEveryPort PortStep board board :=
  ⟨.refl board, fun place => .use (.elsewhere (board.portAt place) (Nvic.Raises.refl _))⟩

theorem step_putPort (located : Located board id place device)
    (step : PortStep (board.port place device) port) :
    AtEveryPort PortStep board (board.putPort place port) where
  wiring := wiring_putPort located step.config_eq
  ports := by
    refine ports_putPort located step ?_ fun _ raises => .use (.elsewhere _ raises)
    exact step.raises

variable {before after : SimScheduler}

theorem init {frequency : Nat} {result : Except TimerError Unit}
    (did : before.init id frequency = (.ok result, after)) :
    AtEveryPort PortStep before.board after.board := by
  rcases init_cases did with ⟨-, -, rfl⟩ |
    ⟨place, device, prescaler, installed, controller, located, stopped, -, -, install, enable, -,
      board⟩
  · exact step_refl _
  · rw [board]
    have located' : Located { before.board with clock := ⟨before.board.clock.starts + 1⟩ } id
        place device := ⟨located.id, located.device⟩
    have launched := step_putPort located' (.launch _ prescaler id stopped install enable)
    exact ⟨⟨launched.wiring.layout, launched.wiring.configs⟩, launched.ports⟩

theorem deinit {result : Except TimerError Unit} (did : before.deinit id = (result, after)) :
    AtEveryPort PortStep before.board after.board := by
  rcases deinit_cases did with ⟨-, -, rfl⟩ | ⟨place, device, located, -, -, board⟩
  · exact step_refl _
  · rw [board]
    exact step_putPort located (.shutDown _)

end AtEveryPort

/-- Tests whether a request leaves the hardware to the scheduler. Moving a counter, setting how far it
moves at every capture and marking a line pending are not the scheduler's business. -/
def schedules : Request BoardRequest → Bool
  | .platform (.access _ (.register _)) => false
  | .platform (.access _ (.setCounter _)) => false
  | .platform (.takePending _) => false
  | _ => true

def startsOrStops : Request BoardRequest → Bool
  | .init .. => true
  | .deinit _ => true
  | _ => false

/-- A request that runs no handler, and starts or stops no device, uses the ports. -/
theorem Answers.uses {before after : SimScheduler} {request : Request BoardRequest} {reply : Reply}
    (answers : Answers before request reply after) (leaves : schedules request = true)
    (lasts : startsOrStops request = false) : Uses before.board after.board := by
  cases answers with
  | init did => cases lasts
  | deinit did => cases lasts
  | attach did => exact .attach did
  | start did => exact .start did
  | startAt did => exact .startAt did
  | stop did => exact .stop did
  | read did => exact .tryRead (read_ok did)
  | tryRead did => exact .tryRead did
  | delay did => exact .delay did
  | access place did =>
    rename_i access reading
    cases access with
    | register access => cases leaves
    | setCounter value => cases leaves
    | advance ticks => exact .modifyPeripheral did (.advance _ ticks)
    | setAutoAdvance ticks => exact .modifyPeripheral did (.setAutoAdvance _ ticks)
  | setPending => exact .setPending _ _
  | takePending did => cases leaves
  | _ => exact .refl _

theorem Answers.ports {before after : SimScheduler} {request : Request BoardRequest}
    {reply : Reply} (answers : Answers before request reply after)
    (leaves : schedules request = true) :
    AtEveryPort PortStep before.board after.board ∨ Uses before.board after.board := by
  cases lasts : startsOrStops request with
  | false => exact .inr (answers.uses leaves lasts)
  | true =>
    cases answers with
    | init did => exact .inl (.init did)
    | deinit did => exact .inl (.deinit did)
    | _ => cases lasts

/-! ## Steps of the handler -/

/-- Only the port of one device is worked on, and nothing happens to it that its tick does not see. -/
structure Attends (id : DeviceId) (before after : SimBoard) : Prop where
  wiring : SameWiring before after
  own : ∀ place : Fin maxDevices, place.val = id →
    TickEvents (before.portAt place) (after.portAt place)
  others : ∀ place : Fin maxDevices, place.val ≠ id →
    PortUse (before.portAt place) (after.portAt place)

namespace Attends

theorem refl (id : DeviceId) (board : SimBoard) : Attends id board board :=
  ⟨.refl board, fun _ _ => .refl, fun place _ =>
    .elsewhere (board.portAt place) (Nvic.Raises.refl _)⟩

theorem putPort (located : Located board id place device)
    (ticks : TickEvents (board.port place device) port)
    (raises : board.controller.Raises port.controller) :
    Attends id board (board.putPort place port) where
  wiring := wiring_putPort located (config_eq_of_ticks ticks)
  own other own := by
    obtain rfl : other = place := Fin.ext (own.trans located.id.symm)
    rw [portAt_putPort_self, located.portAt_eq]
    exact ticks
  others other another := by
    have different : other ≠ place := by
      rintro rfl
      exact another located.id
    rw [portAt_putPort_of_ne board port different]
    exact .elsewhere _ raises

variable {before after : SimScheduler}

theorem acknowledge {runs : Bool} (did : before.acknowledge id = (runs, after)) :
    Attends id before.board after.board := by
  rcases acknowledge_cases did with ⟨-, -, rfl⟩ | ⟨place, device, located, -, -, board⟩
  · exact .refl _ _
  · rw [board]
    refine .putPort located (ticks_acknowledge _) ?_
    rw [acknowledge_controller]
    exact .refl _

theorem takeDue {due : Option Scheduler.DueTimer} (did : before.takeDue id = (due, after)) :
    Attends id before.board after.board := by
  rcases takeDue_cases did with ⟨-, -, rfl⟩ | ⟨place, device, located, board, -⟩
  · exact .refl _ _
  · rw [board]
    exact .putPort located (ticks_takeDue _) (raises_read (before.board.port place device) _)

theorem finish (scheduler : SimScheduler) (id : DeviceId) (fired : Nat) :
    Attends id scheduler.board (scheduler.finish id fired).board := by
  rcases finish_cases scheduler id fired with ⟨-, same⟩ | ⟨place, device, located, -, board⟩
  · rw [same]
    exact .refl _ _
  · rw [board]
    exact .putPort located (ticks_rearm _) (raises_rearm (scheduler.board.port place device))

end Attends

theorem stopped_of_missing {error : TimerError} (missing : board.locate id = .error error)
    (here : place.val = id) : (board.portAt place).device.enabled = false := by
  have none : board.devices.get place = none := by
    cases registered : board.devices.get place with
    | none => rfl
    | some device =>
      rw [(Board.locate_eq_ok_iff board id place device).2 ⟨here, registered⟩] at missing
      cases missing
  simp only [Board.portAt, Board.port, none, Option.getD_none]
  rfl

/-- A handler that acknowledges its interrupt goes on exactly if the device runs. -/
theorem acknowledge_runs {before after : SimScheduler} {runs : Bool}
    (did : before.acknowledge id = (runs, after)) (here : place.val = id) :
    runs = (before.board.portAt place).device.enabled := by
  rcases acknowledge_cases did with ⟨⟨error, missing⟩, rfl, -⟩ | ⟨found, device, located, rfl, -⟩
  · exact (stopped_of_missing missing here).symm
  · obtain rfl : found = place := Fin.ext (located.id.trans here.symm)
    rw [located.portAt_eq, acknowledge_fst]

/-- Looking at a line changes no more than its pending mark. -/
theorem takeActive_aside {before after : SimScheduler} {active : Bool}
    (did : before.takeActive place = (active, after)) :
    SameWiring before.board after.board ∧ ∀ other : Fin maxDevices,
      Port.Aside (before.board.portAt other) (after.board.portAt other) := by
  unfold SimScheduler.takeActive at did
  simp only at did
  split at did
  · obtain ⟨-, rfl⟩ := Prod.mk.inj did
    exact ⟨⟨rfl, fun _ => rfl⟩, fun other => ⟨rfl, rfl, rfl, rfl, rfl, fun line enabled =>
      (Nvic.isEnabled_takePending _ _ _).trans enabled⟩⟩
  · obtain ⟨-, rfl⟩ := Prod.mk.inj did
    exact ⟨.refl _, fun other => ⟨rfl, rfl, rfl, rfl, rfl, fun line enabled => enabled⟩⟩

theorem takeActive_timer {before after : SimScheduler} {active : Bool}
    (did : before.takeActive place = (active, after)) (other : Fin maxDevices) :
    (after.board.portAt other).timer = (before.board.portAt other).timer := by
  unfold SimScheduler.takeActive at did
  simp only at did
  split at did
  · obtain ⟨-, rfl⟩ := Prod.mk.inj did
    rfl
  · obtain ⟨-, rfl⟩ := Prod.mk.inj did
    rfl

/-! ## Moves -/

/-- What one move of a run does to a port: the device runs on or stands still on, or it is started, or
it is stopped. -/
inductive PortMove : SimPort → SimPort → Prop where
  | ticks {port port' : SimPort} (ticks : TickEvents port port') : PortMove port port'
  | launch {port : SimPort} (prescaler : Prescaler) {controller : Nvic}
      (stopped : port.device.enabled = false)
      (lineEnabled : controller.isEnabled port.device.config.line = true) :
      PortMove port (port.launched prescaler controller).rearm.2
  | shutDown (port : SimPort) : PortMove port port.shutDown

theorem portMove_of_step (step : PortStep port port') : PortMove port port' := by
  cases step with
  | use use => exact .ticks use.ticks
  | launch prescaler id stopped install enable =>
    exact .launch prescaler stopped (Nvic.raises_enable enable).2
  | shutDown => exact .shutDown port

theorem PortMove.sound (move : PortMove port port') (sound : port.Sound) : port'.Sound := by
  cases move with
  | ticks ticks => exact sound.events ticks
  | launch prescaler stopped lineEnabled =>
    exact (sound.launched prescaler lineEnabled).events (ticks_rearm _)
  | shutDown => exact sound.shutDown

theorem ticks_of_uses (uses : Relation.ReflTransGen PortUse port port') :
    TickEvents port port' := by
  induction uses with
  | refl => exact .refl
  | tail _ use ih => exact ih.trans use.ticks

theorem Attends.ticks (attends : Attends id before after) (place : Fin maxDevices) :
    TickEvents (before.portAt place) (after.portAt place) := by
  by_cases own : place.val = id
  · exact attends.own place own
  · exact (attends.others place own).ticks

variable {allowed : Request BoardRequest → Prop} {moment moment' : Moment}

theorem Summons.ticks {before after : SimScheduler} (summons : Summons allowed before id after) :
    AtEveryPort TickEvents before.board after.board := by
  cases summons with
  | request => exact ⟨.refl _, fun _ => .refl⟩
  | line permitted serves active =>
    obtain ⟨wiring, aside⟩ := takeActive_aside active
    exact ⟨wiring, fun other => .single (.aside (aside other))⟩

theorem Summons.timer {before after : SimScheduler} (summons : Summons allowed before id after)
    (place : Fin maxDevices) :
    (after.board.portAt place).timer = (before.board.portAt place).timer := by
  cases summons with
  | request => rfl
  | line permitted serves active => exact takeActive_timer active place

/-- A run that leaves the hardware to the scheduler moves every port of the board. -/
theorem Move.ports (leaves : ∀ request, allowed request → schedules request = true)
    (move : Move allowed moment moment') :
    AtEveryPort PortMove moment.scheduler.board moment'.scheduler.board := by
  cases move with
  | answer calls permitted answers =>
    rcases answers.ports (leaves _ permitted) with steps | uses
    · exact ⟨steps.wiring, fun place => portMove_of_step (steps.ports place)⟩
    · exact ⟨uses.wiring, fun place => .ticks (ticks_of_uses (uses.ports place))⟩
  | report => exact ⟨.refl _, fun _ => .ticks .refl⟩
  | advance calls permitted serves advances =>
    have uses := Uses.modifyPeripheral advances (.advance _ _)
    exact ⟨uses.wiring, fun place => .ticks (ticks_of_uses (uses.ports place))⟩
  | quiet calls permitted serves inactive =>
    obtain ⟨wiring, aside⟩ := takeActive_aside inactive
    exact ⟨wiring, fun other => .ticks (.single (.aside (aside other)))⟩
  | enter calls summons acknowledges =>
    have attends := Attends.acknowledge acknowledges
    exact ⟨summons.ticks.wiring.trans attends.wiring, fun place =>
      .ticks ((summons.ticks.ports place).trans (attends.ticks place))⟩
  | dismiss calls summons acknowledges =>
    have attends := Attends.acknowledge acknowledges
    exact ⟨summons.ticks.wiring.trans attends.wiring, fun place =>
      .ticks ((summons.ticks.ports place).trans (attends.ticks place))⟩
  | skip takes =>
    have attends := Attends.takeDue takes
    exact ⟨attends.wiring, fun place => .ticks (attends.ticks place)⟩
  | fire takes =>
    have attends := Attends.takeDue takes
    exact ⟨attends.wiring, fun place => .ticks (attends.ticks place)⟩
  | resume => exact ⟨.refl _, fun _ => .ticks .refl⟩
  | @leave _ after _ _ id fired takes =>
    have taken := Attends.takeDue takes
    have finished := Attends.finish after id fired
    exact ⟨taken.wiring.trans finished.wiring, fun place =>
      .ticks ((taken.ticks place).trans (finished.ticks place))⟩

end Simulated

end DeadlineTimers
