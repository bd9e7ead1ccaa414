import DeadlineTimers.Proofs.Reachable

/-!
# No wake-up is lost

Between the commands of a user every device that runs is settled: its compare interrupt fits the head
of its queue, and the handler will be called in time for that head. While the handler of a device runs
this need not hold of it, so the invariant leaves out the devices whose handlers are running. A handler
makes up for it on leaving, when it arms the compare for what remains.

Serving a line clears its pending mark, and with it the only sign that a deadline was missed or lies in
an epoch just begun. That is safe if the handler that runs then belongs to the device on that line.
-/

namespace DeadlineTimers.Simulated

open Port

variable {board before after : SimBoard} {moment moment' : Moment} {id : DeviceId}
  {place : Fin maxDevices} {port port' : SimPort}

/-- No registered device but the one served sits on the line that the layout states for it. -/
def OwnsLine (board : SimBoard) (id : DeviceId) : Prop :=
  ∀ (served place : Fin maxDevices) (device : Device), served.val = id →
    board.devices.get place = some device →
      Nvic.slot device.config.line = Nvic.slot (board.layout.get served).line → place = served

/-- Requests that leave the hardware to the scheduler, and that serve a line only for the device that
sits on it. -/
def Serving (board : SimBoard) (request : Request BoardRequest) : Prop :=
  schedules request = true ∧ ∀ id, served? request = some id → OwnsLine board id

theorem leavesHardware_serving : LeavesHardware Serving := fun _ _ permitted => permitted.1

theorem SameWiring.ownsLine (wiring : SameWiring before after) (owns : OwnsLine before id) :
    OwnsLine after id := by
  intro served place device here registered shared
  have config := wiring.configs place
  rw [registered, Option.map_some, eq_comm, Option.map_eq_some_iff] at config
  obtain ⟨device', registered', config⟩ := config
  rw [wiring.layout, ← config] at shared
  exact owns served place device' here registered' shared

/-- Devices on lines of their own, as the layout states them, can all be served. -/
theorem ownsLine_of_distinct
    (lines : ∀ (place : Fin maxDevices) (device : Device), board.devices.get place = some device →
      device.config.line = (board.layout.get place).line)
    (below : ∀ place : Fin maxDevices, (board.layout.get place).line < lineCount)
    (distinct : ∀ place other : Fin maxDevices,
      (board.layout.get place).line = (board.layout.get other).line → place = other) (id : DeviceId) :
    OwnsLine board id := by
  intro served place device _ registered shared
  rw [lines place device registered] at shared
  have same := congrArg Fin.val shared
  simp only [Nvic.slot, Nat.mod_eq_of_lt (below _)] at same
  exact distinct place served same

/-- Every device that runs, and whose handler does not run, is settled. -/
def Minded (moment : Moment) : Prop :=
  ∀ place : Fin maxDevices,
    (moment.scheduler.board.portAt place).device.enabled = true →
      place.val ∉ moment.attended → Port.Settled (moment.scheduler.board.portAt place)

/-! ## What single operations keep -/

theorem settled_of_uses (uses : Relation.ReflTransGen PortUse port port') (sound : port.Sound)
    (settled : port.device.enabled = true → port.Settled) :
    port'.device.enabled = true → port'.Settled := by
  have both : port'.Sound ∧ (port'.device.enabled = true → port'.Settled) := by
    induction uses with
    | refl => exact ⟨sound, settled⟩
    | tail _ use ih =>
      exact ⟨(PortStep.use use).sound ih.1, fun enabled => .use use ih.1 ih.2 enabled⟩
  exact both.2

theorem settled_of_controller {controller : Nvic} (settled : port.Settled)
    (active : port.lineActive = true → lineActive { port with controller } = true) :
    Settled { port with controller } :=
  ⟨settled.idle, settled.compare, fun expiry head =>
    (settled.awaits expiry head).of_same rfl rfl rfl rfl rfl active⟩

theorem takeActive_cases {before after : SimScheduler} {active : Bool}
    (did : before.takeActive place = (active, after)) :
    (active = false ∧ after = before) ∨
      (active = ((before.board.controller.isPending (before.board.layout.get place).line) ||
          (before.board.peripherals.get place).irqAsserted) ∧
        after = { before with board := { before.board with
          controller := (before.board.controller.takePending (before.board.layout.get place).line).2 } }) := by
  unfold SimScheduler.takeActive at did
  simp only at did
  split at did
  · obtain ⟨rfl, rfl⟩ := Prod.mk.inj did
    exact .inr ⟨rfl, rfl⟩
  · obtain ⟨rfl, rfl⟩ := Prod.mk.inj did
    exact .inl ⟨rfl, rfl⟩

theorem isPending_takePending_of_ne (nvic : Nvic) {line other : IrqLine}
    (different : Nvic.slot other ≠ Nvic.slot line) :
    (nvic.takePending line).2.isPending other = nvic.isPending other := by
  simp [Nvic.isPending, Nvic.takePending, Nvic.marks_modifyMarks, different]

theorem isPending_takePending_of_clear (nvic : Nvic) {line : IrqLine} (other : IrqLine)
    (clear : nvic.isPending line = false) :
    (nvic.takePending line).2.isPending other = nvic.isPending other := by
  by_cases same : Nvic.slot other = Nvic.slot line
  · have marks : nvic.isPending other = nvic.isPending line := by
      simp [Nvic.isPending, Nvic.marks, same]
    rw [marks, clear]
    simp [Nvic.isPending, Nvic.takePending, Nvic.marks_modifyMarks, same]
  · exact isPending_takePending_of_ne nvic same

/-! ## Moves -/

/-- While a line is served that another device does not sit on, that other device stays settled. -/
theorem settled_of_takeActive {before after : SimScheduler} {active : Bool} {served : Fin maxDevices}
    (did : before.takeActive served = (active, after)) (owns : OwnsLine before.board served)
    (apart : active = true → place ≠ served)
    (enabled : (before.board.portAt place).device.enabled = true)
    (settled : Settled (before.board.portAt place)) : Settled (after.board.portAt place) := by
  rcases takeActive_cases did with ⟨-, rfl⟩ | ⟨rfl, rfl⟩
  · exact settled
  · refine settled_of_controller settled fun isActive => ?_
    rw [lineActive, Bool.or_eq_true] at isActive ⊢
    refine isActive.imp_left fun pending => ?_
    cases clear : before.board.controller.isPending (before.board.layout.get served).line with
    | false =>
      exact (isPending_takePending_of_clear _ _ clear).trans pending
    | true =>
      have different := apart (by rw [clear, Bool.true_or])
      cases registered : before.board.devices.get place with
      | none =>
        simp only [Board.portAt, Board.port, registered, Option.getD_none] at enabled
        cases enabled
      | some device =>
        have located : Located before.board place place device := ⟨rfl, registered⟩
        rw [located.portAt_eq] at pending ⊢
        refine (isPending_takePending_of_ne _ fun shared => ?_).trans pending
        exact different (owns served place device rfl registered shared)

theorem settled_of_attends {before after : SimBoard} (attends : Attends id before after)
    (sound : Sound (before.portAt place)) (another : place.val ≠ id)
    (settled : (before.portAt place).device.enabled = true → Settled (before.portAt place))
    (enabled : (after.portAt place).device.enabled = true) : Settled (after.portAt place) :=
  .use (attends.others place another) sound settled enabled

theorem settled_of_finish {scheduler : SimScheduler} (fired : Nat)
    (sound : Sound (scheduler.board.portAt place)) (here : place.val = id)
    (enabled : ((scheduler.finish id fired).board.portAt place).device.enabled = true) :
    Settled ((scheduler.finish id fired).board.portAt place) := by
  rw [enabled_eq_of_ticks ((Attends.finish scheduler id fired).own place here)] at enabled
  rcases finish_cases scheduler id fired with ⟨⟨error, missing⟩, -⟩ | ⟨found, device, located, -, board⟩
  · rw [stopped_of_missing missing here] at enabled
    cases enabled
  · obtain rfl : found = place := Fin.ext (located.id.trans here.symm)
    rw [board, portAt_putPort_self, ← located.portAt_eq]
    exact settled_rearm (sound.running enabled)

theorem settled_of_summons {board : SimBoard} {before after : SimScheduler}
    (summons : Summons (Serving board) before id after) (wiring : SameWiring board before.board)
    (another : place.val ≠ id)
    (settled : (before.board.portAt place).device.enabled = true →
      Settled (before.board.portAt place))
    (enabled : (after.board.portAt place).device.enabled = true) :
    Settled (after.board.portAt place) := by
  rw [enabled_eq_of_ticks (summons.ticks.ports place)] at enabled
  cases summons with
  | request => exact settled enabled
  | line permitted serves active =>
    exact settled_of_takeActive active (wiring.ownsLine (permitted.2 _ serves))
      (fun _ same => another (congrArg Fin.val same)) enabled (settled enabled)

theorem Minded.move {board : SimBoard} (wiring : SameWiring board moment.scheduler.board)
    (sound : ∀ place, Sound (moment.scheduler.board.portAt place))
    (move : Move (Serving board) moment moment') (minded : Minded moment) : Minded moment' := by
  intro place enabled unattended
  cases move with
  | answer calls permitted answers =>
    have settled := fun enabled => minded place enabled unattended
    rcases answers.ports permitted.1 with steps | uses
    · exact .step (steps.ports place) (sound place) settled enabled
    · exact settled_of_uses (uses.ports place) (sound place) settled enabled
  | report => exact minded place enabled unattended
  | advance calls permitted serves advances =>
    have uses := Uses.modifyPeripheral advances (.advance _ _)
    exact settled_of_uses (uses.ports place) (sound place)
      (fun enabled => minded place enabled unattended) enabled
  | quiet calls permitted serves inactive =>
    have ran := ((takeActive_aside inactive).2 place).enabled.symm.trans enabled
    exact settled_of_takeActive inactive (wiring.ownsLine (permitted.2 _ serves))
      (fun active => Bool.noConfusion active) ran (minded place ran unattended)
  | @enter before between after history handlers caller id calls summons acknowledges =>
    obtain ⟨another, unattended⟩ := not_or.1 (List.mem_cons.not.1 unattended)
    have sound := (sound place).events (summons.ticks.ports place)
    have settled := settled_of_summons summons wiring another fun enabled =>
      minded place enabled unattended
    exact settled_of_attends (.acknowledge acknowledges) sound another settled enabled
  | @dismiss before between after history handlers caller id calls summons acknowledges =>
    have attends := Attends.acknowledge acknowledges
    by_cases here : place.val = id
    · have stopped := acknowledge_runs acknowledges here
      rw [enabled_eq_of_ticks (attends.own place here), ← stopped] at enabled
      cases enabled
    · have sound := (sound place).events (summons.ticks.ports place)
      have settled := settled_of_summons summons wiring here fun enabled =>
        minded place enabled unattended
      exact settled_of_attends attends sound here settled enabled
  | skip takes =>
    have another := (not_or.1 (List.mem_cons.not.1 unattended)).1
    exact settled_of_attends (.takeDue takes) (sound place) another
      (fun enabled => minded place enabled unattended) enabled
  | fire takes =>
    have another := (not_or.1 (List.mem_cons.not.1 unattended)).1
    exact settled_of_attends (.takeDue takes) (sound place) another
      (fun enabled => minded place enabled unattended) enabled
  | resume => exact minded place enabled unattended
  | @leave before after history handlers id fired takes =>
    have taken := Attends.takeDue takes
    have sound' := (sound place).events (taken.ticks place)
    by_cases here : place.val = id
    · exact settled_of_finish fired sound' here enabled
    · have unattended' : place.val ∉ (id :: handlers.map (·.device)) :=
        List.mem_cons.not.2 (not_or.2 ⟨here, unattended⟩)
      have settled := settled_of_attends taken (sound place) here
        fun enabled => minded place enabled unattended'
      exact settled_of_attends (.finish after id fired) sound' here settled enabled

theorem Passed.minded (passed : Passed Serving moment) : Minded moment := by
  induction passed with
  | start layout ids logger =>
    intro place enabled
    rw [portAt_boardOfLayout] at enabled
    cases enabled
  | progress passed progress ih =>
    cases progress with
    | @register scheduler board history changed timer config registers offered =>
      intro place enabled unattended
      change (board.portAt place).device.enabled = true at enabled
      change Settled (board.portAt place)
      by_cases same : place = changed
      · subst same
        rw [portAt_registers_self registers] at enabled
        cases enabled
      · rw [portAt_registers_of_ne registers same] at enabled ⊢
        exact ih place enabled unattended
    | move wiring move => exact ih.move wiring (passed.sound leavesHardware_serving) move

theorem before_of_later_epoch {epoch tally : Ticks} (later : epoch ≠ tally)
    (ahead : Tick.before epoch tally = false) : Tick.before tally epoch = true := by
  have different : epoch.toNat ≠ tally.toNat := fun same => later (UInt32.toNat_inj.1 same)
  have bound := epoch.toNat_lt
  have tallyBound := tally.toNat_lt
  rw [Tick.before_eq_false_iff_toNat] at ahead
  rw [Tick.before_iff_toNat]
  omega

/-- Between the commands of a user no deadline of a device that runs is overlooked. With nothing queued
the compare interrupt is off, and if it is on, the compare register holds the earliest deadline. Once
the tick has reached that deadline the line is active; until then either it is active anyway, or the
compare is armed, or the deadline lies in a later epoch and the overflow will call the handler. -/
theorem deadline_awaited {scheduler : SimScheduler} {history : History BoardRequest}
    (reachable : Reachable Serving scheduler history) {place : Fin maxDevices} {device : Device}
    (registered : scheduler.board.devices.get place = some device) (enabled : device.enabled = true) :
    let port := scheduler.board.port place device
    let interrupt := port.timer.channels.interrupt
    let overflow := port.timer.channels.overflow
    scheduler.board.controller.isEnabled device.config.line = true ∧
    (device.queue.isEmpty = true → interrupt.interruptEnabled = false) ∧
    ∀ head, device.queue.peekEarliest = some head →
      (interrupt.interruptEnabled = true →
        interrupt.compare = head.expiry &&& device.width.counterMask) ∧
      (Tick.reached port.tick head.expiry = true → port.lineActive = true) ∧
      (Tick.reached port.tick head.expiry = false →
        port.lineActive = true ∨
        (interrupt.interruptEnabled = true ∧
          (device.width.isNarrow = true → overflow.event = false ∧
            head.expiry &&& device.width.epochMask = device.tally ∧
            port.timer.counter < interrupt.compare)) ∨
        (device.width.isNarrow = true ∧ interrupt.interruptEnabled = false ∧
          overflow.event = false ∧ overflow.interruptEnabled = true ∧
          Tick.before device.tally (head.expiry &&& device.width.epochMask) = true)) := by
  intro port interrupt overflow
  have located : Located scheduler.board place place device := ⟨rfl, registered⟩
  have passed := reachable.passed leavesHardware_serving
  have sound := passed.sound leavesHardware_serving place
  have settled := passed.minded place
  change Sound (scheduler.board.portAt place) at sound
  change (scheduler.board.portAt place).device.enabled = true → _ →
    Settled (scheduler.board.portAt place) at settled
  rw [located.portAt_eq] at sound settled
  have running : port.Running := sound.running enabled
  have settled : port.Settled := settled enabled List.not_mem_nil
  refine ⟨running.lineEnabled, fun empty => ?_, fun head first => ?_⟩
  · apply settled.idle
    change device.queue.nextExpiry = none
    rw [DeadlineQueue.nextExpiry_eq, List.isEmpty_iff.1 empty]
    rfl
  · have next : port.device.queue.nextExpiry = some head.expiry := by
      change device.queue.peekEarliest.map (·.expiry) = _
      rw [first]
      rfl
    have awaits := settled.awaits _ next
    refine ⟨settled.compare _ next, awaits.lineActive_of_reached running, fun _ => ?_⟩
    cases awaits with
    | active active => exact .inl active
    | wide wide enabled compare ahead =>
      refine .inr (.inl ⟨enabled, fun narrow => ?_⟩)
      rw [show device.width.isNarrow = false from wide] at narrow
      cases narrow
    | armed narrow unlatched enabled compare epoch ahead =>
      refine .inr (.inl ⟨enabled, fun _ => ⟨unlatched, epoch, ?_⟩⟩)
      rw [UInt32.lt_iff_toNat_lt, compare, CounterWidth.and_counterMask_toNat]
      exact ahead
    | deferred narrow unlatched disabled later ahead =>
      exact .inr (.inr ⟨narrow, disabled, unlatched, (running.watching narrow).2,
        before_of_later_epoch later ahead⟩)

theorem serving_of_unserved {request : Request BoardRequest} (leaves : schedules request = true)
    (unserved : served? request = none) : Serving board request :=
  ⟨leaves, fun id serves => by rw [unserved] at serves; cases serves⟩

/-- A timer for tick 100 waits on the 16-bit timer of the nRF51, and the counter has moved there. -/
theorem deadline_awaited_at_100 :
    let running := (nrf51AtRest.init 1 1000000).2
    let attached := (running.attach 1 0 0 7).2
    let started := (attached.start 0 100).2
    let moved := (SimScheduler.modifyPeripheral secondPlace (TimerAccess.run · (.advance 100))
      started).2
    let port := moved.board.portAt secondPlace
    port.device.enabled = true ∧ port.device.queue.peekEarliest = some ⟨0, 100⟩ ∧
      Tick.reached port.tick 100 = true ∧ port.lineActive = true := by
  intro running attached started moved port
  have init : Answers nrf51AtRest (.init 1 1000000) (.ofUnit (.ok ())) running :=
    .init (Prod.ext rfl rfl)
  have attach : Answers running (.attach 1 0 0 7) (.ofUnit (running.attach 1 0 0 7).1) attached :=
    .attach (Prod.eta _).symm
  have start : Answers attached (.start 0 100) (.ofUnit (attached.start 0 100).1) started :=
    .start (Prod.eta _).symm
  have move : Answers started (.platform (.access 1 (.advance 100))) (.reading .nothing) moved :=
    .access secondPlace (Prod.ext rfl rfl)
  have atRest : Reachable Serving nrf51AtRest #[] := .start DeviceConfig.nrf51 [0, 1, 2] {}
  have reachable := (((atRest.answer init (serving_of_unserved rfl rfl)).answer attach
    (serving_of_unserved rfl rfl)).answer start (serving_of_unserved rfl rfl)).answer move
      (serving_of_unserved rfl rfl)
  have registered : moved.board.devices.get secondPlace = some port.device := by decide +kernel
  have enabled : port.device.enabled = true := by decide +kernel
  have head : port.device.queue.peekEarliest = some ⟨0, 100⟩ := by decide +kernel
  have reached : Tick.reached port.tick 100 = true := by decide +kernel
  have located : Located moved.board secondPlace secondPlace port.device := ⟨rfl, registered⟩
  have same : port = moved.board.port secondPlace port.device := located.portAt_eq
  clear_value port moved
  rw [same] at reached ⊢
  have awaited := deadline_awaited reachable registered enabled
  exact ⟨enabled, head, reached, (awaited.2.2 _ head).2.1 reached⟩

end DeadlineTimers.Simulated
