import DeadlineTimers.Proofs.HandlerPass
import DeadlineTimers.Proofs.WakeUp

/-!
# Serving a line

When captures do not move the counter, callbacks make no calls, and what is not yet due lies near enough,
serving the line of a running device calls its handler once or not at all. What is due by the tick is
taken, the line is quiet afterwards, and the compare interrupt fits what is left. A device whose line is
not active has nothing due, because no wake-up is lost.
-/

namespace DeadlineTimers

namespace Port

open Simulated

/-- A device that runs, with captures that do not move its counter, and no interrupts but those that it
needs. -/
structure Ready (port : SimPort) : Prop where
  enabled : port.device.enabled = true
  running : port.Running
  unmoved : port.timer.autoAdvance = 0
  readSilent : port.timer.channels.read.interruptEnabled = false
  wideSilent : port.device.width.isNarrow = false →
    port.timer.channels.overflow.interruptEnabled = false

/-- Such a device between interrupts: its line is quiet, and its compare interrupt fits its queue. -/
structure Steady (port : SimPort) : Prop where
  ready : port.Ready
  settled : port.Settled
  inactive : port.lineActive = false

/-- A deadline lies ahead, and near enough not to be taken for one of an epoch that is over. -/
structure Coming (port : SimPort) (expiry : Ticks) : Prop where
  ahead : Tick.reached port.tick expiry = false
  near : port.device.width.isNarrow = true →
    (expiry - port.tick).toNat + port.device.width.states < 2 ^ 31

def handled (port : SimPort) : SimPort := port.acknowledged.drained.rearm.2

variable {port : SimPort} {controller : Nvic} {expiry : Ticks}

theorem Steady.unlatched (steady : port.Steady) (narrow : port.device.width.isNarrow = true) :
    port.timer.channels.overflow.event = false := by
  have quiet := (lineActive_eq_false_iff.1 steady.inactive).2 .overflow
  have watched := (steady.ready.running.watching narrow).2
  cases latched : port.timer.channels.overflow.event with
  | false => rfl
  | true => exact watched.symm.trans (quiet latched)

theorem Ready.withController (ready : port.Ready)
    (lineEnabled : controller.isEnabled port.device.config.line = true) :
    Ready { port with controller } :=
  ⟨ready.enabled, { ready.running with lineEnabled }, ready.unmoved, ready.readSilent,
    ready.wideSilent⟩

theorem Ready.events (ready : port.Ready) {port' : SimPort} (ticks : TickEvents port port')
    (unmoved : port'.timer.autoAdvance = 0) : port'.Ready where
  enabled := (enabled_eq_of_ticks ticks).trans ready.enabled
  running := ready.running.events ticks
  unmoved := unmoved
  readSilent :=
    (@interruptEnabled_eq_of_ticks _ _ ticks .read Channel.noConfusion).trans ready.readSilent
  wideSilent wide :=
    (@interruptEnabled_eq_of_ticks _ _ ticks .overflow Channel.noConfusion).trans
      (ready.wideSilent (width_eq_of_ticks ticks ▸ wide))

theorem Coming.near_epoch (coming : port.Coming expiry) (running : port.Running)
    (unlatched : port.device.width.isNarrow = true → port.timer.channels.overflow.event = false)
    (narrow : port.device.width.isNarrow = true) :
    Tick.before (expiry &&& port.device.width.epochMask) port.device.tally = false := by
  have inside : port.timer.counter.toNat < port.device.width.states :=
    running.width ▸ running.inRange
  have near := coming.near narrow
  rw [tick, if_pos narrow, unlatched narrow, if_neg Bool.false_ne_true, UInt32.add_zero] at near
  exact Tick.not_before_of_near narrow running.aligned inside near

/-- What is left of a port when it was acknowledged and drained. -/
theorem drained_acknowledged (ready : port.Ready) :
    let left := port.acknowledged.drained
    left.Still ∧ TickEvents port left ∧ left.tick = port.tick ∧
      left.controller = port.controller ∧ left.device = { port.device with
        tally := left.device.tally
        isrs := port.device.isrs + 1
        queue := (port.device.queue.drainExpired port.tick).2 } := by
  intro left
  have still := still_acknowledged ready.unmoved
  have running := running_acknowledged ready.running ready.enabled
  have tick := port.tick_acknowledged
  obtain ⟨device, controller, -⟩ := port.acknowledged_device
  have acknowledges := port.ticks_acknowledge
  rw [acknowledge_of_enabled ready.enabled] at acknowledges
  have takes := TickEvent.read port.acknowledged port.acknowledged.device.config.line
  rw [still.read_eq running.tallied] at takes
  have queue : port.acknowledged.device.queue = port.device.queue := by
    rw [device]
  have emptied : left.device = { port.acknowledged.device with
      queue := (port.device.queue.drainExpired port.tick).2 } := by
    change { port.acknowledged.device with
      queue := (port.acknowledged.device.queue.drainExpired port.acknowledged.tick).2 } = _
    rw [tick, queue]
  refine ⟨⟨still.taken.unmoved, still.taken.folded⟩, ?_, ?_, controller, ?_⟩
  · exact (acknowledges.tail takes).tail (.aside (aside_withQueue _ _))
  · exact (tick_taken still.unmoved).trans tick
  · exact emptied.trans (congrArg (fun device : Device =>
      { device with queue := (port.device.queue.drainExpired port.tick).2 }) device)

/-- After a pass of the handler the device is steady, if its line was no longer marked pending and the
next deadline comes soon enough. -/
theorem steady_handled (ready : port.Ready)
    (cleared : port.controller.isPending port.device.config.line = false)
    (coming : ∀ expiry, (port.device.queue.drainExpired port.tick).2.nextExpiry = some expiry →
      port.Coming expiry) :
    port.handled.Steady ∧ port.handled.tick = port.tick ∧
      port.handled.device = { port.device with
        tally := port.handled.device.tally
        isrs := port.device.isrs + 1
        queue := (port.device.queue.drainExpired port.tick).2 } := by
  obtain ⟨still, ticks, tick, controller, device⟩ := drained_acknowledged ready
  have running := ready.running.events ticks
  have armed : port.acknowledged.drained.ArmedAhead port.handled := by
    refine still.rearm_ahead running fun expiry head => ?_
    rw [device] at head
    obtain ⟨ahead, near⟩ := coming expiry head
    rw [← tick, ← width_eq_of_ticks ticks] at near
    rw [← tick] at ahead
    have here : Coming port.acknowledged.drained expiry := ⟨ahead, near⟩
    exact ⟨ahead, fun narrow => here.near_epoch running still.folded narrow⟩
  have ticks' : TickEvents port port.handled := ticks.trans (ticks_rearm _)
  have device' : port.handled.device = { port.device with
      tally := port.handled.device.tally
      isrs := port.device.isrs + 1
      queue := (port.device.queue.drainExpired port.tick).2 } := by
    rw [armed.device]
    exact device
  have ready' : port.handled.Ready := by
    refine ready.events ticks' ?_
    rw [armed.timer]
    exact still.unmoved
  refine ⟨⟨ready', settled_rearm running, ?_⟩, armed.tick.trans tick, device'⟩
  refine lineActive_eq_false_iff.2 ⟨?_, fun channel => ?_⟩
  · rw [device', armed.controller, controller]
    exact cleared
  · cases channel with
    | overflow =>
      intro latched
      cases narrow : port.device.width.isNarrow with
      | false => exact ready'.wideSilent ((width_eq_of_ticks ticks').symm ▸ narrow)
      | true =>
        have unlatched := still.folded ((width_eq_of_ticks ticks).symm ▸ narrow)
        change port.handled.timer.channels.overflow.event = true at latched
        rw [armed.timer] at latched
        exact Bool.noConfusion (unlatched.symm.trans latched)
    | read => exact fun _ => ready'.readSilent
    | interrupt => exact armed.quiet

end Port

namespace Simulated

open Port Run

variable {scheduler before after : SimScheduler} {place : Fin maxDevices}
  {history : History BoardRequest}

def SimScheduler.cleared (scheduler : SimScheduler) (place : Fin maxDevices) : SimScheduler :=
  { scheduler with board := { scheduler.board with
      controller := (scheduler.board.controller.takePending (scheduler.board.layout.get place).line).2 } }

def OnItsLine (board : SimBoard) (place : Fin maxDevices) : Prop :=
  (board.portAt place).device.config.line = (board.layout.get place).line

def SimScheduler.due (scheduler : SimScheduler) (place : Fin maxDevices) : List QueueEntry :=
  let port := scheduler.board.portAt place
  (port.device.queue.drainExpired port.tick).1

/-- A line was served: what was due by the tick was taken, and the device is steady. -/
structure Served (place : Fin maxDevices) (before after : SimScheduler) : Prop where
  steady : (after.board.portAt place).Steady
  tick : (after.board.portAt place).tick = (before.board.portAt place).tick
  config : (after.board.portAt place).device.config = (before.board.portAt place).device.config
  width : (after.board.portAt place).device.width = (before.board.portAt place).device.width
  queue : after.board.queueAt place =
    ((before.board.queueAt place).drainExpired (before.board.portAt place).tick).2
  timers : after.timers = ((before.due place).map (·.timer)).foldl unlink before.timers
  layout : after.board.layout = before.board.layout

theorem located_of_enabled {board : SimBoard}
    (enabled : (board.portAt place).device.enabled = true) :
    Located board place place (board.portAt place).device ∧
      board.port place (board.portAt place).device = board.portAt place := by
  cases registered : board.devices.get place with
  | none =>
    simp only [Board.portAt, Board.port, registered, Option.getD_none] at enabled
    cases enabled
  | some device =>
    have located : Located board place place device := ⟨rfl, registered⟩
    rw [located.portAt_eq]
    exact ⟨located, rfl⟩

theorem takeActive_eq (ready : (scheduler.board.portAt place).Ready)
    (line : OnItsLine scheduler.board place) :
    scheduler.takeActive place =
      ((scheduler.board.portAt place).lineActive, scheduler.cleared place) := by
  have enabled := ready.running.lineEnabled
  rw [line] at enabled
  rw [lineActive, line]
  exact if_pos enabled

theorem portAt_cleared (line : OnItsLine scheduler.board place) :
    (scheduler.cleared place).board.portAt place =
      { scheduler.board.portAt place with
        controller := ((scheduler.board.portAt place).controller.takePending
          (scheduler.board.portAt place).device.config.line).2 } := by
  rw [line]
  rfl

theorem cleared_of_inactive (line : OnItsLine scheduler.board place)
    (inactive : (scheduler.board.portAt place).lineActive = false) :
    scheduler.cleared place = scheduler := by
  have idle := (lineActive_eq_false_iff.1 inactive).1
  rw [line] at idle
  change scheduler.board.controller.isPending _ = false at idle
  rw [SimScheduler.cleared, Nvic.takePending_of_not_pending idle]

/-- Serving a line that is not active leaves things as they are. -/
theorem servicePass_quiet {interrupt : BoardId → DeviceId → SimRun Nat} (passes : Nat)
    (steady : (scheduler.board.portAt place).Steady) (line : OnItsLine scheduler.board place) :
    outcome (servicePass interrupt 0 place passes) (.single scheduler history) =
      (.ok 0, .single scheduler history) := by
  cases passes with
  | zero => rfl
  | succ passes =>
    have looks := takeActive_eq steady.ready line
    rw [steady.inactive, cleared_of_inactive line steady.inactive] at looks
    rw [servicePass, outcome_bind_of_ok (outcome_onBoard_of_eq looks)]
    rfl

theorem Served.onItsLine (served : Served place before after) (line : OnItsLine before.board place) :
    OnItsLine after.board place := by
  rw [OnItsLine, served.config, served.layout]
  exact line

/-- A line that is not active has nothing to serve. -/
theorem served_of_steady (steady : (scheduler.board.portAt place).Steady) :
    scheduler.due place = [] ∧ Served place scheduler scheduler := by
  have drains : (scheduler.board.queueAt place).drainExpired (scheduler.board.portAt place).tick =
      ([], scheduler.board.queueAt place) := by
    apply DeadlineQueue.drainExpired_of_none
    rw [← Option.not_isSome_iff_eq_none, DeadlineQueue.popExpired_isSome_iff]
    rintro ⟨head, first, reached⟩
    have next : (scheduler.board.portAt place).device.queue.nextExpiry = some head.expiry := by
      change (scheduler.board.queueAt place).peekEarliest.map (·.expiry) = _
      rw [first]
      rfl
    have active := (steady.settled.awaits _ next).lineActive_of_reached steady.ready.running reached
    rw [steady.inactive] at active
    cases active
  have nothing : scheduler.due place = [] := congrArg Prod.fst drains
  refine ⟨nothing, steady, rfl, rfl, rfl, ?_, ?_, rfl⟩
  · rw [drains]
  · rw [nothing]
    rfl

def SimScheduler.handled (scheduler : SimScheduler) (place : Fin maxDevices) : SimScheduler :=
  (scheduler.drained place (scheduler.board.portAt place).acknowledged).finish place
    (scheduler.due place).length

theorem handled_eq (scheduler : SimScheduler) (place : Fin maxDevices) :
    (scheduler.handled place).board =
        scheduler.board.putPort place (scheduler.board.portAt place).handled ∧
      (scheduler.handled place).timers =
        ((scheduler.due place).map (·.timer)).foldl unlink scheduler.timers := by
  let port := scheduler.board.portAt place
  let left := scheduler.drained place port.acknowledged
  have here : Located left.board place place port.acknowledged.drained.device :=
    ⟨rfl, by simp [left, SimScheduler.drained, Board.putPort]⟩
  have same : left.board.port place port.acknowledged.drained.device = port.acknowledged.drained :=
    Board.port_putPort_self _ _ _
  have queue : port.acknowledged.device.queue = port.device.queue := by
    rw [port.acknowledged_device.1]
  obtain ⟨timers, board⟩ := finish_of_located here (scheduler.due place).length
  rw [same] at board
  constructor
  · exact board.trans (putPort_putPort _ _ _ _)
  · refine timers.trans ?_
    change ((port.acknowledged.device.queue.drainExpired port.acknowledged.tick).1.map _).foldl _ _ = _
    rw [queue, port.tick_acknowledged]
    rfl

/-- A pass of the handler over a line that was marked not pending any more. -/
theorem served_handled (ready : (scheduler.board.portAt place).Ready)
    (cleared : (scheduler.board.portAt place).controller.isPending
      (scheduler.board.portAt place).device.config.line = false)
    (coming : ∀ expiry, ((scheduler.board.queueAt place).drainExpired
        (scheduler.board.portAt place).tick).2.nextExpiry = some expiry →
      (scheduler.board.portAt place).Coming expiry) :
    Served place scheduler (scheduler.handled place) ∧
      ((scheduler.handled place).board.portAt place).device.isrs =
        (scheduler.board.portAt place).device.isrs + 1 := by
  obtain ⟨steady, tick, device⟩ := steady_handled ready cleared coming
  obtain ⟨board, timers⟩ := handled_eq scheduler place
  have port : (scheduler.handled place).board.portAt place =
      (scheduler.board.portAt place).handled := by
    rw [board, portAt_putPort_self]
  refine ⟨⟨?_, ?_, ?_, ?_, ?_, timers, ?_⟩, ?_⟩
  · rw [port]
    exact steady
  · rw [port, tick]
  · rw [port, device]
  · rw [port, device]
  · rw [Board.queueAt, port, device]
    rfl
  · rw [board]
    rfl
  · rw [port, device]

/-- A call that looks for a hardware timer and serves its line in some way answers how many callbacks were
called. -/
theorem execute_of_served {client : Client BoardRequest} {bounds : Bounds} {request : BoardRequest}
    {serve : Fin maxDevices → SimRun Nat} {fired : Nat} {history' : History BoardRequest}
    (serves : perform (Run.fire client bounds.dispatch bounds.depth) bounds.dispatch
      ⟨0, .platform request⟩ = findPeripheral place.val >>= fun found => .number <$> serve found)
    (ran : outcome (serve place) (.single before history) =
      (.ok fired, .single after history')) :
    outcome (execute client bounds (.call ⟨0, .platform request⟩)) (.single before history) =
      (.ok (.number fired), .single after
        (history'.push (.answered none ⟨0, .platform request⟩ (.number fired)))) := by
  have found : findPeripheral place.val = pure place := dif_pos place.isLt
  have performed : outcome (perform (Run.fire client bounds.dispatch bounds.depth) bounds.dispatch
      ⟨0, .platform request⟩) (.single before history) =
        (.ok (.number fired), .single after history') := by
    rw [serves, found, outcome_bind_of_ok (outcome_pure _ _)]
    exact outcome_map_of_ok ran
  rw [execute, outcome_bind_of_ok performed, outcome_bind_of_ok (outcome_note _ _ _), outcome_pure]

abbrev silentHandler (limit depth : Nat) : BoardId → DeviceId → SimRun Nat :=
  interrupt (Run.fire silentClient limit (depth + 1)) limit

section Silent

variable (limit depth : Nat) (ready : (scheduler.board.portAt place).Ready)
  (coming : ∀ expiry, ((scheduler.board.queueAt place).drainExpired
      (scheduler.board.portAt place).tick).2.nextExpiry = some expiry →
    (scheduler.board.portAt place).Coming expiry)
  (callable : ∀ entry ∈ scheduler.due place,
    (scheduler.timers.get entry.timer).callback.isSome = true)
  (enough : (scheduler.due place).length < limit)

include ready

theorem ready_cleared (line : OnItsLine scheduler.board place) :
    Ready ((scheduler.cleared place).board.portAt place) := by
  rw [portAt_cleared line]
  exact ready.withController
    ((Nvic.isEnabled_takePending _ _ _).trans ready.running.lineEnabled)

include callable enough

/-- With callbacks that make no calls, the handler takes what is due by the tick, and calls the callbacks
in that order. -/
theorem silentHandler_handles :
    outcome (silentHandler limit depth 0 place) (.single scheduler history) =
      (.ok (scheduler.due place).length, .single (scheduler.handled place)
        (history ++ (scheduler.due place).map
          (calledFor scheduler.timers place (scheduler.board.portAt place).tick))) := by
  obtain ⟨located, same⟩ := located_of_enabled ready.enabled
  have handles := @interrupt_silent scheduler place _ limit depth limit history located ready.enabled
  rw [same] at handles
  exact handles ready.running ready.unmoved callable enough

/-- The handler of an active line runs, and then the line is looked at again. -/
theorem servicePass_of_active (line : OnItsLine scheduler.board place)
    (active : (scheduler.board.portAt place).lineActive = true) (passes : Nat) :
    outcome (servicePass (silentHandler limit depth) 0 place (passes + 1))
        (.single scheduler history) =
      outcome (((scheduler.due place).length + ·) <$>
          servicePass (silentHandler limit depth) 0 place passes)
        (.single ((scheduler.cleared place).handled place)
          (history ++ (scheduler.due place).map
            (calledFor scheduler.timers place (scheduler.board.portAt place).tick))) := by
  have looks := takeActive_eq ready line
  rw [active] at looks
  have handles := @silentHandler_handles (scheduler.cleared place) place history limit depth
    (ready_cleared ready line) callable enough
  rw [servicePass, outcome_bind_of_ok (outcome_onBoard_of_eq looks), ← bind_pure_comp]
  exact outcome_bind_of_ok handles

include coming

/-- Serving a line runs the handler if the line is active, and never a second time: however many passes
are allowed, the first leaves the line inactive. -/
theorem servicePass_silent (settled : (scheduler.board.portAt place).Settled)
    (line : OnItsLine scheduler.board place) :
    ∃ after, Served place scheduler after ∧
      (after.board.portAt place).device.isrs = (scheduler.board.portAt place).device.isrs +
        (if (scheduler.board.portAt place).lineActive then 1 else 0) ∧
      ∀ passes, outcome (servicePass (silentHandler limit depth) 0 place (passes + 1))
          (.single scheduler history) =
        (.ok (scheduler.due place).length, .single after (history ++ (scheduler.due place).map
          (calledFor scheduler.timers place (scheduler.board.portAt place).tick))) := by
  cases active : (scheduler.board.portAt place).lineActive with
  | false =>
    have steady : Steady (scheduler.board.portAt place) := ⟨ready, settled, active⟩
    obtain ⟨nothing, served⟩ := served_of_steady steady
    refine ⟨scheduler, served, (UInt32.add_zero _).symm, fun passes => ?_⟩
    rw [servicePass_quiet (passes + 1) steady line, nothing, List.map_nil, Array.appendList_nil]
    rfl
  | true =>
    have port := portAt_cleared line
    let next := scheduler.cleared place
    have coming' : ∀ expiry, ((next.board.queueAt place).drainExpired
        (next.board.portAt place).tick).2.nextExpiry = some expiry →
          (next.board.portAt place).Coming expiry := by
      intro expiry head
      rw [port]
      obtain ⟨ahead, near⟩ := coming expiry head
      exact ⟨ahead, near⟩
    have cleared : (next.board.portAt place).controller.isPending
        (next.board.portAt place).device.config.line = false := by
      rw [port]
      exact Nvic.isPending_takePending_self _ _
    obtain ⟨served, isrs⟩ := served_handled (ready_cleared ready line) cleared coming'
    have line' : OnItsLine (next.handled place).board place := served.onItsLine (by
      rw [OnItsLine, port]
      exact line)
    refine ⟨next.handled place, ⟨served.steady, served.tick, served.config, served.width,
      served.queue, served.timers, served.layout⟩, isrs, fun passes => ?_⟩
    rw [servicePass_of_active limit depth ready callable enough line active,
      outcome_map_of_ok (servicePass_quiet passes served.steady line')]
    rfl

end Silent

end Simulated

end DeadlineTimers
