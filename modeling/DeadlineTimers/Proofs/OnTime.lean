import DeadlineTimers.Proofs.ExactTick
import DeadlineTimers.Proofs.Service
import DeadlineTimers.Proofs.StartOrder

/-!
# Timers fire on time

A user who steps a counter has the line served after each tick. Then every timer is called at the very
tick of its deadline, if all deadlines lie ahead by less than half a turn, and an epoch less than that if
the counter is narrow. The proof goes tick by tick: a device between ticks is steady, so its line is
active after the next tick if that reaches the head of the queue, and one pass of the handler makes it
steady again.
-/

namespace DeadlineTimers

namespace Port

open Simulated

variable {port : SimPort} {expiry : Ticks}

/-- A deadline lies ahead of the tick by less than half a turn, and by an epoch less than that if the
counter is narrow. -/
structure Near (port : SimPort) (expiry : Ticks) : Prop where
  ahead : 0 < (expiry - port.tick).toNat
  half : (expiry - port.tick).toNat < 2 ^ 31
  spare : port.device.width.isNarrow = true →
    (expiry - port.tick).toNat + port.device.width.states < 2 ^ 31

/-- A deadline that has not been reached yet comes nearer. -/
theorem Near.later {port' : SimPort} (near : port.Near expiry) {ticks : Ticks}
    (tick : port'.tick = port.tick + ticks) (width : port'.device.width = port.device.width)
    (beyond : ticks.toNat < (expiry - port.tick).toNat) : port'.Near expiry := by
  obtain ⟨ahead, half, spare⟩ := near
  have nearer := Tick.sub_add_toNat (Nat.le_of_lt beyond)
  rw [← tick] at nearer
  refine ⟨by omega, by omega, fun narrow => ?_⟩
  rw [width] at narrow ⊢
  have spare := spare narrow
  omega

theorem Near.coming (near : port.Near expiry) : port.Coming expiry where
  ahead := by
    obtain ⟨ahead, half, -⟩ := near
    have tickBound := port.tick.toNat_lt
    have expiryBound := expiry.toNat_lt
    rw [UInt32.toNat_sub] at ahead half
    rw [Tick.reached_eq_false_iff_toNat]
    omega
  near := near.spare

theorem Ready.advance (ready : port.Ready) (ticks : UInt32) :
    Ready (port.modifyTimer (·.advance ticks)) :=
  ready.events (.single (.advance port ticks))
    ((port.timer.advance_autoAdvance ticks).trans ready.unmoved)

theorem Ready.settled_advance (ready : port.Ready) (settled : port.Settled) (ticks : UInt32) :
    Settled (port.modifyTimer (·.advance ticks)) :=
  .use (.advance port ticks) ⟨ready.readSilent, fun _ => ready.running⟩ (fun _ => settled)
    ready.enabled

/-- With no overflow latched, a movement by at most one round of a narrow counter loses none. -/
theorem tick_advance_of_round (running : port.Running)
    (unlatched : port.device.width.isNarrow = true → port.timer.channels.overflow.event = false)
    {ticks : UInt32}
    (round : port.device.width.isNarrow = true → ticks.toNat ≤ port.device.width.states) :
    tick (port.modifyTimer (·.advance ticks)) = port.tick + ticks := by
  refine tick_advance running ticks fun narrow => ?_
  have inside : port.timer.counter.toNat < port.device.width.states :=
    running.width ▸ running.inRange
  have round := round narrow
  rw [overflow_advance running narrow, ChannelState.latch_missed_eq_iff]
  by_cases within : port.timer.counter.toNat + ticks.toNat < port.device.width.states
  · exact .inl (Nat.div_eq_of_lt within)
  · refine .inr ⟨unlatched narrow, ?_⟩
    rw [Nat.div_eq_iff port.device.width.states_pos]
    omega

/-- One more tick of a steady device loses no overflow. -/
theorem Steady.advance_one (steady : port.Steady) :
    let next := port.modifyTimer (·.advance 1)
    next.Ready ∧ next.Settled ∧ next.tick = port.tick + 1 := by
  intro next
  have ready := steady.ready
  refine ⟨ready.advance 1, ready.settled_advance steady.settled 1, ?_⟩
  exact tick_advance_of_round ready.running steady.unlatched fun _ => port.device.width.states_pos

end Port

namespace Simulated

open Port Run

variable {scheduler before between after : SimScheduler} {place : Fin maxDevices}
  {history : History BoardRequest} {due due' : List QueueEntry} {elapsed elapsed' : Nat}

/-- What unlinking does not change of a timer. -/
theorem foldl_unlink_remembers (unlinked : List TimerId) (timers : TimerTable) (timer : TimerId) :
    ((unlinked.foldl unlink timers).get timer).callback = (timers.get timer).callback ∧
      ((unlinked.foldl unlink timers).get timer).arg = (timers.get timer).arg := by
  rw [get_foldl_unlink]
  exact ⟨rfl, rfl⟩

theorem calledFor_foldl_unlink (unlinked : List TimerId) (timers : TimerTable) (id : DeviceId)
    (now : Ticks) (entry : QueueEntry) :
    calledFor (unlinked.foldl unlink timers) id now entry = calledFor timers id now entry := by
  obtain ⟨callback, arg⟩ := foldl_unlink_remembers unlinked timers entry.timer
  rw [calledFor, callback, arg]
  rfl

def calledOnTime (timers : TimerTable) (id : DeviceId) (entry : QueueEntry) : Event BoardRequest :=
  calledFor timers id entry.expiry entry

theorem calledOnTime_foldl_unlink (unlinked : List TimerId) (timers : TimerTable) (id : DeviceId) :
    calledOnTime (unlinked.foldl unlink timers) id = calledOnTime timers id :=
  funext fun _ => calledFor_foldl_unlink unlinked timers id _ _

/-- The device of a place is steady, and its queue is in order and holds deadlines that lie ahead. -/
structure Waiting (place : Fin maxDevices) (scheduler : SimScheduler) : Prop where
  steady : (scheduler.board.portAt place).Steady
  line : OnItsLine scheduler.board place
  callable : ∀ entry ∈ (scheduler.board.queueAt place).entries,
    (scheduler.timers.get entry.timer).callback.isSome = true
  ascending : (scheduler.board.queueAt place).Ranked fun _ _ => True
  near : ∀ entry ∈ (scheduler.board.queueAt place).entries,
    (scheduler.board.portAt place).Near entry.expiry

/-- While a number of ticks elapsed, exactly what fell due was taken from the front of the queue. -/
structure Elapses (place : Fin maxDevices) (before : SimScheduler) (elapsed : Nat)
    (due : List QueueEntry) (after : SimScheduler) : Prop where
  waiting : Waiting place after
  split : (before.board.queueAt place).entries = due ++ (after.board.queueAt place).entries
  within : ∀ entry ∈ due, (entry.expiry - (before.board.portAt place).tick).toNat ≤ elapsed
  beyond : ∀ entry ∈ (after.board.queueAt place).entries,
    elapsed < (entry.expiry - (before.board.portAt place).tick).toNat
  tick : (after.board.portAt place).tick =
    (before.board.portAt place).tick + UInt32.ofNat elapsed
  timers : after.timers = (due.map (·.timer)).foldl unlink before.timers

namespace Elapses

theorem refl (waiting : Waiting place scheduler) : Elapses place scheduler 0 [] scheduler where
  waiting := waiting
  split := rfl
  within entry among := by cases among
  beyond entry waits := (waiting.near entry waits).ahead
  tick := (UInt32.add_zero _).symm
  timers := rfl

theorem fallsDue (elapses : Elapses place before elapsed due after) :
    (before.board.queueAt place).FallsDue (before.board.portAt place).tick elapsed due
      (after.board.queueAt place) :=
  ⟨elapses.split, elapses.within, elapses.beyond⟩

theorem trans (first : Elapses place before elapsed due between)
    (second : Elapses place between elapsed' due' after) (short : elapsed + elapsed' < 2 ^ 31) :
    Elapses place before (elapsed + elapsed') (due ++ due') after := by
  have later := second.fallsDue
  rw [first.tick] at later
  obtain ⟨split, within, beyond⟩ := first.fallsDue.trans later (by omega)
  refine ⟨second.waiting, split, within, beyond, ?_, ?_⟩
  · rw [second.tick, first.tick, UInt32.ofNat_add, UInt32.add_assoc]
  · rw [second.timers, first.timers, List.map_append, List.foldl_append]

end Elapses

/-! ## Tick by tick -/

def tickOnce (limit depth : Nat) (place : Fin maxDevices) : SimRun Nat := do
  advance 0 place 1
  service (silentHandler limit depth) 0 place

structure Ticked (place : Fin maxDevices) (before next : SimScheduler) : Prop where
  ready : (next.board.portAt place).Ready
  settled : (next.board.portAt place).Settled
  line : OnItsLine next.board place
  tick : (next.board.portAt place).tick = (before.board.portAt place).tick + 1
  width : (next.board.portAt place).device.width = (before.board.portAt place).device.width
  queue : next.board.queueAt place = before.board.queueAt place
  timers : next.timers = before.timers

theorem ticked_of_waiting (waiting : Waiting place scheduler) :
    Ticked place scheduler
      (scheduler.modifyPeripheral place fun timer => ((), timer.advance 1)).2 := by
  let next := (scheduler.modifyPeripheral place fun timer => ((), timer.advance 1)).2
  have port : next.board.portAt place =
      (scheduler.board.portAt place).modifyTimer (·.advance 1) :=
    portAt_modifyPeripheral_self _ _ _
  obtain ⟨ready, settled, tick⟩ := waiting.steady.advance_one
  rw [← port] at ready settled tick
  refine ⟨ready, settled, ?_, tick, ?_, ?_, rfl⟩
  · rw [OnItsLine, port]
    exact waiting.line
  · rw [port]
    rfl
  · rw [Board.queueAt, port]
    rfl

namespace Ticked

variable {next : SimScheduler} {entry : QueueEntry} (ticked : Ticked place before next)
  (waiting : Waiting place before)

include ticked

theorem due_eq : next.due place = ((before.board.queueAt place).drainExpired
    ((before.board.portAt place).tick + 1)).1 := by
  rw [← ticked.queue, ← ticked.tick]
  rfl

include waiting

/-- What falls due is at most one tick away, and what is left further. -/
theorem fallsDue : (before.board.queueAt place).FallsDue (before.board.portAt place).tick 1
    (next.due place) ((before.board.queueAt place).drainExpired
      ((before.board.portAt place).tick + 1)).2 := by
  rw [ticked.due_eq]
  exact waiting.ascending.fallsDue (fun entry waits => (waiting.near entry waits).half)
    (show (1 : Ticks).toNat < 2 ^ 31 by decide)

/-- Whatever falls due waited for this very tick. -/
theorem expiry_of_due (among : entry ∈ next.due place) :
    entry ∈ (before.board.queueAt place).entries ∧
      entry.expiry = (before.board.portAt place).tick + 1 := by
  have within := (ticked.fallsDue waiting).within entry among
  rw [ticked.due_eq] at among
  have waits : entry ∈ (before.board.queueAt place).entries :=
    (List.takeWhile_sublist _).subset among
  exact ⟨waits, Tick.eq_add_one (waiting.near entry waits).ahead within⟩

theorem near_of_left (left : entry ∈ ((before.board.queueAt place).drainExpired
      ((before.board.portAt place).tick + 1)).2.entries) :
    entry ∈ (before.board.queueAt place).entries ∧
      (next.board.portAt place).Near entry.expiry := by
  have waits : entry ∈ (before.board.queueAt place).entries :=
    (List.dropWhile_sublist _).subset left
  have beyond := (ticked.fallsDue waiting).beyond entry left
  exact ⟨waits, (waiting.near entry waits).later ticked.tick ticked.width beyond⟩

/-- Once the line was served, one tick has elapsed. -/
theorem elapses_of_served (served : Served place next after) :
    Elapses place before 1 (next.due place) after := by
  obtain ⟨-, within, beyond⟩ := ticked.fallsDue waiting
  have left := served.queue
  rw [ticked.queue, ticked.tick] at left
  have isLeft {entry : QueueEntry} (waits : entry ∈ (after.board.queueAt place).entries) :=
    ticked.near_of_left waiting (left ▸ waits)
  have timers := served.timers
  rw [ticked.timers] at timers
  refine ⟨⟨served.steady, served.onItsLine ticked.line, fun entry waits => ?_, ?_,
    fun entry waits => ?_⟩, ?_, within, fun entry waits => beyond entry (left ▸ waits),
    served.tick.trans ticked.tick, timers⟩
  · rw [timers, (foldl_unlink_remembers _ _ _).1]
    exact waiting.callable entry (isLeft waits).1
  · rw [left]
    exact waiting.ascending.of_sublist (List.dropWhile_sublist _) fun _ _ _ _ => id
  · obtain ⟨ahead, half, spare⟩ := (isLeft waits).2
    rw [← served.tick] at ahead half spare
    rw [← served.width] at spare
    exact ⟨ahead, half, spare⟩
  · rw [ticked.due_eq, left]
    exact (DeadlineQueue.drainExpired_append _ _).symm

end Ticked

/-- At each tick exactly the timers are called whose deadline it is. -/
theorem tickOnce_on_time (limit depth : Nat) (waiting : Waiting place scheduler)
    (enough : (scheduler.board.queueAt place).length < limit) :
    ∃ due after, Elapses place scheduler 1 due after ∧
      outcome (tickOnce limit depth place) (.single scheduler history) =
        (.ok due.length,
          .single after (history ++ due.map (calledOnTime scheduler.timers place))) := by
  let next := (scheduler.modifyPeripheral place fun timer => ((), timer.advance 1)).2
  have ticked : Ticked place scheduler next := ticked_of_waiting waiting
  have serves := @servicePass_silent next place history limit depth ticked.ready
  rw [ticked.queue, ticked.tick] at serves
  obtain ⟨after, served, -, ran⟩ := serves
    (fun expiry head => by
      rw [DeadlineQueue.nextExpiry_eq, Option.map_eq_some_iff] at head
      obtain ⟨entry, first, rfl⟩ := head
      exact (ticked.near_of_left waiting (List.mem_of_head? first)).2.coming)
    (fun entry among => waiting.callable entry (ticked.expiry_of_due waiting among).1)
    (by
      rw [ticked.due_eq]
      exact Nat.lt_of_le_of_lt (List.takeWhile_sublist _).length_le enough)
    ticked.settled ticked.line
  have moved : outcome (advance 0 place 1) (.single scheduler history) =
      (.ok (), .single next history) := outcome_onBoard_of_eq rfl
  have called : (next.due place).map
        (calledFor next.timers place ((scheduler.board.portAt place).tick + 1)) =
      (next.due place).map (calledOnTime scheduler.timers place) := by
    refine List.map_congr_left fun entry among => ?_
    rw [calledOnTime, (ticked.expiry_of_due waiting among).2]
    rfl
  refine ⟨next.due place, after, ticked.elapses_of_served waiting served, ?_⟩
  rw [tickOnce, outcome_bind_of_ok moved, ← called]
  exact ran (servicePasses - 1)

/-- The first of a number of ticks and the ones after it. -/
theorem outcome_stepTicks_succ {limit depth ticks : Nat} {called : QueueEntry → Event BoardRequest}
    (first : outcome (tickOnce limit depth place) (.single before history) =
      (.ok due.length, .single between (history ++ due.map called)))
    (rest : outcome (stepTicks (silentHandler limit depth) 0 place ticks)
        (.single between (history ++ due.map called)) =
      (.ok due'.length, .single after (history ++ due.map called ++ due'.map called))) :
    outcome (stepTicks (silentHandler limit depth) 0 place (ticks + 1)) (.single before history) =
      (.ok (due ++ due').length, .single after (history ++ (due ++ due').map called)) := by
  have unfolded : stepTicks (silentHandler limit depth) 0 place (ticks + 1) =
      tickOnce limit depth place >>= fun fired =>
        stepTicks (silentHandler limit depth) 0 place ticks >>= fun others =>
          pure (fired + others) :=
    (bind_assoc _ _ _).symm
  have joined : history ++ due.map called ++ due'.map called =
      history ++ (due ++ due').map called := Array.ext' (by simp)
  rw [unfolded, outcome_bind_of_ok first, outcome_bind_of_ok rest, joined, List.length_append]
  rfl

theorem stepTicks_on_time (limit depth : Nat) {ticks : Nat} (short : ticks < 2 ^ 31)
    (waiting : Waiting place scheduler) (enough : (scheduler.board.queueAt place).length < limit) :
    ∃ due after, Elapses place scheduler ticks due after ∧
      outcome (stepTicks (silentHandler limit depth) 0 place ticks) (.single scheduler history) =
        (.ok due.length,
          .single after (history ++ due.map (calledOnTime scheduler.timers place))) := by
  induction ticks generalizing scheduler history with
  | zero => exact ⟨[], scheduler, .refl waiting, by rw [List.map_nil, Array.appendList_nil]; rfl⟩
  | succ ticks ih =>
    obtain ⟨due, between, first, ran⟩ :=
      @tickOnce_on_time scheduler place history limit depth waiting enough
    have enough' : (between.board.queueAt place).length < limit :=
      Nat.lt_of_le_of_lt first.fallsDue.length_le enough
    obtain ⟨due', after, second, ran'⟩ := @ih between
      (history ++ due.map (calledOnTime scheduler.timers place)) (by omega) first.waiting enough'
    have both := first.trans second (by omega)
    rw [Nat.add_comm] at both
    rw [first.timers, calledOnTime_foldl_unlink] at ran'
    exact ⟨due ++ due', after, both, outcome_stepTicks_succ ran ran'⟩

/-- Stepping a device whose line is not active starts with its first tick. -/
theorem step_of_steady {limit depth : Nat} {ticks : Ticks} {fired : Nat}
    {machine : Machine Timer Nvic Clock BoardRequest}
    (steady : (scheduler.board.portAt place).Steady) (line : OnItsLine scheduler.board place)
    (ran : outcome (stepTicks (silentHandler limit depth) 0 place ticks.toNat)
      (.single scheduler history) = (.ok fired, machine)) :
    outcome (step (silentHandler limit depth) 0 place ticks) (.single scheduler history) =
      (.ok fired, machine) := by
  have quiet := @servicePass_quiet scheduler place history (silentHandler limit depth) servicePasses
    steady line
  change outcome (service _ 0 place) _ = _ at quiet
  rw [step, outcome_bind_of_ok quiet, outcome_bind_of_ok ran, outcome_pure, Nat.zero_add]

theorem step_on_time (limit depth : Nat) {ticks : Ticks} (short : ticks.toNat < 2 ^ 31)
    (waiting : Waiting place scheduler) (enough : (scheduler.board.queueAt place).length < limit) :
    ∃ due after, Elapses place scheduler ticks.toNat due after ∧
      outcome (step (silentHandler limit depth) 0 place ticks) (.single scheduler history) =
        (.ok due.length,
          .single after (history ++ due.map (calledOnTime scheduler.timers place))) := by
  obtain ⟨due, after, elapses, ran⟩ := @stepTicks_on_time scheduler place history limit depth _ short
    waiting enough
  exact ⟨due, after, elapses, step_of_steady waiting.steady waiting.line ran⟩

/-! ## The whole run -/

/-- In every run the devices that run are set up for it, and between handlers their compare interrupt
fits their queue. -/
theorem ready_of_runs {device : Device} (runs : InWindows place ⟨scheduler, history, []⟩)
    (registered : scheduler.board.devices.get place = some device) (enabled : device.enabled = true)
    (unmoved : (scheduler.board.port place device).timer.autoAdvance = 0) :
    (scheduler.board.portAt place).Ready ∧ (scheduler.board.portAt place).Settled ∧
      OnItsLine scheduler.board place := by
  have located : Located scheduler.board place place device := ⟨rfl, registered⟩
  have passed := runs.passed
  have sound := passed.sound leavesHardware_serving place
  have settled := passed.minded place
  have silent := passed.overflowSilent leavesHardware_serving place
  change Sound (scheduler.board.portAt place) at sound
  change (scheduler.board.portAt place).device.enabled = true → _ →
    Settled (scheduler.board.portAt place) at settled
  change _ → (scheduler.board.portAt place).timer.channels.overflow.interruptEnabled = false at silent
  rw [OnItsLine]
  rw [located.portAt_eq] at sound settled silent ⊢
  refine ⟨⟨enabled, sound.running enabled, unmoved, sound.readSilent, fun wide => silent fun _ => wide⟩,
    settled enabled List.not_mem_nil, ?_⟩
  exact congrArg DeviceConfig.line (runs.fitsLayout.configs place device registered)

theorem callable_of_runs (runs : InWindows place ⟨scheduler, history, []⟩) {entry : QueueEntry}
    (waits : entry ∈ (scheduler.board.queueAt place).entries) :
    (scheduler.timers.get entry.timer).callback.isSome = true :=
  (runs.passed.coherent.queued place entry waits).callable

theorem steady_of_runs {device : Device} (runs : InWindows place ⟨scheduler, history, []⟩)
    (registered : scheduler.board.devices.get place = some device) (enabled : device.enabled = true)
    (unmoved : (scheduler.board.port place device).timer.autoAdvance = 0)
    (inactive : (scheduler.board.port place device).lineActive = false) :
    (scheduler.board.portAt place).Steady ∧ OnItsLine scheduler.board place := by
  have located : Located scheduler.board place place device := ⟨rfl, registered⟩
  obtain ⟨ready, settled, line⟩ := ready_of_runs runs registered enabled unmoved
  refine ⟨⟨ready, settled, ?_⟩, line⟩
  rw [located.portAt_eq]
  exact inactive

theorem ascending_of_runs (runs : InWindows place ⟨scheduler, history, []⟩) :
    (scheduler.board.queueAt place).Ranked fun _ _ => True :=
  runs.lined.ranked.of_sublist (List.Sublist.refl _) fun _ _ _ _ _ => trivial

theorem waiting_of_runs {device : Device} (runs : InWindows place ⟨scheduler, history, []⟩)
    (registered : scheduler.board.devices.get place = some device) (enabled : device.enabled = true)
    (unmoved : (scheduler.board.port place device).timer.autoAdvance = 0)
    (inactive : (scheduler.board.port place device).lineActive = false)
    (near : ∀ entry ∈ device.queue.entries,
      (scheduler.board.port place device).Near entry.expiry) : Waiting place scheduler := by
  have located : Located scheduler.board place place device := ⟨rfl, registered⟩
  obtain ⟨steady, line⟩ := steady_of_runs runs registered enabled unmoved inactive
  refine ⟨steady, line, fun entry waits => callable_of_runs runs waits, ascending_of_runs runs, ?_⟩
  rw [located.queueAt_eq, located.portAt_eq]
  exact near

/-- A device runs with its line quiet, captures do not move its counter, and every deadline lies ahead by
less than half a turn, and by an epoch less if the counter is narrow. Then stepping the counter calls the
callbacks of exactly those timers whose deadlines are reached, each once and when the tick that the
handler reads is the deadline, in the order of deadlines, with equal ones in the order of their starts.
The other timers wait on in the same order. The callbacks make no calls while this goes on. Whatever they
did before, timers were queued only with all deadlines of the device within half a turn. -/
theorem fired_on_time (runs : InWindows place ⟨scheduler, history, []⟩) {device : Device}
    (registered : scheduler.board.devices.get place = some device) (enabled : device.enabled = true)
    (unmoved : (scheduler.board.port place device).timer.autoAdvance = 0)
    (inactive : (scheduler.board.port place device).lineActive = false)
    (near : ∀ entry ∈ device.queue.entries, (scheduler.board.port place device).Near entry.expiry)
    {bounds : Bounds} (passes : device.queue.length < bounds.dispatch) (nests : 0 < bounds.depth)
    {ticks : Ticks} (short : ticks.toNat < 2 ^ 31) :
    let now := (scheduler.board.port place device).tick
    let isDue (entry : QueueEntry) : Bool := (entry.expiry - now).toNat ≤ ticks.toNat
    let due := device.queue.entries.filter isDue
    let call : Call BoardRequest := ⟨0, .platform (.step place ticks)⟩
    let reply : Reply := .number due.length
    ∃ after, outcome (execute silentClient bounds (.call call)) (.single scheduler history) =
        (.ok reply, .single after ((history ++ due.map (calledOnTime scheduler.timers place)).push
          (.answered none call reply))) ∧
      (∀ entry ∈ due, (scheduler.timers.get entry.timer).callback.isSome = true) ∧
      (due.map (·.timer)).Nodup ∧
      due.Pairwise (fun first second => (first.expiry - now).toNat ≤ (second.expiry - now).toNat ∧
        (first.expiry = second.expiry → StartedBefore history first.timer second.timer)) ∧
      (after.board.queueAt place).entries =
        (device.queue.entries.filter fun entry => !isDue entry) ∧
      (after.board.portAt place).tick = now + ticks ∧
      (after.board.portAt place).device.enabled = true ∧
      (after.board.portAt place).lineActive = false := by
  intro now isDue due call reply
  have located : Located scheduler.board place place device := ⟨rfl, registered⟩
  have waiting := waiting_of_runs runs registered enabled unmoved inactive near
  obtain ⟨dispatch, depth⟩ := bounds
  obtain ⟨depth, rfl⟩ := Nat.exists_eq_add_one_of_ne_zero (Nat.ne_of_gt nests)
  rw [← located.queueAt_eq] at passes
  obtain ⟨due', after, elapses, ran⟩ := @step_on_time scheduler place history dispatch depth ticks short
    waiting passes
  obtain ⟨taken, left⟩ := elapses.fallsDue.filters
  rw [located.queueAt_eq, located.portAt_eq] at taken left
  have same : due = due' := taken
  subst same
  have fewer : due.Sublist device.queue.entries := List.filter_sublist
  have coherent := (runs.passed).coherent
  have ranked := runs.lined.ranked
  have distinct := coherent.distinct place
  rw [located.queueAt_eq] at ranked distinct
  refine ⟨after, execute_of_served rfl ran, fun entry among => ?_, ?_, ?_, left.symm, ?_, ?_, ?_⟩
  · refine waiting.callable entry ?_
    rw [located.queueAt_eq]
    exact fewer.subset among
  · exact distinct.sublist (fewer.map _)
  · refine (List.Pairwise.sublist fewer ranked).imp_of_mem fun {first second} among among' ahead => ?_
    refine ⟨?_, ahead.ties⟩
    have half := (near first (fewer.subset among)).half
    have half' := (near second (fewer.subset among')).half
    have ascending := ahead.ascending
    rw [← Bool.not_eq_true, Tick.before_iff_of_window half' half, Nat.not_lt] at ascending
    exact ascending
  · rw [elapses.tick, located.portAt_eq, UInt32.ofNat_toNat]
  · exact elapses.waiting.steady.ready.enabled
  · exact elapses.waiting.steady.inactive

/-- The second device with its 16-bit counter six ticks before an overflow, and two timers started on it
ten ticks ahead. -/
def beforeOverflow : SimScheduler :=
  let running := (nrf51AtRest.init 1 1000000).2
  let first := (running.attach 1 0 0 7).2
  let second := (first.attach 1 1 0 8).2
  let moved := (SimScheduler.modifyPeripheral secondPlace (TimerAccess.run · (.advance 65530))
    second).2
  let earlier := (moved.start 0 10).2
  (earlier.start 1 10).2

theorem inWindows_beforeOverflow :
    ∃ history, InWindows secondPlace ⟨beforeOverflow, history, []⟩ := by
  let running := (nrf51AtRest.init 1 1000000).2
  let first := (running.attach 1 0 0 7).2
  let second := (first.attach 1 1 0 8).2
  let moved := (SimScheduler.modifyPeripheral secondPlace (TimerAccess.run · (.advance 65530))
    second).2
  let earlier := (moved.start 0 10).2
  have init : Answers nrf51AtRest (.init 1 1000000) (.ofUnit (.ok ())) running :=
    .init (Prod.ext rfl rfl)
  have attachFirst : Answers running (.attach 1 0 0 7) _ first := .attach (Prod.eta _).symm
  have attachSecond : Answers first (.attach 1 1 0 8) _ second := .attach (Prod.eta _).symm
  have move : Answers second (.platform (.access 1 (.advance 65530))) (.reading .nothing) moved :=
    .access secondPlace (Prod.ext rfl rfl)
  have startFirst : Answers moved (.start 0 10) _ earlier := .start (Prod.eta _).symm
  have startSecond : Answers earlier (.start 1 10) _ beforeOverflow := .start (Prod.eta _).symm
  have apart : LinesApart DeviceConfig.nrf51 := ⟨by decide, by decide⟩
  have runs : InWindows secondPlace ⟨nrf51AtRest, #[], []⟩ :=
    .start DeviceConfig.nrf51 [0, 1, 2] {} apart
  have runs := runs.answer init rfl fun grew => absurd grew (by decide +kernel)
  have runs := runs.answer attachFirst rfl fun grew => absurd grew (by decide +kernel)
  have runs := runs.answer attachSecond rfl fun grew => absurd grew (by decide +kernel)
  have runs := runs.answer move rfl fun grew => absurd grew (by decide +kernel)
  have runs := runs.answer startFirst rfl fun _ => ⟨0, by decide +kernel⟩
  exact ⟨_, runs.answer startSecond rfl fun _ => ⟨0, by decide +kernel⟩⟩

/-- On a 16-bit counter six ticks before its overflow, two timers are started ten ticks ahead, and are
called at that tick, in the order of their starts. -/
theorem fired_on_time_after_overflow :
    let running := (nrf51AtRest.init 1 1000000).2
    let first := (running.attach 1 0 0 7).2
    let second := (first.attach 1 1 0 8).2
    let moved := (SimScheduler.modifyPeripheral secondPlace (TimerAccess.run · (.advance 65530))
      second).2
    let earlier := (moved.start 0 10).2
    let later := (earlier.start 1 10).2
    let call : Call BoardRequest := ⟨0, .platform (.step 1 12)⟩
    let called : List (Event BoardRequest) :=
      [.fired ⟨0, 1, 0, 65540, 65540, 0, 7⟩, .fired ⟨0, 1, 1, 65540, 65540, 0, 8⟩]
    ∃ history after, InWindows secondPlace ⟨later, history, []⟩ ∧
      outcome (execute silentClient ⟨3, 1⟩ (.call call)) (.single later history) =
        (.ok (.number 2), .single after ((history ++ called).push
          (.answered none call (.number 2)))) ∧
      (after.board.portAt secondPlace).tick = 65542 := by
  intro running first second moved earlier later call called
  obtain ⟨history, runs⟩ := inWindows_beforeOverflow
  change InWindows secondPlace ⟨later, history, []⟩ at runs
  let device := (later.board.portAt secondPlace).device
  have registered : later.board.devices.get secondPlace = some device := by decide +kernel
  have enabled : device.enabled = true := by decide +kernel
  have wide : device.width.states = 2 ^ 16 := by decide +kernel
  have unmoved : (later.board.port secondPlace device).timer.autoAdvance = 0 := by decide +kernel
  have inactive : (later.board.port secondPlace device).lineActive = false := by decide +kernel
  have tick : (later.board.port secondPlace device).tick = 65530 := by decide +kernel
  have queue : device.queue.entries = [⟨0, 65540⟩, ⟨1, 65540⟩] := by decide +kernel
  have calls : [calledOnTime later.timers 1 ⟨0, 65540⟩, calledOnTime later.timers 1 ⟨1, 65540⟩] =
      called := by decide +kernel
  clear_value device later
  have near : ∀ entry ∈ device.queue.entries,
      (later.board.port secondPlace device).Near entry.expiry := by
    intro entry waits
    have same : entry.expiry = 65540 := by
      rw [queue] at waits
      rcases List.mem_pair.1 waits with rfl | rfl <;> rfl
    have states : (later.board.port secondPlace device).device.width.states = 2 ^ 16 := wide
    constructor
    · rw [tick, same]
      decide
    · rw [tick, same]
      decide
    · intro _
      rw [tick, same, states]
      decide
  have length : device.queue.length < 3 := by
    rw [DeadlineQueue.length, queue]
    decide
  obtain ⟨after, ran, -, -, -, -, elapsed, -⟩ := @fired_on_time later secondPlace _ runs device
    registered enabled unmoved inactive near ⟨3, 1⟩ length Nat.one_pos 12 (by decide)
  rw [tick] at ran elapsed
  rw [queue] at ran
  refine ⟨_, after, runs, ?_, elapsed⟩
  rw [← calls]
  exact ran

end Simulated

end DeadlineTimers
