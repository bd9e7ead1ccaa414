import DeadlineTimers.Proofs.Accounts

/-!
# Stopped devices

A stopped device counts nothing, and no interrupt comes from it, unless it was stopped from within its
own handler. The handler asks only on entry whether its device runs. A callback that stops the device
comes back to a handler that goes on as before: it takes what is due by the tick at which the counter
stands, and arms the compare for the rest.
-/

namespace DeadlineTimers

namespace Port

open Simulated

variable {port port' : SimPort}

/-- The counter does not move, and overflows raise no interrupt. -/
structure AtRest (port : SimPort) : Prop where
  still : port.timer.running = false
  overflowSilent : port.timer.channels.overflow.interruptEnabled = false

theorem AtRest.event (atRest : port.AtRest) (event : TickEvent port port') : port'.AtRest := by
  refine ⟨?_, (@TickEvent.interruptEnabled_eq _ _ event .overflow Channel.noConfusion).trans
    atRest.overflowSilent⟩
  have still := atRest.still
  cases event with
  | advance ticks => exact (port.timer.advance_running ticks).trans still
  | read line =>
    have once := port.timer.captured_running.trans still
    rcases read_cases port line with ⟨-, taken⟩ | ⟨-, -, folded⟩
    · rw [taken]
      exact once
    · rw [folded]
      exact port.timer.captured.captured_running.trans once
  | fold =>
    unfold Port.consumeOverflow
    dsimp only
    split
    · exact still
    · exact still
  | aside aside =>
    rw [aside.timer]
    exact still

theorem AtRest.events (atRest : port.AtRest) (events : TickEvents port port') : port'.AtRest := by
  induction events with
  | refl => exact atRest
  | tail _ last ih => exact ih.event last

/-- Using a stopped device does not turn its compare interrupt on. -/
theorem PortUse.silent (use : PortUse port port') (stopped : port.device.enabled = false)
    (silent : port.timer.channels.interrupt.interruptEnabled = false) :
    port'.timer.channels.interrupt.interruptEnabled = false := by
  cases use with
  | elsewhere raises => exact silent
  | @enqueue timer expiry isHead queue inserted =>
    rw [enqueued, stopped, Bool.and_false, if_neg Bool.false_ne_true]
    exact silent
  | dequeue timer =>
    rw [dequeued, stopped, Bool.and_false, if_neg Bool.false_ne_true]
    exact silent
  | read => exact (read_interrupt port _).2.trans silent
  | advance ticks => exact (port.timer.advance_interruptEnabled ticks .interrupt).trans silent
  | setAutoAdvance ticks => exact silent

theorem silent_of_uses (uses : Relation.ReflTransGen PortUse port port')
    (stopped : port.device.enabled = false)
    (silent : port.timer.channels.interrupt.interruptEnabled = false) :
    port'.timer.channels.interrupt.interruptEnabled = false := by
  have both : port'.device.enabled = false ∧
      port'.timer.channels.interrupt.interruptEnabled = false := by
    induction uses with
    | refl => exact ⟨stopped, silent⟩
    | tail _ use ih =>
      exact ⟨(enabled_eq_of_ticks use.ticks).trans ih.1, use.silent ih.1 ih.2⟩
  exact both.2

theorem acknowledge_silent (silent : port.timer.channels.interrupt.interruptEnabled = false) :
    port.acknowledge.2.timer.channels.interrupt.interruptEnabled = false := by
  unfold Port.acknowledge consumeOverflow
  dsimp only
  split
  · split
    · exact silent
    · rfl
  · split
    · exact silent
    · rfl

/-- Arming for what is queued turns the compare interrupt on for a head that the counter reaches within
this epoch, whether the device runs or not. -/
theorem rearm_interruptEnabled_iff (port : SimPort) :
    port.rearm.2.timer.channels.interrupt.interruptEnabled = true ↔
      ∃ expiry, port.device.queue.nextExpiry = some expiry ∧
        (port.device.width.isNarrow = true →
          expiry &&& port.device.width.epochMask = port.device.tally) := by
  unfold Port.rearm
  split
  · next expiry head =>
    rw [head]
    have written := (read_interrupt (port.disarm.written expiry) port.device.config.line).2
    change (port.arm port.device.config.line expiry).2.timer.channels.interrupt.interruptEnabled =
      true ↔ _
    rw [arm_eq]
    split
    · next otherEpoch =>
      obtain ⟨narrow, other⟩ := Bool.and_eq_true_iff.1 otherEpoch
      have off : ¬∃ expiry', some expiry = some expiry' ∧ (port.device.width.isNarrow = true →
          expiry' &&& port.device.width.epochMask = port.device.tally) := by
        rintro ⟨expiry', same, epoch⟩
        obtain rfl := Option.some_inj.1 same
        exact bne_iff_ne.1 other (epoch narrow)
      rw [iff_false_right off]
      split
      · exact Bool.false_ne_true
      · exact Bool.false_ne_true
    · next sameEpoch =>
      have epoch : port.device.width.isNarrow = true →
          expiry &&& port.device.width.epochMask = port.device.tally := by
        intro narrow
        rw [narrow, Bool.true_and, bne_iff_ne, not_not] at sameEpoch
        exact sameEpoch
      rw [iff_true_right ⟨expiry, rfl, epoch⟩, program_eq]
      split
      · exact written
      · exact written
  · next empty =>
    rw [empty]
    constructor
    · exact fun on => Bool.noConfusion on
    · rintro ⟨_, none, -⟩
      cases none

end Port

end DeadlineTimers

namespace DeadlineTimers.Simulated

open Port Run

variable {before after : SimScheduler} {request : Request BoardRequest} {reply : Reply}
  {allowed : SimBoard → Request BoardRequest → Prop} {moment : Moment} {place : Fin maxDevices}

/-- What the answer of a call tells of a device is what happened to it. -/
theorem Answers.tells (answers : Answers before request reply after)
    (leaves : schedules request = true) (caller : Option Nat) (place : Fin maxDevices) :
    (told? place (.answered caller ⟨0, request⟩ reply) = none ∧
        Relation.ReflTransGen PortUse (before.board.portAt place) (after.board.portAt place)) ∨
      (told? place (.answered caller ⟨0, request⟩ reply) = some true ∧
        (after.board.portAt place).device.enabled = true) ∨
      (told? place (.answered caller ⟨0, request⟩ reply) = some false ∧
        after.board.portAt place = (before.board.portAt place).shutDown) := by
  cases lasts : startsOrStops request with
  | false =>
    refine .inl ⟨?_, (answers.uses leaves lasts).ports place⟩
    cases answers with
    | init => cases lasts
    | deinit => cases lasts
    | _ => rfl
  | true =>
    cases answers with
    | @init _ id _ _ did =>
      rcases init_cases did with ⟨error, rfl, rfl⟩ |
        ⟨found, device, prescaler, installed, controller, located, stopped, rfl, -, install,
          enable, -, board⟩
      · exact .inl ⟨rfl, .refl⟩
      · rw [board]
        by_cases here : place = found
        · subst here
          refine .inr (.inl ⟨if_pos located.id.symm, ?_⟩)
          rw [portAt_putPort_self]
          exact enabled_eq_of_ticks (ticks_rearm _)
        · refine .inl ⟨if_neg fun same => here (Fin.ext (located.id.trans same).symm), ?_⟩
          rw [portAt_putPort_of_ne _ _ here]
          refine .single (.elsewhere (before.board.portAt place) ?_)
          exact ((Nvic.raises_install install).trans (Nvic.raises_enable enable).1).trans
            (raises_rearm ((before.board.port found device).launched prescaler controller))
    | @deinit _ id _ did =>
      rcases deinit_cases did with ⟨error, rfl, rfl⟩ | ⟨found, device, located, rfl, -, board⟩
      · exact .inl ⟨rfl, .refl⟩
      · rw [board]
        by_cases here : place = found
        · subst here
          refine .inr (.inr ⟨if_pos located.id.symm, ?_⟩)
          rw [portAt_putPort_self, located.portAt_eq]
        · refine .inl ⟨if_neg fun same => here (Fin.ext (located.id.trans same).symm), ?_⟩
          rw [portAt_putPort_of_ne _ _ here]
          exact .single (.elsewhere (before.board.portAt place) (Nvic.Raises.refl _))
    | _ => cases lasts

/-- What is known of a device from the history, and of its compare interrupt if it does not run. -/
structure Standing (moment : Moment) (place : Fin maxDevices) : Prop where
  runs : (moment.scheduler.board.portAt place).device.enabled = true ↔
    RunsAt moment.history place moment.history.size
  rests : (moment.scheduler.board.portAt place).device.enabled = false →
    ((moment.scheduler.board.portAt place).timer.channels.interrupt.interruptEnabled = false ∧
      place.val ∉ moment.attended) ∨
    StoppedItself moment.history place moment.history.size

theorem Standing.answer {caller : Option Nat} {history : History BoardRequest}
    {handlers : List Handling} (standing : Standing ⟨before, history, handlers⟩ place)
    (fit : HandlersFit history handlers) (calls : Calls handlers caller)
    (answers : Answers before request reply after) (leaves : schedules request = true) :
    Standing ⟨after, history.push (.answered caller ⟨0, request⟩ reply), handlers⟩ place := by
  rcases answers.tells leaves caller place with ⟨silent, uses⟩ | ⟨tells, enabled⟩ | ⟨tells, stopped⟩
  · have same := enabled_eq_of_ticks (ticks_of_uses uses)
    constructor
    · rw [Array.size_push, runsAt_push_of_silent silent, ← standing.runs, same]
    · intro off
      rw [same] at off
      rw [Array.size_push]
      refine (standing.rests off).imp (fun rests => ?_) fun itself => itself.extend silent
      exact ⟨silent_of_uses uses off rests.1, rests.2⟩
  · constructor
    · rw [Array.size_push, runsAt_push_of_tells tells]
      exact iff_of_true enabled rfl
    · intro off
      rw [enabled] at off
      cases off
  · constructor
    · rw [Array.size_push, runsAt_push_of_tells tells, stopped]
      rfl
    · intro _
      rw [stopped, Array.size_push]
      by_cases attended : place.val ∈ handlers.map (·.device)
      · obtain ⟨handling, among, device⟩ := List.mem_map.1 attended
        obtain ⟨-, called, -, running, -⟩ := fit.calling calls among
        have within := fit.called handling among called running
        rw [device] at within
        exact .inr ⟨history.size, .of_tells tells, called, within.push le_rfl⟩
      · exact .inl ⟨rfl, attended⟩

theorem Standing.of_ticks {history : History BoardRequest} {handlers handlers' : List Handling}
    (standing : Standing ⟨before, history, handlers⟩ place)
    (ticks : TickEvents (before.board.portAt place) (after.board.portAt place))
    (rests : (before.board.portAt place).device.enabled = false →
      (before.board.portAt place).timer.channels.interrupt.interruptEnabled = false →
      place.val ∉ handlers.map (·.device) →
      (after.board.portAt place).timer.channels.interrupt.interruptEnabled = false ∧
        place.val ∉ handlers'.map (·.device)) :
    Standing ⟨after, history, handlers'⟩ place := by
  have same := enabled_eq_of_ticks ticks
  constructor
  · rw [← standing.runs, same]
  · intro off
    rw [same] at off
    exact (standing.rests off).imp_left fun resting => rests off resting.1 resting.2

theorem Standing.note {history : History BoardRequest} {handlers : List Handling}
    {event : Event BoardRequest} (standing : Standing ⟨before, history, handlers⟩ place)
    (silent : told? place event = none) : Standing ⟨before, history.push event, handlers⟩ place where
  runs := by
    rw [Array.size_push, runsAt_push_of_silent silent]
    exact standing.runs
  rests off := by
    rw [Array.size_push]
    exact (standing.rests off).imp_right fun itself => itself.extend silent

/-! ## Moves -/

theorem told_of_runsHandlers {caller : Option Nat} {call : Call BoardRequest}
    (runs : runsHandlers call.request = true) (reply : Reply) (id : DeviceId) :
    told? id (.answered caller call reply) = none := by
  unfold told?
  split
  · next told =>
    obtain ⟨-, rfl, -⟩ := Event.answered.inj told
    cases runs
  · next told =>
    obtain ⟨-, rfl, -⟩ := Event.answered.inj told
    cases runs
  · rfl

theorem Attends.silent {id : DeviceId} {before after : SimBoard} (attends : Attends id before after)
    (another : place.val ≠ id) (stopped : (before.portAt place).device.enabled = false)
    (silent : (before.portAt place).timer.channels.interrupt.interruptEnabled = false) :
    (after.portAt place).timer.channels.interrupt.interruptEnabled = false :=
  (attends.others place another).silent stopped silent

/-- A handler that finds its device stopped leaves the compare interrupt off. -/
theorem silent_of_dismiss {id : DeviceId} {runs : Bool} (did : before.acknowledge id = (runs, after))
    (stopped : (before.board.portAt place).device.enabled = false)
    (silent : (before.board.portAt place).timer.channels.interrupt.interruptEnabled = false) :
    (after.board.portAt place).timer.channels.interrupt.interruptEnabled = false := by
  by_cases here : place.val = id
  · rcases acknowledge_cases did with ⟨-, -, rfl⟩ | ⟨found, device, located, -, -, board⟩
    · exact silent
    · obtain rfl : found = place := Fin.ext (located.id.trans here.symm)
      rw [board, portAt_putPort_self]
      rw [located.portAt_eq] at silent
      exact acknowledge_silent silent
  · exact (Attends.acknowledge did).silent here stopped silent

theorem Standing.move {allowed : Request BoardRequest → Prop} {moment moment' : Moment}
    (standing : Standing moment place) (fit : HandlersFit moment.history moment.handlers)
    (leaves : ∀ request, allowed request → schedules request = true)
    (move : Move allowed moment moment') : Standing moment' place := by
  cases move with
  | answer calls permitted answers => exact standing.answer fit calls answers (leaves _ permitted)
  | report call reply calls permitted runs =>
    exact standing.note (told_of_runsHandlers runs reply place)
  | advance calls permitted serves advances =>
    have uses := (Uses.modifyPeripheral advances (.advance _ _)).ports place
    exact standing.of_ticks (ticks_of_uses uses) fun off silent unattended =>
      ⟨silent_of_uses uses off silent, unattended⟩
  | quiet calls permitted serves inactive =>
    refine standing.of_ticks (.single (.aside ((takeActive_aside inactive).2 place)))
      fun off silent unattended => ⟨?_, unattended⟩
    rw [takeActive_timer inactive place]
    exact silent
  | @enter before between after history handlers caller id calls summons acknowledges =>
    have attends := Attends.acknowledge acknowledges
    have called := summons.ticks.ports place
    refine standing.of_ticks (called.trans (attends.ticks place)) fun off silent unattended => ?_
    have stopped := (enabled_eq_of_ticks called).trans off
    have another : place.val ≠ id := by
      intro here
      have runs := acknowledge_runs acknowledges here
      rw [stopped] at runs
      cases runs
    rw [← summons.timer place] at silent
    exact ⟨attends.silent another stopped silent, List.not_mem_cons_of_ne_of_not_mem another unattended⟩
  | dismiss calls summons acknowledges =>
    have attends := Attends.acknowledge acknowledges
    have called := summons.ticks.ports place
    refine standing.of_ticks (called.trans (attends.ticks place)) fun off silent unattended =>
      ⟨?_, unattended⟩
    rw [← summons.timer place] at silent
    exact silent_of_dismiss acknowledges ((enabled_eq_of_ticks called).trans off) silent
  | skip takes =>
    have attends := Attends.takeDue takes
    exact standing.of_ticks (attends.ticks place) fun off silent unattended =>
      ⟨attends.silent (List.ne_of_not_mem_cons unattended) off silent, unattended⟩
  | @fire before after history handlers id entry now callback arg takes =>
    have attends := Attends.takeDue takes
    have taken : Standing ⟨after, history, ⟨id, some history.size⟩ :: handlers⟩ place :=
      standing.of_ticks (attends.ticks place) fun off silent unattended =>
        ⟨attends.silent (List.ne_of_not_mem_cons unattended) off silent, unattended⟩
    exact taken.note rfl
  | resume => exact standing.of_ticks .refl fun off silent unattended => ⟨silent, unattended⟩
  | @leave before after history handlers id fired takes =>
    have taken := Attends.takeDue takes
    have finished := Attends.finish after id fired
    refine standing.of_ticks ((taken.ticks place).trans (finished.ticks place))
      fun off silent unattended => ?_
    have another := List.ne_of_not_mem_cons unattended
    have stopped := (enabled_eq_of_ticks (taken.ticks place)).trans off
    exact ⟨finished.silent another stopped (taken.silent another off silent),
      List.not_mem_of_not_mem_cons unattended⟩

theorem Passed.standing (passed : Passed allowed moment) (leaves : LeavesHardware allowed)
    (place : Fin maxDevices) : Standing moment place := by
  induction passed with
  | start layout ids logger =>
    constructor
    · rw [portAt_boardOfLayout]
      refine iff_of_false Bool.false_ne_true ?_
      rintro ⟨index, told⟩
      exact Nat.not_lt_zero _ told.before
    · intro _
      rw [portAt_boardOfLayout]
      exact .inl ⟨rfl, List.not_mem_nil⟩
  | progress passed progress ih =>
    cases progress with
    | @register scheduler board history changed timer config registers offered =>
      by_cases same : place = changed
      · subst same
        have replaced := portAt_registers_self registers
        constructor
        · rw [← ih.runs]
          change (board.portAt place).device.enabled = true ↔ _
          rw [replaced, registers.stopped]
          rfl
        · intro _
          refine (ih.rests registers.stopped).imp_left fun rests => ⟨?_, List.not_mem_nil⟩
          change (board.portAt place).timer.channels.interrupt.interruptEnabled = false
          rw [replaced]
          rcases offered with rfl | idle
          · exact rests.1
          · exact idle.silent .interrupt
      · have kept := portAt_registers_of_ne registers same
        constructor
        · rw [← ih.runs]
          change (board.portAt place).device.enabled = true ↔ _
          rw [kept]
        · intro off
          change (board.portAt place).device.enabled = false at off
          rw [kept] at off
          refine (ih.rests off).imp_left fun rests => ⟨?_, List.not_mem_nil⟩
          change (board.portAt place).timer.channels.interrupt.interruptEnabled = false
          rw [kept]
          exact rests.1
    | @move board _ _ wiring move => exact ih.move passed.handlersFit (leaves board) move

theorem Passed.atRest (passed : Passed allowed moment) (leaves : LeavesHardware allowed)
    (place : Fin maxDevices)
    (stopped : (moment.scheduler.board.portAt place).device.enabled = false) :
    AtRest (moment.scheduler.board.portAt place) := by
  let rests (port : SimPort) : Prop := port.device.enabled = false → port.AtRest
  have every : rests (moment.scheduler.board.portAt place) := by
    refine passed.atEveryPort leaves (fun config _ => ⟨rfl, rfl⟩) ?_ ?_ place
    · intro config timer port stopped offered rests _
      rcases offered with rfl | idle
      · obtain ⟨still, silent⟩ := rests stopped
        exact ⟨still, silent⟩
      · exact ⟨idle.still, idle.silent .overflow⟩
    · intro port port' move rests stopped
      cases move with
      | ticks ticks =>
        rw [enabled_eq_of_ticks ticks] at stopped
        exact (rests stopped).events ticks
      | launch =>
        rw [enabled_eq_of_ticks (ticks_rearm _)] at stopped
        cases stopped
      | shutDown => exact ⟨rfl, rfl⟩
  exact every stopped

/-! ## Callbacks of stopped devices -/

/-- Every callback was called for a device that ran, or that had been stopped from within its own
handler. -/
theorem Passed.fired {moment : Moment} (passed : Passed allowed moment)
    (leaves : LeavesHardware allowed) {index : Nat} {firing : Firing}
    (found : moment.history[index]? = some (.fired firing)) :
    RunsAt moment.history firing.device index ∨ StoppedItself moment.history firing.device index := by
  induction passed generalizing index firing with
  | start layout ids logger => cases found
  | progress passed progress ih =>
    cases progress with
    | register registers offered => exact ih found
    | move wiring move =>
      cases move with
      | answer =>
        rcases getElem?_push_cases found with ⟨earlier, found⟩ | ⟨-, fired⟩
        · exact (ih found).imp (·.push earlier.le) (·.push earlier.le)
        · cases fired
      | report =>
        rcases getElem?_push_cases found with ⟨earlier, found⟩ | ⟨-, fired⟩
        · exact (ih found).imp (·.push earlier.le) (·.push earlier.le)
        · cases fired
      | @fire before after history handlers id entry now callback arg takes =>
        rcases getElem?_push_cases found with ⟨earlier, found⟩ | ⟨rfl, fired⟩
        · exact (ih found).imp (·.push earlier.le) (·.push earlier.le)
        · obtain rfl := Event.fired.inj fired
          rcases pops_of_takeDue takes with ⟨none, -⟩ | ⟨place, entry, now, rfl, -⟩
          · cases none
          · have standing := passed.standing leaves place
            cases runs : (before.board.portAt place).device.enabled with
            | true => exact .inl ((standing.runs.1 runs).push le_rfl)
            | false =>
              rcases standing.rests runs with ⟨-, unattended⟩ | itself
              · exact absurd List.mem_cons_self unattended
              · exact .inr (itself.push le_rfl)
      | _ => exact ih found

/-! ## While a device rests -/

/-- A run during which a device is not started. -/
def Resting (allowed : SimBoard → Request BoardRequest → Prop) (place : Fin maxDevices) :
    Moment → Moment → Prop :=
  Relation.ReflTransGen fun before after =>
    Progress allowed before after ∧ (after.scheduler.board.portAt place).device.enabled = false

def UnlinkedSince (history : History BoardRequest) (bound : Nat) (timer : TimerId) : Prop :=
  ∃ index caller request, bound ≤ index ∧
    history[index]? = some (.answered caller ⟨0, request⟩ .done) ∧ unlinks? request = some timer

theorem UnlinkedSince.push {history : History BoardRequest} {event : Event BoardRequest}
    {bound : Nat} {timer : TimerId} (unlinked : UnlinkedSince history bound timer) :
    UnlinkedSince (history.push event) bound timer := by
  obtain ⟨index, caller, request, after, found, unlinks⟩ := unlinked
  refine ⟨index, caller, request, after, ?_, unlinks⟩
  rw [getElem?_push_of_lt (Array.getElem?_eq_some_iff.1 found).1]
  exact found

/-- Since some moment the handler of a device was not running, so no callback was called for it, and
timers were taken out of its queue by nothing but calls to that end. -/
structure Held (place : Fin maxDevices) (start moment : Moment) : Prop where
  grown : start.history.size ≤ moment.history.size
  unattended : place.val ∉ moment.attended
  unfired : ∀ index firing, start.history.size ≤ index →
    moment.history[index]? = some (.fired firing) → firing.device ≠ place.val
  waits : ∀ entry ∈ (start.scheduler.board.queueAt place).entries,
    entry ∈ (moment.scheduler.board.queueAt place).entries ∨
      UnlinkedSince moment.history start.history.size entry.timer

namespace Held

variable {start : Moment} {history : History BoardRequest} {event : Event BoardRequest}
  {handlers handlers' : List Handling}

theorem of_same (held : Held place start ⟨before, history, handlers⟩)
    (queue : after.board.queueAt place = before.board.queueAt place)
    (unattended : place.val ∉ handlers'.map (·.device)) :
    Held place start ⟨after, history, handlers'⟩ where
  grown := held.grown
  unattended := unattended
  unfired := held.unfired
  waits entry queued := by
    refine (held.waits entry queued).imp_left fun waits => ?_
    change entry ∈ (after.board.queueAt place).entries
    rw [queue]
    exact waits

theorem note (held : Held place start ⟨before, history, handlers⟩)
    (another : ∀ firing, event = .fired firing → firing.device ≠ place.val) :
    Held place start ⟨before, history.push event, handlers⟩ where
  grown := by
    have grown : start.history.size ≤ history.size := held.grown
    rw [Array.size_push]
    omega
  unattended := held.unattended
  unfired index firing after found := by
    rcases getElem?_push_cases found with ⟨-, found⟩ | ⟨-, fired⟩
    · exact held.unfired index firing after found
    · exact another firing fired.symm
  waits entry queued := (held.waits entry queued).imp_right .push

theorem answer {caller : Option Nat} (held : Held place start ⟨before, history, handlers⟩)
    (books : Books before request reply after) :
    Held place start ⟨after, history.push (.answered caller ⟨0, request⟩ reply), handlers⟩ := by
  have noted : Held place start ⟨before, history.push (.answered caller ⟨0, request⟩ reply), handlers⟩ :=
    held.note fun _ fired => by cases fired
  refine ⟨noted.grown, held.unattended, noted.unfired, fun entry queued => ?_⟩
  rcases held.waits entry queued with waits | unlinked
  · rcases books.waits waits with waits | ⟨unlinks, rfl⟩
    · exact .inl waits
    · exact .inr ⟨history.size, caller, request, held.grown, Array.getElem?_push_size, unlinks⟩
  · exact .inr unlinked.push

theorem takeDue {id : DeviceId} {due : Option Scheduler.DueTimer}
    (held : Held place start ⟨before, history, ⟨id, none⟩ :: handlers⟩)
    (did : before.takeDue id = (due, after)) (unattended : place.val ∉ handlers'.map (·.device)) :
    Held place start ⟨after, history, handlers'⟩ := by
  refine held.of_same ?_ unattended
  rcases pops_of_takeDue did with ⟨-, same⟩ | ⟨other, entry, now, here, -, -, pops⟩
  · exact same.queues place
  · obtain ⟨queue, -, requeues⟩ := pops.popped
    refine requeues.elsewhere place ?_
    rintro rfl
    exact List.ne_of_not_mem_cons held.unattended here

theorem move {allowed : Request BoardRequest → Prop} {moment moment' : Moment}
    (held : Held place start moment) (move : Move allowed moment moment')
    (stopped : (moment'.scheduler.board.portAt place).device.enabled = false) :
    Held place start moment' := by
  cases move with
  | answer calls permitted answers => exact held.answer answers.books
  | report => exact held.note fun _ fired => by cases fired
  | advance calls permitted serves advances =>
    exact held.of_same ((SameBooks.modifyPeripheral advances).queues place) held.unattended
  | quiet calls permitted serves inactive =>
    exact held.of_same ((SameBooks.takeActive inactive).queues place) held.unattended
  | @enter before between after history handlers caller id calls summons acknowledges =>
    have same := (SameBooks.summons summons).trans (.acknowledge acknowledges)
    refine held.of_same (same.queues place)
      (List.not_mem_cons_of_ne_of_not_mem (fun here => ?_) held.unattended)
    have runs := acknowledge_runs acknowledges here
    have kept := enabled_eq_of_ticks ((Attends.acknowledge acknowledges).ticks place)
    rw [← runs, stopped] at kept
    cases kept
  | dismiss calls summons acknowledges =>
    have same := (SameBooks.summons summons).trans (.acknowledge acknowledges)
    exact held.of_same (same.queues place) held.unattended
  | skip takes => exact held.takeDue takes held.unattended
  | @fire before after history handlers id entry now callback arg takes =>
    have another := List.ne_of_not_mem_cons held.unattended
    have taken : Held place start ⟨after, history, ⟨id, some history.size⟩ :: handlers⟩ :=
      held.takeDue takes held.unattended
    refine taken.note fun firing fired => ?_
    obtain rfl := Event.fired.inj fired
    exact another.symm
  | resume => exact held.of_same rfl held.unattended
  | @leave before after history handlers id fired takes =>
    have taken : Held place start ⟨after, history, handlers⟩ :=
      held.takeDue takes (List.not_mem_of_not_mem_cons held.unattended)
    exact taken.of_same ((SameBooks.finish after id fired).queues place) taken.unattended

end Held

/-- While a device that did not stop itself rests, no callback is called for it, and what waits on it
goes on waiting. -/
theorem Resting.held {start moment : Moment} (rests : Resting allowed place start moment)
    (passed : Passed allowed start) (leaves : LeavesHardware allowed)
    (stopped : (start.scheduler.board.portAt place).device.enabled = false)
    (outside : ¬StoppedItself start.history place start.history.size) :
    Held place start moment := by
  induction rests with
  | refl =>
    have unattended := ((passed.standing leaves place).rests stopped).resolve_right outside
    refine ⟨le_rfl, unattended.2, fun index firing after found => ?_, fun _ waits => .inl waits⟩
    have := (Array.getElem?_eq_some_iff.1 found).1
    omega
  | tail _ last ih =>
    obtain ⟨progress, stopped⟩ := last
    cases progress with
    | @register scheduler board history changed timer config registers offered =>
      refine ⟨ih.grown, ih.unattended, ih.unfired, fun entry queued => ?_⟩
      refine (ih.waits entry queued).imp_left fun waits => ?_
      change entry ∈ (scheduler.board.queueAt place).entries at waits
      change entry ∈ (board.queueAt place).entries
      by_cases same : place = changed
      · subst same
        rw [registers.empty] at waits
        cases waits
      · rw [Board.queueAt, portAt_registers_of_ne registers same]
        exact waits
    | move wiring move => exact ih.move move stopped

/-! ## What a handler does whose device was stopped -/

/-- A handler takes a timer exactly if the tick at which the counter stands has reached the deadline
of the head. Whether the device runs makes no difference. -/
theorem takeDue_isSome_iff {scheduler : SimScheduler} {id : DeviceId} {device : Device}
    {due : Option Scheduler.DueTimer} (located : Located scheduler.board id place device)
    (did : scheduler.takeDue id = (due, after)) :
    due.isSome = true ↔ ∃ head, device.queue.peekEarliest = some head ∧
      Tick.reached ((scheduler.board.port place device).read device.config.line).1 head.expiry =
        true := by
  rw [← DeadlineQueue.popExpired_isSome_iff]
  rcases takeDue_cases did with ⟨⟨error, missing⟩, -⟩ |
    ⟨found, device', located', -, taken⟩
  · rw [(Board.locate_eq_ok_iff scheduler.board id place device).2 ⟨located.id, located.device⟩]
      at missing
    cases missing
  · obtain rfl : found = place := Fin.ext (located'.id.trans located.id.symm)
    obtain rfl := Option.some.inj (located.device.symm.trans located'.device)
    have popped : (scheduler.board.port found device).takeDue.1.isSome =
        (device.queue.popExpired
          ((scheduler.board.port found device).read device.config.line).1).1.isSome := by
      rw [takeDue_fst, Option.isSome_map]
      rfl
    rw [← popped]
    rcases taken with ⟨none, due, -⟩ | ⟨entry, now, some, due, -⟩
    · rw [none, due]
      rfl
    · rw [some, due]
      rfl

/-- A handler leaves the compare interrupt on exactly if something is queued whose deadline lies in the
epoch of the tally. Whether the device runs makes no difference. -/
theorem finish_interruptEnabled_iff {scheduler : SimScheduler} {id : DeviceId} {device : Device}
    (located : Located scheduler.board id place device) (fired : Nat) :
    ((scheduler.finish id fired).board.portAt place).timer.channels.interrupt.interruptEnabled =
        true ↔
      ∃ expiry, device.queue.nextExpiry = some expiry ∧
        (device.width.isNarrow = true → expiry &&& device.width.epochMask = device.tally) := by
  rcases finish_cases scheduler id fired with ⟨⟨error, missing⟩, -⟩ | ⟨found, device', located', -, board⟩
  · rw [(Board.locate_eq_ok_iff scheduler.board id place device).2 ⟨located.id, located.device⟩]
      at missing
    cases missing
  · obtain rfl : found = place := Fin.ext (located'.id.trans located.id.symm)
    obtain rfl := Option.some.inj (located.device.symm.trans located'.device)
    rw [board, portAt_putPort_self]
    exact rearm_interruptEnabled_iff _

/-- Nothing comes from a stopped device, unless it was stopped from within its own handler. Callbacks are
called only for devices that run, and a stopped one stands still with both its interrupts off, while
what waits on it goes on waiting. A device stopped by a callback of its own handler is the exception: the
handler goes on as if it ran, takes what is due by the tick at which the counter stands, and leaves the
compare interrupt on for a remaining head of the same epoch. -/
theorem inert_unless_stopped_itself {scheduler : SimScheduler} {history : History BoardRequest}
    (reachable : Reachable Scheduling scheduler history) :
    (∀ index firing, history[index]? = some (.fired firing) →
      RunsAt history firing.device index ∨ StoppedItself history firing.device index) ∧
    (∀ (place : Fin maxDevices) (device : Device), scheduler.board.devices.get place = some device →
      let timer := (scheduler.board.port place device).timer
      (device.enabled = true ↔ RunsAt history place history.size) ∧
      (device.enabled = false → timer.running = false ∧
        timer.channels.overflow.interruptEnabled = false ∧
        (¬StoppedItself history place history.size →
          timer.channels.interrupt.interruptEnabled = false ∧
          ∀ later, Resting Scheduling place ⟨scheduler, history, []⟩ later →
            Held place ⟨scheduler, history, []⟩ later))) ∧
    ∀ (during : SimScheduler) (place : Fin maxDevices) (device : Device),
      during.board.devices.get place = some device →
      let port := during.board.port place device
      ((during.takeDue place).1.isSome = true ↔
        ∃ head, device.queue.peekEarliest = some head ∧
          Tick.reached (port.read device.config.line).1 head.expiry = true) ∧
      ∀ fired, ((during.finish place fired).board.portAt
            place).timer.channels.interrupt.interruptEnabled = true ↔
          ∃ expiry, device.queue.nextExpiry = some expiry ∧
            (device.width.isNarrow = true → expiry &&& device.width.epochMask = device.tally) := by
  have leaves := leavesHardware_scheduling
  have passed := reachable.passed leaves
  refine ⟨fun index firing found => passed.fired leaves found, ?_, ?_⟩
  · intro place device registered timer
    have located : Located scheduler.board place place device := ⟨rfl, registered⟩
    have standing := passed.standing leaves place
    have rests := passed.atRest leaves place
    have runs := standing.runs
    have silent := standing.rests
    change (scheduler.board.portAt place).device.enabled = true ↔ _ at runs
    change (scheduler.board.portAt place).device.enabled = false →
      (scheduler.board.portAt place).timer.channels.interrupt.interruptEnabled = false ∧ _ ∨ _ at silent
    change (scheduler.board.portAt place).device.enabled = false →
      AtRest (scheduler.board.portAt place) at rests
    have held (stopped : (scheduler.board.portAt place).device.enabled = false)
        (outside : ¬StoppedItself history place history.size) {later : Moment}
        (resting : Resting Scheduling place ⟨scheduler, history, []⟩ later) :=
      resting.held passed leaves stopped outside
    rw [located.portAt_eq] at runs silent rests held
    refine ⟨runs, fun stopped => ?_⟩
    obtain ⟨still, overflowSilent⟩ := rests stopped
    refine ⟨still, overflowSilent, fun outside => ⟨?_, fun later => held stopped outside⟩⟩
    exact ((silent stopped).resolve_right outside).1
  · intro during place device registered port
    have located : Located during.board place place device := ⟨rfl, registered⟩
    exact ⟨takeDue_isSome_iff located rfl, finish_interruptEnabled_iff located⟩

/-- A timer for tick 100 goes on waiting on the 16-bit timer of the nRF51 after that was stopped. -/
theorem inert_after_deinit :
    let running := (nrf51AtRest.init 1 1000000).2
    let attached := (running.attach 1 0 0 7).2
    let started := (attached.start 0 100).2
    let stopped := (started.deinit 1).2
    let port := stopped.board.portAt secondPlace
    port.device.enabled = false ∧ port.device.queue.entries = [⟨0, 100⟩] ∧
      port.timer.running = false ∧ port.timer.channels.interrupt.interruptEnabled = false := by
  intro running attached started stopped port
  have init : Answers nrf51AtRest (.init 1 1000000) (.ofUnit (.ok ())) running :=
    .init (Prod.ext rfl rfl)
  have attach : Answers running (.attach 1 0 0 7) (.ofUnit (running.attach 1 0 0 7).1) attached :=
    .attach (Prod.eta _).symm
  have start : Answers attached (.start 0 100) (.ofUnit (attached.start 0 100).1) started :=
    .start (Prod.eta _).symm
  have deinit : Answers started (.deinit 1) (.ofUnit (started.deinit 1).1) stopped :=
    .deinit (Prod.eta _).symm
  have atRest : Reachable Scheduling nrf51AtRest #[] := .start DeviceConfig.nrf51 [0, 1, 2] {}
  obtain ⟨history, reachable, unfired⟩ : ∃ history, Reachable Scheduling stopped history ∧
      ∀ event ∈ history, ∀ firing, event ≠ .fired firing := by
    refine ⟨_, (((atRest.answer init rfl).answer attach rfl).answer start rfl).answer deinit rfl, ?_⟩
    simp
  have registered : stopped.board.devices.get secondPlace = some port.device := by decide +kernel
  have off : port.device.enabled = false := by decide +kernel
  have waiting : port.device.queue.entries = [⟨0, 100⟩] := by decide +kernel
  have located : Located stopped.board secondPlace secondPlace port.device := ⟨rfl, registered⟩
  have same : port = stopped.board.port secondPlace port.device := located.portAt_eq
  clear_value port stopped
  rw [same]
  have inert := (inert_unless_stopped_itself reachable).2.1 secondPlace port.device registered
  obtain ⟨still, -, silent⟩ := inert.2 off
  exact ⟨off, waiting, still, (silent (not_stoppedItself_of_unfired unfired)).1⟩

/-- The client whose callbacks stop the first device, once, when called with the value 7. -/
def stoppingClient : Client BoardRequest := Scripts.client [(7, ⟨1, [⟨0, .deinit 0⟩]⟩)]

theorem stoppingClient_makes (allowed : Request BoardRequest → Prop) (permitted : allowed (.deinit 0)) :
    stoppingClient.Makes allowed := by
  intro history firing
  unfold stoppingClient Scripts.client
  split
  · next script found =>
    have calls : script.calls = [⟨0, .deinit 0⟩] := by
      rw [List.lookup_cons] at found
      split at found
      · rw [← Option.some.inj found]
      · cases found
    split
    · rw [calls]
      exact ⟨permitted, fun _ => trivial⟩
    · trivial
  · trivial

def firstPlace : Fin maxDevices := ⟨0, by decide⟩

/-- A callback that stops its own device: the timer after it is called although the device is stopped,
and the compare interrupt stays on for the timer after that. -/
theorem fires_on_stopped_device :
    let running := (nrf51AtRest.init 0 1000000).2
    let first := (running.attach 0 0 0 7).2
    let second := (first.attach 0 1 0 8).2
    let third := (second.attach 0 2 0 9).2
    let soon := (third.start 0 10).2
    let later := (soon.start 1 20).2
    let last := (later.start 2 200).2
    ∃ before scheduler history, Reachable Scheduling last before ∧
      outcome (execute stoppingClient ⟨4, 2⟩ (.call ⟨0, .platform (.jump 0 50)⟩))
        (.single last before) = (.ok (.number 2), .single scheduler history) ∧
      Reachable Scheduling scheduler history ∧
      (∃ index firing, history[index]? = some (.fired firing) ∧
        ¬RunsAt history firing.device index) ∧
      ∃ device : Device, scheduler.board.devices.get firstPlace = some device ∧ device.enabled = false ∧
        (scheduler.board.port firstPlace device).timer.channels.interrupt.interruptEnabled =
          true := by
  intro running first second third soon later last
  have init : Answers nrf51AtRest (.init 0 1000000) (.ofUnit (.ok ())) running :=
    .init (Prod.ext rfl rfl)
  have attachFirst : Answers running (.attach 0 0 0 7) (.ofUnit (running.attach 0 0 0 7).1) first :=
    .attach (Prod.eta _).symm
  have attachSecond : Answers first (.attach 0 1 0 8) (.ofUnit (first.attach 0 1 0 8).1) second :=
    .attach (Prod.eta _).symm
  have attachThird : Answers second (.attach 0 2 0 9) (.ofUnit (second.attach 0 2 0 9).1) third :=
    .attach (Prod.eta _).symm
  have startFirst : Answers third (.start 0 10) (.ofUnit (third.start 0 10).1) soon :=
    .start (Prod.eta _).symm
  have startSecond : Answers soon (.start 1 20) (.ofUnit (soon.start 1 20).1) later :=
    .start (Prod.eta _).symm
  have startThird : Answers later (.start 2 200) (.ofUnit (later.start 2 200).1) last :=
    .start (Prod.eta _).symm
  have atRest : Reachable Scheduling nrf51AtRest #[] := .start DeviceConfig.nrf51 [0, 1, 2] {}
  have attached := (((atRest.answer init rfl).answer attachFirst rfl).answer attachSecond rfl).answer
    attachThird rfl
  have reachable := ((attached.answer startFirst rfl).answer startSecond rfl).answer startThird rfl
  generalize before_eq : Array.push _ _ = before at reachable
  let run : SimRun Reply := execute stoppingClient ⟨4, 2⟩ (.call ⟨0, .platform (.jump 0 50)⟩)
  have replied : (outcome run (.single last before)).1.toOption = some (.number 2) := by
    subst before_eq
    decide +kernel
  have seen (result) (same : outcome run (.single last before) = result) :
      result.2.history[8]?.bind (told? 0) = some false ∧
        result.2.history[9]? = some (.fired ⟨0, 0, 1, 20, 50, 0, 8⟩) ∧
        result.2.boards[0]?.bind (fun board => (board.devices.get firstPlace).map fun device =>
          (device.enabled, (board.port firstPlace device).timer.channels.interrupt.interruptEnabled)) =
            some (false, true) := by
    subst before_eq same
    decide +kernel
  obtain ⟨scheduler, history, ran, reached⟩ := reachable.replied stoppingClient ⟨4, 2⟩
    ⟨0, .platform (.jump 0 50)⟩ (stoppingClient_makes _ rfl) rfl replied
  obtain ⟨told, fired, left⟩ := seen _ ran
  obtain ⟨board, present, left⟩ := Option.bind_eq_some_iff.1 left
  obtain ⟨device, registered, stopped⟩ := Option.map_eq_some_iff.1 left
  obtain rfl : scheduler.board = board := Option.some.inj present
  obtain ⟨off, on⟩ := Prod.mk.inj stopped
  refine ⟨before, scheduler, history, reachable, ran, reached, ⟨9, _, fired, ?_⟩, device, registered,
    off, on⟩
  -- The last event before tells that the device was stopped.
  rintro ⟨place, runs⟩
  have stops : LastTold history 0 9 8 false := ⟨by decide, told, fun later _ after before _ => by omega⟩
  cases (stops.unique runs).2

end DeadlineTimers.Simulated
