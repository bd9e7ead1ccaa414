import DeadlineTimers.Proofs.ExactTick
import DeadlineTimers.Proofs.FiredOnce
import DeadlineTimers.Proofs.StoppedDevices

/-!
# No timer fires early

A relative start adds the ticks to the tick that it reads, modulo a whole turn. As long as the ticks are
at most half a turn, the deadline is not reached before the counter has moved that far, whatever else
happens: the tick measures what the counter moves, and only a stop or a new attachment makes the timer
forget its deadline. A start of more than half a turn is accepted as well, but its deadline counts as
reached at once.
-/

namespace DeadlineTimers

namespace Tick

/-- A deadline at most half a turn ahead is not reached before its time. -/
theorem le_of_reached {now ticks : Ticks} {moved : Nat} (half : ticks.toNat ≤ 2 ^ 31)
    (reached : reached (now + UInt32.ofNat moved) (now + ticks) = true) : ticks.toNat ≤ moved := by
  rw [reached_iff_toNat, UInt32.toNat_add, UInt32.toNat_add, UInt32.toNat_ofNat'] at reached
  have bound := now.toNat_lt
  omega

/-- A deadline more than half a turn ahead counts as reached. -/
theorem reached_of_long (now : Ticks) {ticks : Ticks} (long : 2 ^ 31 < ticks.toNat) :
    reached now (now + ticks) = true := by
  rw [reached_iff_toNat, UInt32.toNat_add]
  have bound := now.toNat_lt
  have bound' := ticks.toNat_lt
  omega

end Tick

namespace Simulated

open Port Run

variable {allowed : SimBoard → Request BoardRequest → Prop} {place : Fin maxDevices}
  {timer : TimerId} {ticks : Ticks} {before after : SimScheduler}

/-- A run during which a device is not stopped, and a timer is neither stopped nor attached anew. -/
def Undisturbed (allowed : SimBoard → Request BoardRequest → Prop) (place : Fin maxDevices)
    (timer : TimerId) : Moment → Moment → Prop :=
  Relation.ReflTransGen fun before after =>
    (Progress allowed before after ∧ (after.scheduler.board.portAt place).device.enabled = true) ∧
      ∀ event, after.history = before.history.push event →
        (Record.deed ⟨before.scheduler, event⟩ timer).withdraws = false

theorem Undisturbed.uninterrupted {start moment : Moment}
    (undisturbed : Undisturbed allowed place timer start moment) :
    Uninterrupted allowed place start moment := by
  induction undisturbed with
  | refl => exact .refl
  | tail _ last ih => exact ih.tail last.1

/-- A reading returns the tick that it leaves. -/
theorem tick_of_tryRead {now : Ticks} (tried : before.tryRead place.val = (.ok now, after))
    (running : (before.board.portAt place).Running) :
    now = (after.board.portAt place).tick := by
  rcases tryRead_cases tried with ⟨error, failed, -⟩ | ⟨found, device, located, read, -, board⟩
  · cases failed
  · obtain rfl : found = place := Fin.ext located.id
    rw [located.portAt_eq] at running
    rw [board, portAt_putPort_self, Except.ok.inj read]
    exact running.read_eq_tick _

/-- A handler takes a due timer by the tick that it leaves. -/
theorem tick_of_takeDue {due : Scheduler.DueTimer}
    (takes : before.takeDue place.val = (some due, after))
    (running : (before.board.portAt place).Running) :
    due.now = (after.board.portAt place).tick := by
  rcases takeDue_cases takes with ⟨-, none, -⟩ |
    ⟨found, device, located, board, ⟨-, none, -⟩ | ⟨entry, now, taken, same, -⟩⟩
  · cases none
  · cases none
  · obtain rfl : found = place := Fin.ext located.id
    rw [located.portAt_eq] at running
    rw [takeDue_fst, Option.map_eq_some_iff] at taken
    obtain ⟨head, -, read⟩ := taken
    rw [board, portAt_putPort_self, Option.some.inj same, takeDue_snd]
    change now = Port.tick _
    rw [← (Prod.mk.inj read).2]
    exact running.read_eq_tick _

/-- Since a port from which a timer was started, the tick measures what the counter moved, and the timer
waits for its deadline unless the counter moved that far. -/
structure HeldTo (read : SimPort) (place : Fin maxDevices) (timer : TimerId) (ticks : Ticks)
    (scheduler : SimScheduler) : Prop where
  running : (scheduler.board.portAt place).Running
  measured : read.Measured (scheduler.board.portAt place)
  owner : (scheduler.timers.get timer).device = some place.val
  waits : read.KeepsOverflows (scheduler.board.portAt place) →
    (scheduler.timers.get timer).linked = true ∧
        (scheduler.timers.get timer).expiry = read.tick + ticks ∨
      read.timer.travelled + ticks.toNat ≤ (scheduler.board.portAt place).timer.travelled

namespace HeldTo

variable {read : SimPort}

/-- What the timer does not see. -/
theorem of_ticks (held : HeldTo read place timer ticks before)
    (events : TickEvents (before.board.portAt place) (after.board.portAt place))
    (owner : (after.timers.get timer).device = (before.timers.get timer).device)
    (waits : read.KeepsOverflows (after.board.portAt place) →
      (before.timers.get timer).linked = true ∧
        (before.timers.get timer).expiry = read.tick + ticks →
      (after.timers.get timer).linked = true ∧
          (after.timers.get timer).expiry = read.tick + ticks ∨
        read.timer.travelled + ticks.toNat ≤ (after.board.portAt place).timer.travelled) :
    HeldTo read place timer ticks after := by
  have measured := Measured.events held.running events
  refine ⟨held.running.events events, held.measured.trans measured, owner.trans held.owner,
    fun kept => ?_⟩
  have kept' : read.KeepsOverflows (before.board.portAt place) := fun narrow => by
    have first := held.measured.missed
    have second := measured.missed
    have same := kept narrow
    omega
  rcases held.waits kept' with waiting | moved
  · exact waits kept waiting
  · exact .inr (moved.trans measured.travelled)

/-- The callback of the timer is not called before the counter has moved far enough. -/
theorem travelled_of_fired (held : HeldTo read place timer ticks before) (coherent : Coherent before)
    (half : ticks.toNat ≤ 2 ^ 31) {id : DeviceId} {due : Scheduler.DueTimer}
    (takes : before.takeDue id = (some due, after)) (mine : due.entry.timer = timer)
    (kept : read.KeepsOverflows (after.board.portAt place))
    (expiry : (before.timers.get timer).expiry = read.tick + ticks) :
    read.timer.travelled + ticks.toNat ≤ (after.board.portAt place).timer.travelled := by
  have measured := held.measured.trans
    (.events held.running ((Attends.takeDue takes).ticks place))
  rcases pops_of_takeDue takes with ⟨none, -⟩ | ⟨found, entry, now, here, same, reached, pops⟩
  · cases none
  obtain rfl := Option.some.inj same
  obtain rfl : entry.timer = timer := mine
  obtain ⟨queue, entries, -⟩ := pops.popped
  have waits : entry ∈ (before.board.queueAt found).entries := by
    rw [entries]
    exact List.mem_cons_self
  have remembers := coherent.queued found entry waits
  obtain rfl : found = place := Fin.ext (Option.some.inj (remembers.owner.symm.trans held.owner))
  rw [← here] at takes
  have tick : now = (after.board.portAt found).tick := tick_of_takeDue takes held.running
  rw [tick, measured.tick kept, ← remembers.expiry, expiry] at reached
  have moved := Tick.le_of_reached half reached
  have travelled := measured.travelled
  omega

theorem progress {moment moment' : Moment}
    (held : HeldTo read place timer ticks moment.scheduler) (half : ticks.toNat ≤ 2 ^ 31)
    (passed : Passed allowed moment) (progress : Progress allowed moment moment')
    (events : TickEvents (moment.scheduler.board.portAt place) (moment'.scheduler.board.portAt place))
    (undisturbed : ∀ event, moment'.history = moment.history.push event →
      (Record.deed ⟨moment.scheduler, event⟩ timer).withdraws = false) :
    HeldTo read place timer ticks moment'.scheduler := by
  have coherent := passed.coherent
  rcases progress.history with silent | ⟨event, grows⟩
  · have timers := progress.timers_of_silent coherent silent
    refine held.of_ticks events ?_ fun _ waiting => ?_
    · rw [timers]
    · rw [timers]
      exact .inl waiting
  · have happens := progress.happens grows
    have turns := happens.turns coherent timer
    have stays := undisturbed event grows
    unfold Record.Turns at turns
    cases deed : Record.deed ⟨moment.scheduler, event⟩ timer with
    | starts =>
      rw [deed] at turns
      obtain ⟨unlinked, expiry, -, slot⟩ := turns
      refine held.of_ticks events ?_ fun _ waiting => ?_
      · rw [slot]
      · rw [waiting.1] at unlinked
        cases unlinked
    | fires =>
      rw [deed] at turns
      obtain ⟨id, due, takes, mine⟩ := happens.takes_of_fires deed
      refine held.of_ticks events ?_ fun kept waiting => .inr ?_
      · rw [turns.2]
      · exact held.travelled_of_fired coherent half takes mine kept waiting.2
    | stops =>
      rw [deed] at stays
      cases stays
    | attaches =>
      rw [deed] at stays
      cases stays
    | nothing =>
      rw [deed] at turns
      refine held.of_ticks events ?_ fun _ waiting => ?_
      · rw [turns]
      · rw [turns]
        exact .inl waiting

theorem undisturbed {start moment : Moment}
    (held : HeldTo read place timer ticks start.scheduler) (half : ticks.toNat ≤ 2 ^ 31)
    (leaves : LeavesHardware allowed) (passed : Passed allowed start)
    (runs : (start.scheduler.board.portAt place).device.enabled = true)
    (undisturbed : Undisturbed allowed place timer start moment) :
    HeldTo read place timer ticks moment.scheduler := by
  induction undisturbed with
  | refl => exact held
  | tail earlier last ih =>
    have before := Undisturbed.uninterrupted earlier
    have enabled := (enabled_eq_of_ticks (before.ticks leaves runs)).trans runs
    have events := Uninterrupted.ticks (.single last.1) leaves enabled
    exact ih.progress half (before.passed passed) last.1.1 events last.2

end HeldTo

/-- A start that succeeded, apart from the history. -/
theorem start_of_happens {caller : Option Nat}
    (happens : Happens before (.answered caller ⟨0, .start timer ticks⟩ .done) after) :
    before.start timer ticks = (.ok (), after) := by
  generalize same : Event.answered caller ⟨0, .start timer ticks⟩ .done = event at happens
  cases happens with
  | answered answers =>
    obtain ⟨-, call, done⟩ := Event.answered.inj same
    obtain ⟨-, rfl⟩ := Call.mk.inj call
    cases answers with
    | @start _ _ _ result did =>
      cases result with
      | ok => exact did
      | error error => cases done
  | reported runs =>
    obtain ⟨-, rfl, -⟩ := Event.answered.inj same
    cases runs
  | fired => cases same

/-- From the reading inside a start the timer is held to its deadline. -/
theorem held_of_start (leaves : LeavesHardware allowed) {moment : Moment}
    (passed : Passed allowed moment)
    (runs : (moment.scheduler.board.portAt place).device.enabled = true)
    (owner : (moment.scheduler.timers.get timer).device = some place.val)
    (did : moment.scheduler.start timer ticks = (.ok (), after)) :
    HeldTo ((moment.scheduler.tryRead place.val).2.board.portAt place) place timer ticks after ∧
      (after.timers.get timer).expiry =
        ((moment.scheduler.tryRead place.val).2.board.portAt place).tick + ticks := by
  have running := (passed.sound leaves place).running runs
  rcases start_cases did with ⟨error, failed, -⟩ | ⟨id, now, between, owner', tried, started⟩
  · cases failed
  obtain rfl : place.val = id := Option.some.inj (owner.symm.trans owner')
  have reads := ticks_of_uses ((Uses.tryRead tried).ports place)
  have queues := ticks_of_uses ((Uses.startAt started).ports place)
  have tick : now = (between.board.portAt place).tick := tick_of_tryRead tried running
  rw [tried]
  rcases enqueues_of_startAt started with ⟨error, failed, -⟩ | ⟨found, -, enqueues⟩
  · cases failed
  have slot : after.timers.get timer =
      { between.timers.get timer with expiry := now + ticks, linked := true } := by
    rw [enqueues.timers, TimerTable.get_set_self]
  have timers := (SameBooks.tryRead tried).timers
  rw [← tick, slot]
  refine ⟨⟨(running.events reads).events queues, .events (running.events reads) queues, ?_, ?_⟩, rfl⟩
  · rw [slot, timers]
    exact owner
  · intro _
    rw [slot, ← tick]
    exact .inl ⟨rfl, rfl⟩

/-- A timer that was started for at most half a turn ahead is not called before the counter has moved
that far since the reading inside the start, whatever happens as long as the device is not stopped, the
timer is neither stopped nor attached anew, and no overflow is lost. A longer start counts as reached at
that very reading. -/
theorem never_early (leaves : LeavesHardware allowed) {moment started : Moment} {caller : Option Nat}
    (passed : Passed allowed moment)
    (runs : (moment.scheduler.board.portAt place).device.enabled = true)
    (owner : (moment.scheduler.timers.get timer).device = some place.val)
    (start : Progress allowed moment started)
    (answered : started.history =
      moment.history.push (.answered caller ⟨0, .start timer ticks⟩ .done)) :
    let read := (moment.scheduler.tryRead place.val).2.board.portAt place
    (ticks.toNat ≤ 2 ^ 31 → ∀ last fired firing, Undisturbed allowed place timer started last →
      Progress allowed last fired → fired.history = last.history.push (.fired firing) →
      firing.timer = timer → read.KeepsOverflows (fired.scheduler.board.portAt place) →
      read.timer.travelled + ticks.toNat ≤
        (fired.scheduler.board.portAt place).timer.travelled) ∧
      (2 ^ 31 < ticks.toNat →
        Tick.reached read.tick (started.scheduler.timers.get timer).expiry = true) := by
  intro read
  have did := start_of_happens (start.happens answered)
  obtain ⟨held, expiry⟩ := held_of_start leaves passed runs owner did
  constructor
  · intro half last fired firing undisturbed fire calls mine kept
    have passed := passed.progress start
    have enabled := (enabled_eq_of_ticks (ticks_of_uses ((Uses.start did).ports place))).trans runs
    have held := held.undisturbed half leaves passed enabled undisturbed
    have passed := undisturbed.uninterrupted.passed passed
    have happens := fire.happens calls
    have fires : Record.deed ⟨last.scheduler, .fired firing⟩ timer = .fires := if_pos mine
    obtain ⟨id, due, takes, -⟩ := happens.takes_of_fires fires
    have called := held.progress half passed fire ((Attends.takeDue takes).ticks place)
      fun event same => by
        rw [calls, Array.push_inj_right] at same
        rw [← same, fires]
        rfl
    have turns := happens.turns passed.coherent timer
    unfold Record.Turns at turns
    rw [fires] at turns
    refine (called.waits kept).resolve_left fun waiting => ?_
    rw [turns.2] at waiting
    cases waiting.1
  · intro long
    rw [expiry]
    exact Tick.reached_of_long _ long

/-- A 16-bit counter moves ten ticks, and a timer started for ten ticks ahead is called. -/
theorem never_early_after_ten :
    let running := (nrf51AtRest.init 1 1000000).2
    let attached := (running.attach 1 0 0 7).2
    let read := (attached.tryRead 1).2.board.portAt secondPlace
    let started := (attached.start 0 10).2
    let moved := (SimScheduler.modifyPeripheral secondPlace (TimerAccess.run · (.advance 10)) started).2
    let handling := (moved.acknowledge 1).2
    let called := (handling.takeDue 1).2
    (handling.takeDue 1).1 = some ⟨⟨0, 10⟩, 10, some (0, 7)⟩ ∧
      read.timer.travelled + 10 ≤ (called.board.portAt secondPlace).timer.travelled := by
  intro running attached read started moved handling called
  have init : Answers nrf51AtRest (.init 1 1000000) (.ofUnit (.ok ())) running :=
    .init (Prod.ext rfl rfl)
  have attach : Answers running (.attach 1 0 0 7) _ attached := .attach (Prod.eta _).symm
  have start : Answers attached (.start 0 10) _ started := .start (Prod.eta _).symm
  have done : (attached.start 0 10).1 = .ok () := by decide +kernel
  rw [done] at start
  have move : Answers started (.platform (.access 1 (.advance 10))) (.reading .nothing) moved :=
    .access secondPlace (Prod.ext rfl rfl)
  have entered : (moved.acknowledge 1).1 = true := by decide +kernel
  have acknowledges : moved.acknowledge 1 = (true, handling) :=
    (Prod.eta _).symm.trans (congrArg (·, handling) entered)
  have taken : (handling.takeDue 1).1 = some ⟨⟨0, 10⟩, 10, some (0, 7)⟩ := by decide +kernel
  have takes : handling.takeDue 1 = (some ⟨⟨0, 10⟩, 10, some (0, 7)⟩, called) :=
    (Prod.eta _).symm.trans (congrArg (·, called) taken)
  have runs : (attached.board.portAt secondPlace).device.enabled = true := by decide +kernel
  have stays : (moved.board.portAt secondPlace).device.enabled = true ∧
      (handling.board.portAt secondPlace).device.enabled = true := by decide +kernel
  have owner : (attached.timers.get 0).device = some secondPlace.val := by decide +kernel
  have kept : read.KeepsOverflows (called.board.portAt secondPlace) := fun _ => by decide +kernel
  have same : read = (attached.tryRead secondPlace.val).2.board.portAt secondPlace := rfl
  refine ⟨taken, ?_⟩
  clear_value read called handling moved started attached running
  have atRest : Passed Scheduling ⟨nrf51AtRest, #[], []⟩ := .start DeviceConfig.nrf51 [0, 1, 2] {}
  obtain ⟨history, passed⟩ : ∃ history, Passed Scheduling ⟨attached, history, []⟩ :=
    ⟨_, (atRest.progress (.answer .user init rfl)).progress (.answer .user attach rfl)⟩
  let waiting := history.push (.answered none ⟨0, .start 0 10⟩ .done)
  have first : Undisturbed Scheduling secondPlace 0 ⟨started, waiting, []⟩ ⟨moved, _, []⟩ :=
    .single ⟨⟨.answer .user move rfl, stays.1⟩, fun event grows => by
      change waiting.push _ = waiting.push event at grows
      obtain rfl := Array.push_inj_right.1 grows
      rfl⟩
  have undisturbed := first.tail
    ⟨⟨.move (.refl _) (.enter .user (.request rfl) acknowledges), stays.2⟩, fun event grows =>
      absurd grows.symm (push_ne_self _ event)⟩
  have early := (never_early leavesHardware_scheduling passed runs owner (.answer .user start rfl)
    rfl).1 (by decide) _ _ _ undisturbed (.move (.refl _) (.fire takes)) rfl rfl
  rw [← same] at early
  exact early kept

/-- A start of more than half a turn succeeds, and the callback is called although the counter has not
moved at all. -/
theorem long_start_fires_at_once :
    let running := (nrf51AtRest.init 0 1000000).2
    let attached := (running.attach 0 0 0 7).2
    let started := (attached.start 0 0x80000001).2
    (attached.start 0 0x80000001).1 = .ok () ∧
      ∃ before scheduler history, Reachable Scheduling started before ∧
        outcome (execute silentClient ⟨4, 2⟩ (.call ⟨0, .platform (.service 0)⟩))
          (.single started before) = (.ok (.number 1), .single scheduler history) ∧
        (∃ firing, history[3]? = some (.fired firing) ∧ firing.timer = 0) ∧
        (scheduler.board.portAt firstPlace).timer.travelled =
          ((attached.tryRead 0).2.board.portAt firstPlace).timer.travelled := by
  intro running attached started
  have init : Answers nrf51AtRest (.init 0 1000000) (.ofUnit (.ok ())) running :=
    .init (Prod.ext rfl rfl)
  have attach : Answers running (.attach 0 0 0 7) _ attached := .attach (Prod.eta _).symm
  have start : Answers attached (.start 0 0x80000001) _ started := .start (Prod.eta _).symm
  have done : (attached.start 0 0x80000001).1 = .ok () := by decide +kernel
  have atRest : Reachable Scheduling nrf51AtRest #[] := .start DeviceConfig.nrf51 [0, 1, 2] {}
  have reachable := ((atRest.answer init rfl).answer attach rfl).answer start rfl
  generalize before_eq : Array.push _ _ = before at reachable
  let run : SimRun Reply := execute silentClient ⟨4, 2⟩ (.call ⟨0, .platform (.service 0)⟩)
  have replied : (outcome run (.single started before)).1.toOption = some (.number 1) := by
    subst before_eq
    decide +kernel
  have seen (result) (same : outcome run (.single started before) = result) :
      result.2.history[3]? = some (.fired ⟨0, 0, 0, 0x80000001, 0, 0, 7⟩) ∧
        result.2.boards[0]?.map (fun board => (board.portAt firstPlace).timer.travelled) =
          some ((attached.tryRead 0).2.board.portAt firstPlace).timer.travelled := by
    subst before_eq same
    decide +kernel
  obtain ⟨scheduler, history, ran, -⟩ := reachable.replied silentClient ⟨4, 2⟩
    ⟨0, .platform (.service 0)⟩ (silentClient_makes _) rfl replied
  obtain ⟨fired, still⟩ := seen _ ran
  exact ⟨done, before, scheduler, history, reachable, ran, ⟨_, fired, rfl⟩, Option.some.inj still⟩

end Simulated

end DeadlineTimers
