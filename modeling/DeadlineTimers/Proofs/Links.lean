import DeadlineTimers.Proofs.Reachable

/-!
# Timers and queues agree

A timer remembers that it waits, and a queue remembers which timers wait in it. At every moment of every
run the two agree: a queued timer is linked, remembers the device of the queue, the deadline that it was
queued with, and a callback, and a linked timer is in one queue, once.
-/

namespace DeadlineTimers.Simulated

/-- A timer remembers what the entry of a queue says of it, and has a callback. -/
structure Remembers (slot : TimerSlot) (place : Fin maxDevices) (entry : QueueEntry) : Prop where
  linked : slot.linked = true
  owner : slot.device = some place.val
  expiry : slot.expiry = entry.expiry
  callable : slot.callback.isSome = true

structure Coherent (scheduler : SimScheduler) : Prop where
  queued : ∀ place, ∀ entry ∈ (scheduler.board.queueAt place).entries,
    Remembers (scheduler.timers.get entry.timer) place entry
  distinct : ∀ place, (scheduler.board.queueAt place).Distinct
  linked : ∀ timer, (scheduler.timers.get timer).linked = true →
    ∃ place, ∃ entry ∈ (scheduler.board.queueAt place).entries, entry.timer = timer

variable {before between after : SimScheduler} {timer : TimerId} {expiry : Ticks}
  {place : Fin maxDevices}

namespace Coherent

theorem same (coherent : Coherent before) (same : SameBooks before after) : Coherent after where
  queued place entry waits := by
    rw [same.queues] at waits
    rw [same.timers]
    exact coherent.queued place entry waits
  distinct place := by
    rw [same.queues]
    exact coherent.distinct place
  linked timer linked := by
    rw [same.timers] at linked
    obtain ⟨place, entry, waits, here⟩ := coherent.linked timer linked
    refine ⟨place, entry, ?_, here⟩
    rw [same.queues]
    exact waits

/-- A timer that is not linked is in no queue. -/
theorem ne_of_unlinked (coherent : Coherent before) (unlinked : (before.timers.get timer).linked = false)
    {entry : QueueEntry} (waits : entry ∈ (before.board.queueAt place).entries) :
    entry.timer ≠ timer := by
  rintro rfl
  rw [(coherent.queued place entry waits).linked] at unlinked
  cases unlinked

theorem enqueue (coherent : Coherent before) (enqueues : Enqueues before timer expiry place after) :
    Coherent after := by
  obtain ⟨unlinked, callable, owner, ⟨isHead, queue, inserted, requeues⟩, timers⟩ := enqueues
  have others {other : Fin maxDevices} {entry : QueueEntry}
      (waits : entry ∈ (before.board.queueAt other).entries) :
      Remembers (after.timers.get entry.timer) other entry := by
    rw [timers, TimerTable.get_set_of_ne _ _ (coherent.ne_of_unlinked unlinked waits)]
    exact coherent.queued other entry waits
  constructor
  · intro other entry waits
    by_cases here : other = place
    · subst here
      rw [requeues.here, DeadlineQueue.mem_insert_iff inserted] at waits
      rcases waits with rfl | waits
      · rw [timers, TimerTable.get_set_self]
        exact ⟨rfl, owner, rfl, callable⟩
      · exact others waits
    · rw [requeues.elsewhere other here] at waits
      exact others waits
  · intro other
    by_cases here : other = place
    · subst here
      rw [requeues.here]
      exact (coherent.distinct other).insert inserted
    · rw [requeues.elsewhere other here]
      exact coherent.distinct other
  · intro other linked
    by_cases same : other = timer
    · refine ⟨place, ⟨timer, expiry⟩, ?_, same.symm⟩
      rw [requeues.here]
      exact (DeadlineQueue.mem_insert_iff inserted).2 (.inl rfl)
    · rw [timers, TimerTable.get_set_of_ne _ _ same] at linked
      obtain ⟨found, entry, waits, rfl⟩ := coherent.linked other linked
      refine ⟨found, entry, ?_, rfl⟩
      by_cases here : found = place
      · subst here
        rw [requeues.here]
        exact DeadlineQueue.mem_insert inserted waits
      · rw [requeues.elsewhere found here]
        exact waits

/-- Taking a timer out of its queue and unlinking it. -/
theorem dequeue (coherent : Coherent before)
    (owner : (before.timers.get timer).device = some place.val)
    {queue : DeadlineQueue queueDepth} (distinct : queue.Distinct)
    (left : ∀ entry, entry ∈ queue.entries ↔
      entry ∈ (before.board.queueAt place).entries ∧ entry.timer ≠ timer)
    (requeues : Requeues before.board after.board place queue)
    (timers : after.timers =
      before.timers.set timer { before.timers.get timer with linked := false }) :
    Coherent after := by
  constructor
  · intro other entry waits
    have kept : entry ∈ (before.board.queueAt other).entries ∧ entry.timer ≠ timer := by
      by_cases here : other = place
      · subst here
        rw [requeues.here] at waits
        exact (left entry).1 waits
      · rw [requeues.elsewhere other here] at waits
        refine ⟨waits, ?_⟩
        rintro rfl
        rw [(coherent.queued other entry waits).owner, Option.some_inj] at owner
        exact here (Fin.ext owner)
    rw [timers, TimerTable.get_set_of_ne _ _ kept.2]
    exact coherent.queued other entry kept.1
  · intro other
    by_cases here : other = place
    · subst here
      rw [requeues.here]
      exact distinct
    · rw [requeues.elsewhere other here]
      exact coherent.distinct other
  · intro other linked
    have different : other ≠ timer := by
      rintro rfl
      rw [timers, TimerTable.get_set_self] at linked
      cases linked
    rw [timers, TimerTable.get_set_of_ne _ _ different] at linked
    obtain ⟨found, entry, waits, rfl⟩ := coherent.linked other linked
    refine ⟨found, entry, ?_, rfl⟩
    by_cases here : found = place
    · subst here
      rw [requeues.here]
      exact (left entry).2 ⟨waits, different⟩
    · rw [requeues.elsewhere found here]
      exact waits

theorem unlink (coherent : Coherent before) (unlinks : Unlinks before timer after) :
    Coherent after ∧ (after.timers.get timer).linked = false := by
  cases unlinks with
  | idle unlinked same =>
    rw [same.timers]
    exact ⟨coherent.same same, unlinked⟩
  | waiting place linked owner removed timers =>
    have distinct := coherent.distinct place
    refine ⟨coherent.dequeue owner (distinct.remove timer) (fun _ => distinct.mem_remove_iff) removed
      timers, ?_⟩
    rw [timers, TimerTable.get_set_self]

theorem attach (coherent : Coherent between) (unlinked : (between.timers.get timer).linked = false)
    (queues : ∀ place, after.board.queueAt place = between.board.queueAt place)
    {slot : TimerSlot} (unlinked' : slot.linked = false)
    (timers : after.timers = between.timers.set timer slot) : Coherent after where
  queued place entry waits := by
    rw [queues] at waits
    rw [timers, TimerTable.get_set_of_ne _ _ (coherent.ne_of_unlinked unlinked waits)]
    exact coherent.queued place entry waits
  distinct place := by
    rw [queues]
    exact coherent.distinct place
  linked other linked := by
    have different : other ≠ timer := by
      rintro rfl
      rw [timers, TimerTable.get_set_self, unlinked'] at linked
      cases linked
    rw [timers, TimerTable.get_set_of_ne _ _ different] at linked
    obtain ⟨place, entry, waits, same⟩ := coherent.linked other linked
    refine ⟨place, entry, ?_, same⟩
    rw [queues]
    exact waits

theorem pop (coherent : Coherent before) {entry : QueueEntry}
    (pops : Pops before place entry after) : Coherent after := by
  obtain ⟨⟨queue, entries, requeues⟩, timers⟩ := pops
  have distinct := coherent.distinct place
  rw [DeadlineQueue.Distinct, entries, List.map_cons, List.nodup_cons] at distinct
  have among : entry ∈ (before.board.queueAt place).entries := by
    rw [entries]
    exact List.mem_cons_self
  refine coherent.dequeue (coherent.queued place entry among).owner distinct.2 (fun other => ?_)
    requeues timers
  rw [entries, List.mem_cons]
  constructor
  · intro waits
    refine ⟨.inr waits, fun same => distinct.1 ?_⟩
    rw [← same]
    exact List.mem_map_of_mem waits
  · rintro ⟨rfl | waits, different⟩
    · exact absurd rfl different
    · exact waits

theorem books {request : Request BoardRequest} {reply : Reply} (coherent : Coherent before)
    (books : Books before request reply after) : Coherent after := by
  cases books with
  | keep same => exact coherent.same same
  | start starts done enqueues => exact coherent.enqueue enqueues
  | stop stops done unlinks => exact (coherent.unlink unlinks).1
  | attach attaches done unlinks queues timers =>
    obtain ⟨coherent, unlinked⟩ := coherent.unlink unlinks
    exact coherent.attach unlinked queues rfl timers

theorem takeDue {id : DeviceId} {due : Option Scheduler.DueTimer} (coherent : Coherent before)
    (did : before.takeDue id = (due, after)) : Coherent after := by
  rcases pops_of_takeDue did with ⟨-, same⟩ | ⟨place, entry, now, -, -, -, pops⟩
  · exact coherent.same same
  · exact coherent.pop pops

theorem move {allowed : Request BoardRequest → Prop} {moment moment' : Moment}
    (coherent : Coherent moment.scheduler) (move : Move allowed moment moment') :
    Coherent moment'.scheduler := by
  cases move with
  | answer calls permitted answers => exact coherent.books answers.books
  | report => exact coherent
  | advance calls permitted serves advances => exact coherent.same (.modifyPeripheral advances)
  | quiet calls permitted serves inactive => exact coherent.same (.takeActive inactive)
  | enter calls summons acknowledges =>
    exact (coherent.same (.summons summons)).same (.acknowledge acknowledges)
  | dismiss calls summons acknowledges =>
    exact (coherent.same (.summons summons)).same (.acknowledge acknowledges)
  | skip takes => exact coherent.takeDue takes
  | fire takes => exact coherent.takeDue takes
  | resume => exact coherent
  | leave fired takes => exact (coherent.takeDue takes).same (.finish _ _ fired)

end Coherent

theorem queueAt_boardOfLayout (layout : Vector DeviceConfig maxDevices) (ids : List DeviceId)
    (place : Fin maxDevices) : ((boardOfLayout layout).registering ids).queueAt place = .empty := by
  rw [Board.queueAt, portAt_boardOfLayout]
  rfl

theorem Registers.queues {before after : SimBoard} {hardware : Timer} {config : DeviceConfig}
    {changed : Fin maxDevices} (registers : Registers before after changed hardware config)
    (place : Fin maxDevices) :
    after.queueAt place = before.queueAt place := by
  by_cases same : place = changed
  · subst same
    have empty : before.queueAt place = .empty := congrArg DeadlineQueue.mk registers.empty
    rw [empty, Board.queueAt, portAt_registers_self registers]
    rfl
  · rw [Board.queueAt, portAt_registers_of_ne registers same]
    rfl

/-- At every moment of a run the timers and the queues agree. -/
theorem Passed.coherent {allowed : SimBoard → Request BoardRequest → Prop} {moment : Moment}
    (passed : Passed allowed moment) : Coherent moment.scheduler := by
  induction passed with
  | start layout ids logger =>
    refine ⟨fun place entry waits => ?_, fun place => ?_, fun timer linked => ?_⟩
    · rw [queueAt_boardOfLayout] at waits
      cases waits
    · rw [queueAt_boardOfLayout]
      exact List.nodup_nil
    · cases linked
  | progress _ progress ih =>
    cases progress with
    | register registers offered => exact ih.same ⟨registers.queues, rfl⟩
    | move wiring move => exact ih.move move

end DeadlineTimers.Simulated
