import DeadlineTimers.Proofs.BoardSteps

/-!
# What waits where

Few operations change the queues of the devices and the table of timers. A start puts a timer into a
queue, a stop or a new attachment takes it out, and the handler takes the head off. All the others leave
the queues and the timers as they are.
-/

namespace DeadlineTimers

def Board.queueAt {R C K : Type} (board : Board R C K) (place : Fin maxDevices) :
    DeadlineQueue queueDepth := (board.portAt place).device.queue

namespace Simulated

open Port

structure SameBooks (before after : SimScheduler) : Prop where
  queues : ∀ place, after.board.queueAt place = before.board.queueAt place
  timers : after.timers = before.timers

structure Requeues (before after : SimBoard) (place : Fin maxDevices)
    (queue : DeadlineQueue queueDepth) : Prop where
  here : after.queueAt place = queue
  elsewhere : ∀ other, other ≠ place → after.queueAt other = before.queueAt other

structure Enqueues (before : SimScheduler) (timer : TimerId) (expiry : Ticks)
    (place : Fin maxDevices) (after : SimScheduler) : Prop where
  unlinked : (before.timers.get timer).linked = false
  callable : (before.timers.get timer).callback.isSome = true
  owner : (before.timers.get timer).device = some place.val
  inserted : ∃ isHead queue, (before.board.queueAt place).insert timer expiry = .ok (isHead, queue) ∧
    Requeues before.board after.board place queue
  timers : after.timers =
    before.timers.set timer { before.timers.get timer with expiry, linked := true }

/-- A timer is made not to wait: it did not wait before, or it is taken out of the queue of its
device. -/
inductive Unlinks (before : SimScheduler) (timer : TimerId) (after : SimScheduler) : Prop where
  | idle (unlinked : (before.timers.get timer).linked = false) (same : SameBooks before after)
  | waiting (place : Fin maxDevices) (linked : (before.timers.get timer).linked = true)
      (owner : (before.timers.get timer).device = some place.val)
      (removed : Requeues before.board after.board place
        ((before.board.queueAt place).remove timer).2)
      (timers : after.timers =
        before.timers.set timer { before.timers.get timer with linked := false })

structure Pops (before : SimScheduler) (place : Fin maxDevices) (entry : QueueEntry)
    (after : SimScheduler) : Prop where
  popped : ∃ queue : DeadlineQueue queueDepth,
    (before.board.queueAt place).entries = entry :: queue.entries ∧
      Requeues before.board after.board place queue
  timers : after.timers = before.timers.set entry.timer
    { before.timers.get entry.timer with linked := false }

def starts? : Request BoardRequest → Option TimerId
  | .start timer _ => some timer
  | .startAt timer _ => some timer
  | _ => none

def unlinks? : Request BoardRequest → Option TimerId
  | .stop timer => some timer
  | .attach _ timer _ _ => some timer
  | _ => none

/-- What becomes of the queues and the timers when a request is answered that runs no handler. -/
inductive Books (before : SimScheduler) (request : Request BoardRequest) (reply : Reply)
    (after : SimScheduler) : Prop where
  | keep (same : SameBooks before after)
      (idle : reply = .done → starts? request = none ∧ unlinks? request = none)
  | start {timer expiry place} (starts : starts? request = some timer) (done : reply = .done)
      (enqueues : Enqueues before timer expiry place after)
  | stop {timer} (stops : request = .stop timer) (done : reply = .done)
      (unlinks : Unlinks before timer after)
  | attach {id timer callback arg between} (attaches : request = .attach id timer callback arg)
      (done : reply = .done) (unlinks : Unlinks before timer between)
      (queues : ∀ place, after.board.queueAt place = between.board.queueAt place)
      (timers : after.timers = between.timers.modify timer fun slot =>
        { slot with callback := some callback, arg, device := some id, linked := false })

variable {before between after : SimScheduler} {board : SimBoard} {id : DeviceId} {timer : TimerId}
  {expiry : Ticks} {place : Fin maxDevices} {device : Device} {port : SimPort}

/-! ## Queues of a port -/

theorem read_queue (port : SimPort) (line : IrqLine) :
    (port.read line).2.device.queue = port.device.queue := by
  rw [read_device]

theorem rearm_queue (port : SimPort) : port.rearm.2.device.queue = port.device.queue := by
  unfold Port.rearm
  split
  · next expiry _ =>
    change (port.arm port.device.config.line expiry).2.device.queue = _
    rw [arm_device]
  · rfl

theorem acknowledge_queue (port : SimPort) :
    port.acknowledge.2.device.queue = port.device.queue := by
  unfold Port.acknowledge consumeOverflow
  dsimp only
  split
  · split <;> rfl
  · split <;> rfl

theorem enqueued_queue (port : SimPort) (expiry : Ticks) (isHead : Bool)
    (queue : DeadlineQueue queueDepth) : (port.enqueued expiry isHead queue).device.queue = queue := by
  unfold enqueued
  split
  · rw [arm_device]
    rfl
  · rfl

theorem dequeued_queue (port : SimPort) (timer : TimerId) :
    (port.dequeued timer).device.queue = (port.device.queue.remove timer).2 := by
  unfold dequeued
  dsimp only
  split
  · exact rearm_queue _
  · rfl

theorem takeDue_fst (port : SimPort) :
    let now := (port.read port.device.config.line).1
    port.takeDue.1 = (port.device.queue.popExpired now).1.map fun entry => (entry, now) := by
  intro now
  rw [← read_queue port port.device.config.line]
  rfl

theorem takeDue_snd (port : SimPort) :
    let read := port.read port.device.config.line
    port.takeDue.2 = read.2.withQueue (port.device.queue.popExpired read.1).2 := by
  intro read
  rw [← read_queue port port.device.config.line]
  rfl

/-! ## Queues of a board -/

theorem Located.queueAt_eq (located : Located board id place device) :
    board.queueAt place = device.queue := by
  rw [Board.queueAt, located.portAt_eq]
  rfl

theorem requeues_putPort (board : SimBoard) (place : Fin maxDevices) (port : SimPort) :
    Requeues board (board.putPort place port) place port.device.queue where
  here := by rw [Board.queueAt, portAt_putPort_self]
  elsewhere other different := by
    rw [Board.queueAt, portAt_putPort_of_ne board port different]
    rfl

theorem queueAt_putPort_of_same (located : Located board id place device)
    (kept : port.device.queue = device.queue) (other : Fin maxDevices) :
    (board.putPort place port).queueAt other = board.queueAt other := by
  have requeues := requeues_putPort board place port
  by_cases same : other = place
  · rw [same, requeues.here, kept, located.queueAt_eq]
  · exact requeues.elsewhere other same

namespace SameBooks

theorem refl (scheduler : SimScheduler) : SameBooks scheduler scheduler := ⟨fun _ => rfl, rfl⟩

theorem trans (first : SameBooks before between) (second : SameBooks between after) :
    SameBooks before after :=
  ⟨fun place => (second.queues place).trans (first.queues place),
    second.timers.trans first.timers⟩

theorem of_sameApartFromLog (same : SameApartFromLog before after) : SameBooks before after :=
  ⟨fun _ => by rw [same.board], same.timers⟩

theorem modifyPeripheral {α : Type} {operation : Timer → α × Timer} {answer : α}
    (did : before.modifyPeripheral place operation = (answer, after)) : SameBooks before after := by
  have done : (before.modifyPeripheral place operation).2 = after := congrArg Prod.snd did
  subst done
  exact ⟨fun _ => rfl, rfl⟩

theorem takeActive {active : Bool} (did : before.takeActive place = (active, after)) :
    SameBooks before after := by
  unfold SimScheduler.takeActive at did
  simp only at did
  split at did
  · obtain ⟨-, rfl⟩ := Prod.mk.inj did
    exact ⟨fun _ => rfl, rfl⟩
  · obtain ⟨-, rfl⟩ := Prod.mk.inj did
    exact .refl _

theorem summons {allowed : Request BoardRequest → Prop} (summons : Summons allowed before id after) :
    SameBooks before after := by
  cases summons with
  | request => exact .refl _
  | line permitted serves active => exact takeActive active

theorem acknowledge {runs : Bool} (did : before.acknowledge id = (runs, after)) :
    SameBooks before after := by
  rcases acknowledge_cases did with ⟨-, -, rfl⟩ | ⟨place, device, located, -, timers, board⟩
  · exact .refl _
  · refine ⟨fun other => ?_, timers⟩
    rw [board]
    exact queueAt_putPort_of_same located (acknowledge_queue _) other

theorem finish (scheduler : SimScheduler) (id : DeviceId) (fired : Nat) :
    SameBooks scheduler (scheduler.finish id fired) := by
  rcases finish_cases scheduler id fired with ⟨-, same⟩ | ⟨place, device, located, timers, board⟩
  · rw [same]
    exact .refl _
  · refine ⟨fun other => ?_, timers⟩
    rw [board]
    exact queueAt_putPort_of_same located (rearm_queue _) other

theorem tryRead {result : Except TimerError Ticks} (did : before.tryRead id = (result, after)) :
    SameBooks before after := by
  rcases tryRead_cases did with ⟨-, -, rfl⟩ | ⟨place, device, located, -, timers, board⟩
  · exact .refl _
  · refine ⟨fun other => ?_, timers⟩
    rw [board]
    exact queueAt_putPort_of_same located (read_queue _ _) other

theorem delay {ticks : Ticks} (did : before.delay id ticks = (.ok (), after)) :
    SameBooks before after := by
  have reads := delay_reads did
  clear did
  induction reads with
  | refl => exact .refl _
  | tail _ read ih =>
    obtain ⟨now, tried⟩ := read
    exact ih.trans (.tryRead tried)

theorem init {frequency : Nat} {result : Except TimerError Unit}
    (did : before.init id frequency = (.ok result, after)) : SameBooks before after := by
  rcases init_cases did with ⟨-, -, rfl⟩ |
    ⟨place, device, prescaler, installed, controller, located, -, -, -, -, -, timers, board⟩
  · exact .refl _
  · refine ⟨fun other => ?_, timers⟩
    have located' : Located { before.board with clock := ⟨before.board.clock.starts + 1⟩ } id
        place device := ⟨located.id, located.device⟩
    rw [board]
    exact queueAt_putPort_of_same located' (rearm_queue _) other

theorem deinit {result : Except TimerError Unit} (did : before.deinit id = (result, after)) :
    SameBooks before after := by
  rcases deinit_cases did with ⟨-, -, rfl⟩ | ⟨place, device, located, -, timers, board⟩
  · exact .refl _
  · refine ⟨fun other => ?_, timers⟩
    rw [board]
    exact queueAt_putPort_of_same located rfl other

end SameBooks

/-! ## Starting, stopping and attaching -/

theorem enqueues_of_startAt {result : Except TimerError Unit}
    (did : before.startAt timer expiry = (result, after)) :
    (∃ error, result = .error error ∧ SameBooks before after) ∨
      ∃ place, result = .ok () ∧ Enqueues before timer expiry place after := by
  rcases startAt_cases did with ⟨error, failed, same⟩ |
    ⟨id, callback, place, device, isHead, queue, unlinked, attached, owner, located, inserted, done,
      timers, board⟩
  · exact .inl ⟨error, failed, .of_sameApartFromLog same⟩
  · refine .inr ⟨place, done, unlinked, ?_, ?_, ⟨isHead, queue, ?_, ?_⟩, timers⟩
    · rw [attached]
      rfl
    · rw [owner, located.id]
    · rw [located.queueAt_eq]
      exact inserted
    · have requeues := requeues_putPort before.board place
        ((before.board.port place device).enqueued expiry isHead queue)
      rw [enqueued_queue] at requeues
      rw [board]
      exact requeues

theorem SameBooks.enqueues (same : SameBooks before between)
    (enqueues : Enqueues between timer expiry place after) :
    Enqueues before timer expiry place after := by
  obtain ⟨unlinked, callable, owner, ⟨isHead, queue, inserted, requeues⟩, timers⟩ := enqueues
  rw [same.timers] at unlinked callable owner timers
  rw [same.queues] at inserted
  refine ⟨unlinked, callable, owner, ⟨isHead, queue, inserted, requeues.here, ?_⟩, timers⟩
  exact fun other different => (requeues.elsewhere other different).trans (same.queues other)

theorem enqueues_of_start {ticks : Ticks} {result : Except TimerError Unit}
    (did : before.start timer ticks = (result, after)) :
    (∃ error, result = .error error ∧ SameBooks before after) ∨
      ∃ now place, result = .ok () ∧ Enqueues before timer (now + ticks) place after := by
  rcases start_cases did with ⟨error, failed, rfl⟩ | ⟨id, now, between, -, tried, started⟩
  · exact .inl ⟨error, failed, .refl _⟩
  · have same := SameBooks.tryRead tried
    rcases enqueues_of_startAt started with ⟨error, failed, kept⟩ | ⟨place, done, enqueues⟩
    · exact .inl ⟨error, failed, same.trans kept⟩
    · exact .inr ⟨now, place, done, same.enqueues enqueues⟩

theorem unlinks_of_stop {result : Except TimerError Unit}
    (did : before.stop timer = (result, after)) :
    (∃ error, result = .error error ∧ SameBooks before after) ∨
      result = .ok () ∧ Unlinks before timer after := by
  rcases stop_cases did with ⟨unlinked, done, rfl⟩ | ⟨error, -, failed, rfl⟩ |
    ⟨id, place, device, linked, owner, located, done, timers, board⟩
  · exact .inr ⟨done, .idle unlinked (.refl _)⟩
  · exact .inl ⟨error, failed, .refl _⟩
  · refine .inr ⟨done, .waiting place linked ?_ ?_ timers⟩
    · rw [owner, located.id]
    · have requeues := requeues_putPort before.board place
        ((before.board.port place device).dequeued timer)
      rw [dequeued_queue] at requeues
      rw [board, located.queueAt_eq]
      exact requeues

/-- What becomes of the queues and the timers is read off the request and its reply. -/
theorem Answers.books {request : Request BoardRequest} {reply : Reply}
    (answers : Answers before request reply after) : Books before request reply after := by
  cases answers with
  | init did => exact .keep (.init did) fun _ => ⟨rfl, rfl⟩
  | deinit did => exact .keep (.deinit did) fun _ => ⟨rfl, rfl⟩
  | attach did =>
    rcases attach_cases did with ⟨error, rfl, rfl⟩ |
      ⟨place, device, between, -, rfl, stopped, board, timers⟩
    · exact .keep (.refl _) fun done => by cases done
    · rcases unlinks_of_stop stopped with ⟨error, failed, -⟩ | ⟨-, unlinks⟩
      · cases failed
      · exact .attach rfl rfl unlinks (fun _ => by rw [board]) timers
  | start did =>
    rcases enqueues_of_start did with ⟨error, rfl, same⟩ | ⟨now, place, rfl, enqueues⟩
    · exact .keep same fun done => by cases done
    · exact .start rfl rfl enqueues
  | startAt did =>
    rcases enqueues_of_startAt did with ⟨error, rfl, same⟩ | ⟨place, rfl, enqueues⟩
    · exact .keep same fun done => by cases done
    · exact .start rfl rfl enqueues
  | stop did =>
    rcases unlinks_of_stop did with ⟨error, rfl, same⟩ | ⟨rfl, unlinks⟩
    · exact .keep same fun done => by cases done
    · exact .stop rfl rfl unlinks
  | read did => exact .keep (.tryRead (read_ok did)) fun _ => ⟨rfl, rfl⟩
  | tryRead did => exact .keep (.tryRead did) fun _ => ⟨rfl, rfl⟩
  | delay did => exact .keep (.delay did) fun _ => ⟨rfl, rfl⟩
  | access place did => exact .keep (.modifyPeripheral did) fun _ => ⟨rfl, rfl⟩
  | setPending => exact .keep ⟨fun _ => rfl, rfl⟩ fun _ => ⟨rfl, rfl⟩
  | takePending did =>
    obtain ⟨-, rfl⟩ := Prod.mk.inj did
    exact .keep ⟨fun _ => rfl, rfl⟩ fun _ => ⟨rfl, rfl⟩
  | _ => exact .keep (.refl _) fun _ => ⟨rfl, rfl⟩

/-- Whatever waits goes on waiting unless a request takes it out. -/
theorem Books.waits {request : Request BoardRequest} {reply : Reply} {entry : QueueEntry}
    (books : Books before request reply after)
    (waits : entry ∈ (before.board.queueAt place).entries) :
    entry ∈ (after.board.queueAt place).entries ∨
      unlinks? request = some entry.timer ∧ reply = .done := by
  have unlinked {timer : TimerId} {after : SimScheduler} (unlinks : Unlinks before timer after) :
      entry ∈ (after.board.queueAt place).entries ∨ entry.timer = timer := by
    cases unlinks with
    | idle unlinked same =>
      rw [same.queues]
      exact .inl waits
    | waiting other linked owner removed timers =>
      by_cases here : place = other
      · subst here
        rw [removed.here]
        exact DeadlineQueue.mem_remove waits
      · rw [removed.elsewhere place here]
        exact .inl waits
  cases books with
  | keep same idle =>
    rw [same.queues]
    exact .inl waits
  | @start _ _ other starts done enqueues =>
    obtain ⟨isHead, queue, inserted, requeues⟩ := enqueues.inserted
    by_cases here : place = other
    · subst here
      rw [requeues.here]
      exact .inl (DeadlineQueue.mem_insert inserted waits)
    · rw [requeues.elsewhere place here]
      exact .inl waits
  | stop stops done unlinks =>
    exact (unlinked unlinks).imp_right fun same => ⟨by rw [stops, same]; rfl, done⟩
  | attach attaches done unlinks queues timers =>
    rw [queues]
    exact (unlinked unlinks).imp_right fun same => ⟨by rw [attaches, same]; rfl, done⟩

/-! ## Taking due timers -/

theorem pops_of_takeDue {due : Option Scheduler.DueTimer}
    (did : before.takeDue id = (due, after)) :
    (due = none ∧ SameBooks before after) ∨
      ∃ (place : Fin maxDevices) (entry : QueueEntry) (now : Ticks), place.val = id ∧
        due = some (remembered before.timers entry now) ∧
        Tick.reached now entry.expiry = true ∧ Pops before place entry after := by
  rcases takeDue_cases did with ⟨-, none, rfl⟩ | ⟨place, device, located, board, taken⟩
  · exact .inl ⟨none, .refl _⟩
  · let now := ((before.board.port place device).read device.config.line).1
    have requeues := requeues_putPort before.board place (before.board.port place device).takeDue.2
    rw [← board, takeDue_snd] at requeues
    change Requeues before.board after.board place (device.queue.popExpired now).2 at requeues
    rw [takeDue_fst] at taken
    change ((device.queue.popExpired now).1.map fun entry => (entry, now)) = none ∧ _ ∨
      ∃ _ _, ((device.queue.popExpired now).1.map fun entry => (entry, now)) = _ ∧ _ at taken
    rw [← located.queueAt_eq] at requeues taken
    rcases taken with ⟨kept, none, timers⟩ | ⟨entry, now, taken, some, timers⟩
    · rw [Option.map_eq_none_iff] at kept
      rw [DeadlineQueue.popExpired_of_none kept] at requeues
      refine .inl ⟨none, fun other => ?_, timers⟩
      by_cases same : other = place
      · rw [same]
        exact requeues.here
      · exact requeues.elsewhere other same
    · rw [Option.map_eq_some_iff] at taken
      obtain ⟨head, taken, same⟩ := taken
      obtain ⟨rfl, rfl⟩ := Prod.mk.inj same
      obtain ⟨entries, reached⟩ := DeadlineQueue.popExpired_of_some taken
      exact .inr ⟨place, head, now, located.id, some, reached, ⟨_, entries, requeues⟩, timers⟩

end Simulated

end DeadlineTimers
