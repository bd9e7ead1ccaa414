import DeadlineTimers.Proofs.PortSteps
import DeadlineTimers.Proofs.Moments

/-!
# What the scheduling operations do

For each operation of the scheduler all that it can come to: which errors leave everything as it was,
and what becomes of the port and the software timer that it works on when it succeeds. The log is left
out, so two schedulers are compared by their boards and their timers.
-/

namespace DeadlineTimers.Simulated

structure SameApartFromLog (before after : SimScheduler) : Prop where
  board : after.board = before.board
  timers : after.timers = before.timers

structure Located (board : SimBoard) (id : DeviceId) (place : Fin maxDevices) (device : Device) :
    Prop where
  id : place.val = id
  device : board.devices.get place = some device

variable {before after : SimScheduler} {id : DeviceId} {timer : TimerId}

namespace SameApartFromLog

variable {scheduler : SimScheduler} {place : Fin maxDevices} {port : SimPort}

theorem refl (scheduler : SimScheduler) : SameApartFromLog scheduler scheduler := ⟨rfl, rfl⟩

theorem trans (first : SameApartFromLog before scheduler)
    (second : SameApartFromLog scheduler after) : SameApartFromLog before after :=
  ⟨second.board.trans first.board, second.timers.trans first.timers⟩

theorem noteIf (condition : Prop) [Decidable condition] (message : Message) :
    SameApartFromLog scheduler (if condition then scheduler.note message else scheduler) := by
  split
  · exact ⟨rfl, rfl⟩
  · exact .refl _

theorem noteUnlessOwned (owner : Option (Option DeviceId)) (id : DeviceId) :
    SameApartFromLog scheduler
      (match owner with
      | some owner =>
        if owner = some id then scheduler else scheduler.note (.foreignHead id owner)
      | none => scheduler) := by
  split
  · split
    · exact .refl _
    · exact ⟨rfl, rfl⟩
  · exact .refl _

theorem putPort (same : SameApartFromLog before scheduler) :
    (scheduler.putPort place port).board = before.board.putPort place port ∧
      (scheduler.putPort place port).timers = before.timers := by
  rw [← same.board, ← same.timers]
  exact ⟨rfl, rfl⟩

end SameApartFromLog

theorem located_of_locate {place : Fin maxDevices} {device : Device}
    (found : before.board.locate id = .ok (place, device)) :
    Located before.board id place device := by
  obtain ⟨same, registered⟩ := (Board.locate_eq_ok_iff _ _ _ _).1 found
  exact ⟨same, registered⟩

@[simp] theorem board_noteRearming (scheduler : SimScheduler)
    (rearmed : Option (Ticks × ArmReport)) :
    (scheduler.noteRearming rearmed).board = scheduler.board := by
  unfold Scheduler.noteRearming
  split <;> rfl

@[simp] theorem timers_noteRearming (scheduler : SimScheduler)
    (rearmed : Option (Ticks × ArmReport)) :
    (scheduler.noteRearming rearmed).timers = scheduler.timers := by
  unfold Scheduler.noteRearming
  split <;> rfl

@[simp] theorem board_note (scheduler : SimScheduler) (message : Message) :
    (scheduler.note message).board = scheduler.board := rfl

@[simp] theorem timers_note (scheduler : SimScheduler) (message : Message) :
    (scheduler.note message).timers = scheduler.timers := rfl

/-! ## Operations on a port -/

theorem onPort_cases {α : Type} {operation : SimPort → α × SimPort} {result : Except TimerError α}
    (did : before.onPort id operation = (result, after)) :
    (∃ error, before.board.locate id = .error error ∧ result = .error error ∧ after = before) ∨
      ∃ place device, Located before.board id place device ∧
        result = .ok (operation (before.board.port place device)).1 ∧
        after.timers = before.timers ∧
        after.board =
          before.board.putPort place (operation (before.board.port place device)).2 := by
  unfold Scheduler.onPort Board.onPort at did
  cases found : before.board.locate id with
  | error error =>
    rw [found] at did
    obtain ⟨rfl, rfl⟩ := Prod.mk.inj did
    exact .inl ⟨error, rfl, rfl, rfl⟩
  | ok located =>
    obtain ⟨place, device⟩ := located
    rw [found] at did
    obtain ⟨rfl, rfl⟩ := Prod.mk.inj did
    exact .inr ⟨place, device, located_of_locate found, rfl, rfl, rfl⟩

theorem tryRead_cases {result : Except TimerError Ticks}
    (did : before.tryRead id = (result, after)) :
    (∃ error, result = .error error ∧ after = before) ∨
      ∃ place device, Located before.board id place device ∧
        result = .ok ((before.board.port place device).read device.config.line).1 ∧
        after.timers = before.timers ∧
        after.board =
          before.board.putPort place ((before.board.port place device).read device.config.line).2 := by
  rcases onPort_cases did with ⟨error, -, failed, same⟩ | ok
  · exact .inl ⟨error, failed, same⟩
  · exact .inr ok

theorem read_ok {now : Ticks} (did : before.read id = (.ok now, after)) :
    before.tryRead id = (.ok now, after) := by
  unfold Scheduler.read at did
  split at did
  · next now' after' tried =>
    obtain ⟨same, rfl⟩ := Prod.mk.inj did
    obtain rfl := Except.ok.inj same
    exact tried
  · cases congrArg Prod.fst did

/-- Waiting until a deadline is reading the tick some number of times. -/
theorem spin_reads {deadline : Ticks} {reads : Nat}
    (did : before.spin id deadline reads = (.ok (), after)) :
    Relation.ReflTransGen (fun before after : SimScheduler =>
      ∃ now, before.tryRead id = (.ok now, after)) before after := by
  induction reads generalizing before with
  | zero => cases congrArg Prod.fst did
  | succ reads ih =>
    unfold Scheduler.spin at did
    split at did
    · cases congrArg Prod.fst did
    · next now between read =>
      have first := read_ok read
      split at did
      · obtain ⟨-, rfl⟩ := Prod.mk.inj did
        exact .single ⟨now, first⟩
      · exact (ih did).head ⟨now, first⟩

theorem delay_reads {ticks : Ticks} (did : before.delay id ticks = (.ok (), after)) :
    Relation.ReflTransGen (fun before after : SimScheduler =>
      ∃ now, before.tryRead id = (.ok now, after)) before after := by
  unfold Scheduler.delay at did
  split at did
  · cases congrArg Prod.fst did
  · next now between read => exact (spin_reads did).head ⟨now, read_ok read⟩

/-! ## Devices -/

theorem init_cases {frequency : Nat} {result : Except TimerError Unit}
    (did : before.init id frequency = (.ok result, after)) :
    (∃ error, result = .error error ∧ after = before) ∨
      ∃ place device prescaler installed controller, Located before.board id place device ∧
        device.enabled = false ∧ result = .ok () ∧
        Prescaler.select device.config.maxFrequency frequency = .ok prescaler ∧
        InterruptController.install before.board.controller device.config.line
          device.config.priority id = some installed ∧
        InterruptController.enable installed device.config.line = some controller ∧
        after.timers = before.timers ∧
        after.board =
          ({ before.board with clock := ⟨before.board.clock.starts + 1⟩ } : SimBoard).putPort place
            ((before.board.port place device).launched prescaler controller).rearm.2 := by
  unfold Scheduler.init at did
  split at did
  · obtain ⟨same, rfl⟩ := Prod.mk.inj did
    obtain rfl := Except.ok.inj same
    exact .inl ⟨_, rfl, rfl⟩
  · next place device found =>
    split at did
    · obtain ⟨same, rfl⟩ := Prod.mk.inj did
      obtain rfl := Except.ok.inj same
      exact .inl ⟨_, rfl, rfl⟩
    · next stopped =>
      simp only at did
      split at did
      · obtain ⟨same, rfl⟩ := Prod.mk.inj did
        obtain rfl := Except.ok.inj same
        exact .inl ⟨_, rfl, rfl⟩
      · next prescaler selected =>
        split at did
        · cases congrArg Prod.fst did
        · next crystalStarted clock ready =>
          obtain ⟨rfl, rfl⟩ := Prod.mk.inj (Option.some.inj ready)
          simp only [Bool.false_eq_true, ↓reduceIte] at did
          split at did
          · cases congrArg Prod.fst did
          · next installed install =>
            split at did
            · cases congrArg Prod.fst did
            · next controller enable =>
              obtain ⟨same, rfl⟩ := Prod.mk.inj did
              obtain rfl := Except.ok.inj same
              refine .inr ⟨place, device, prescaler, installed, controller,
                located_of_locate found, by simpa using stopped, rfl, selected, install, enable,
                ?_, ?_⟩
              · simp [Scheduler.putPort]
              · simp [Scheduler.putPort]
                rfl

theorem deinit_cases {result : Except TimerError Unit}
    (did : before.deinit id = (result, after)) :
    (∃ error, result = .error error ∧ after = before) ∨
      ∃ place device, Located before.board id place device ∧ result = .ok () ∧
        after.timers = before.timers ∧
        after.board =
          before.board.putPort place (before.board.port place device).shutDown := by
  unfold Scheduler.deinit at did
  split at did
  · obtain ⟨rfl, rfl⟩ := Prod.mk.inj did
    exact .inl ⟨_, rfl, rfl⟩
  · next place device found =>
    simp only at did
    split at did
    · obtain ⟨rfl, rfl⟩ := Prod.mk.inj did
      exact .inr ⟨place, device, located_of_locate found, rfl, rfl, rfl⟩
    · obtain ⟨rfl, rfl⟩ := Prod.mk.inj did
      exact .inr ⟨place, device, located_of_locate found, rfl, rfl, rfl⟩

/-! ## Timers -/

theorem startAt_cases {expiry : Ticks} {result : Except TimerError Unit}
    (did : before.startAt timer expiry = (result, after)) :
    (∃ error, result = .error error ∧ SameApartFromLog before after) ∨
      ∃ id callback place device isHead queue,
        (before.timers.get timer).linked = false ∧
        (before.timers.get timer).callback = some callback ∧
        (before.timers.get timer).device = some id ∧ Located before.board id place device ∧
        device.queue.insert timer expiry = .ok (isHead, queue) ∧ result = .ok () ∧
        after.timers =
          before.timers.set timer { before.timers.get timer with expiry, linked := true } ∧
        after.board = before.board.putPort place
          ((before.board.port place device).enqueued expiry isHead queue) := by
  unfold Scheduler.startAt at did
  simp only at did
  split at did
  · obtain ⟨rfl, rfl⟩ := Prod.mk.inj did
    exact .inl ⟨_, rfl, .refl _⟩
  · next unlinked =>
    split at did
    · obtain ⟨rfl, rfl⟩ := Prod.mk.inj did
      exact .inl ⟨_, rfl, .refl _⟩
    · next callable =>
      obtain ⟨callback, attached⟩ : ∃ callback,
          (before.timers.get timer).callback = some callback := by
        simpa [Option.isNone_iff_eq_none, ← ne_eq, Option.ne_none_iff_exists'] using callable
      split at did
      · obtain ⟨rfl, rfl⟩ := Prod.mk.inj did
        exact .inl ⟨_, rfl, .refl _⟩
      · next id owner =>
        split at did
        · obtain ⟨rfl, rfl⟩ := Prod.mk.inj did
          exact .inl ⟨_, rfl, .refl _⟩
        · next place device found =>
          split at did
          · obtain ⟨rfl, rfl⟩ := Prod.mk.inj did
            exact .inl ⟨_, rfl, rfl, rfl⟩
          · next isHead queue inserted =>
            refine .inr ⟨id, callback, place, device, isHead, queue, by simpa using unlinked,
              attached, owner, located_of_locate found, inserted, ?_⟩
            split at did
            · next arms =>
              obtain ⟨rfl, rfl⟩ := Prod.mk.inj did
              refine ⟨rfl, rfl, ?_⟩
              have arms' : (isHead && (before.board.port place device).device.enabled) = true :=
                arms
              rw [Port.enqueued, if_pos arms']
              rfl
            · next behind =>
              obtain ⟨rfl, rfl⟩ := Prod.mk.inj did
              refine ⟨rfl, rfl, ?_⟩
              have behind' : ¬(isHead && (before.board.port place device).device.enabled) = true :=
                behind
              rw [Port.enqueued, if_neg behind']
              rfl

theorem start_cases {ticks : Ticks} {result : Except TimerError Unit}
    (did : before.start timer ticks = (result, after)) :
    (∃ error, result = .error error ∧ after = before) ∨
      ∃ id now between, (before.timers.get timer).device = some id ∧
        before.tryRead id = (.ok now, between) ∧
        between.startAt timer (now + ticks) = (result, after) := by
  unfold Scheduler.start at did
  split at did
  · obtain ⟨rfl, rfl⟩ := Prod.mk.inj did
    exact .inl ⟨_, rfl, rfl⟩
  · split at did
    · obtain ⟨rfl, rfl⟩ := Prod.mk.inj did
      exact .inl ⟨_, rfl, rfl⟩
    · next id owner =>
      split at did
      · next error between tried =>
        obtain ⟨rfl, rfl⟩ := Prod.mk.inj did
        rcases tryRead_cases tried with ⟨error, -, same⟩ | ⟨place, device, -, ok, -⟩
        · exact .inl ⟨_, rfl, same⟩
        · cases ok
      · next now between tried => exact .inr ⟨id, now, between, owner, tried, did⟩

theorem stop_cases {result : Except TimerError Unit}
    (did : before.stop timer = (result, after)) :
    ((before.timers.get timer).linked = false ∧ result = .ok () ∧ after = before) ∨
      (∃ error, (before.timers.get timer).linked = true ∧ result = .error error ∧
        after = before) ∨
      ∃ id place device, (before.timers.get timer).linked = true ∧
        (before.timers.get timer).device = some id ∧ Located before.board id place device ∧
        result = .ok () ∧
        after.timers =
          before.timers.set timer { before.timers.get timer with linked := false } ∧
        after.board =
          before.board.putPort place ((before.board.port place device).dequeued timer) := by
  unfold Scheduler.stop at did
  simp only at did
  split at did
  · next unlinked =>
    obtain ⟨rfl, rfl⟩ := Prod.mk.inj did
    exact .inl ⟨by simpa using unlinked, rfl, rfl⟩
  · next linked =>
    have linked : (before.timers.get timer).linked = true := by simpa using linked
    refine .inr ?_
    split at did
    · obtain ⟨rfl, rfl⟩ := Prod.mk.inj did
      exact .inl ⟨_, linked, rfl, rfl⟩
    · next id owner =>
      split at did
      · obtain ⟨rfl, rfl⟩ := Prod.mk.inj did
        exact .inl ⟨_, linked, rfl, rfl⟩
      · next place device found =>
        refine .inr ⟨id, place, device, linked, owner, located_of_locate found, ?_⟩
        let unlinked : SimScheduler := { before with
          timers := before.timers.set timer { before.timers.get timer with linked := false } }
        have stopped : SameApartFromLog unlinked
            ((if (device.queue.remove timer).1.isNone = true then unlinked.note (.strayTimer id)
              else unlinked).note (.stopped id (before.timers.get timer).expiry)) :=
          (SameApartFromLog.noteIf _ _).trans ⟨rfl, rfl⟩
        split at did
        · next head =>
          have checked := stopped.trans (.noteUnlessOwned
            ((device.queue.remove timer).2.peekEarliest.map fun head =>
              (((if (device.queue.remove timer).1.isNone = true then unlinked.note (.strayTimer id)
                else unlinked).note (.stopped id (before.timers.get timer).expiry)).timers.get
                  head.timer).device) id)
          split at did
          · next runs =>
            obtain ⟨rfl, rfl⟩ := Prod.mk.inj did
            have arms : ((before.board.port place device).device.queue.isHead timer &&
                (before.board.port place device).device.enabled) = true := by
              rw [Bool.and_eq_true]
              exact ⟨head, runs⟩
            rw [Port.dequeued, if_pos arms]
            exact ⟨rfl, (timers_noteRearming _ _).trans checked.putPort.2,
              (board_noteRearming _ _).trans checked.putPort.1⟩
          · next idle =>
            obtain ⟨rfl, rfl⟩ := Prod.mk.inj did
            have rests : ¬((before.board.port place device).device.queue.isHead timer &&
                (before.board.port place device).device.enabled) = true := by
              rw [Bool.and_eq_true]
              exact fun both => idle both.2
            rw [Port.dequeued, if_neg rests]
            exact ⟨rfl, checked.putPort.2, checked.putPort.1⟩
        · next behind =>
          obtain ⟨rfl, rfl⟩ := Prod.mk.inj did
          have rests : ¬((before.board.port place device).device.queue.isHead timer &&
              (before.board.port place device).device.enabled) = true := by
            rw [Bool.and_eq_true]
            exact fun both => behind both.1
          rw [Port.dequeued, if_neg rests]
          exact ⟨rfl, stopped.putPort.2, stopped.putPort.1⟩

theorem attach_cases {callback : CallbackId} {arg : Nat} {result : Except TimerError Unit}
    (did : before.attach id timer callback arg = (result, after)) :
    (∃ error, result = .error error ∧ after = before) ∨
      ∃ place device between, Located before.board id place device ∧ result = .ok () ∧
        before.stop timer = (.ok (), between) ∧ after.board = between.board ∧
        after.timers = between.timers.modify timer fun slot =>
          { slot with callback := some callback, arg, device := some id, linked := false } := by
  unfold Scheduler.attach at did
  split at did
  · obtain ⟨rfl, rfl⟩ := Prod.mk.inj did
    exact .inl ⟨_, rfl, rfl⟩
  · next located found =>
    split at did
    · next error between stop =>
      obtain ⟨rfl, rfl⟩ := Prod.mk.inj did
      rcases stop_cases stop with ⟨-, ok, -⟩ | ⟨_, -, -, same⟩ | ⟨_, _, _, -, -, -, ok, -⟩
      · cases ok
      · exact .inl ⟨_, rfl, same⟩
      · cases ok
    · next between stop =>
      obtain ⟨rfl, rfl⟩ := Prod.mk.inj did
      exact .inr ⟨located.1, located.2, between, located_of_locate found, rfl, stop, rfl, rfl⟩

/-! ## Steps of the handler -/

theorem acknowledge_cases {runs : Bool} (did : before.acknowledge id = (runs, after)) :
    ((∃ error, before.board.locate id = .error error) ∧ runs = false ∧ after = before) ∨
      ∃ place device, Located before.board id place device ∧
        runs = (before.board.port place device).acknowledge.1 ∧ after.timers = before.timers ∧
        after.board =
          before.board.putPort place (before.board.port place device).acknowledge.2 := by
  unfold Scheduler.acknowledge at did
  split at did
  · next runs' after' acknowledged =>
    obtain ⟨rfl, rfl⟩ := Prod.mk.inj did
    rcases onPort_cases acknowledged with ⟨_, -, ok, -⟩ | ⟨place, device, located, ok, rest⟩
    · cases ok
    · exact .inr ⟨place, device, located, Except.ok.inj ok, rest⟩
  · next error after' acknowledged =>
    obtain ⟨rfl, rfl⟩ := Prod.mk.inj did
    rcases onPort_cases acknowledged with ⟨error, missing, -, same⟩ | ⟨_, _, -, ok, -⟩
    · exact .inl ⟨⟨error, missing⟩, rfl, same⟩
    · cases ok

/-- What a handler has in hand after taking a timer: the callback as the timer remembers it. -/
def remembered (timers : TimerTable) (entry : QueueEntry) (now : Ticks) : Scheduler.DueTimer :=
  let slot := timers.get entry.timer
  ⟨entry, now, slot.callback.map fun callback => (callback, slot.arg)⟩

theorem takeDue_cases {due : Option Scheduler.DueTimer}
    (did : before.takeDue id = (due, after)) :
    ((∃ error, before.board.locate id = .error error) ∧ due = none ∧ after = before) ∨
      ∃ place device, Located before.board id place device ∧
        after.board = before.board.putPort place (before.board.port place device).takeDue.2 ∧
        (((before.board.port place device).takeDue.1 = none ∧ due = none ∧
            after.timers = before.timers) ∨
          ∃ entry now, (before.board.port place device).takeDue.1 = some (entry, now) ∧
            due = some (remembered before.timers entry now) ∧
            after.timers = before.timers.set entry.timer
              { before.timers.get entry.timer with linked := false }) := by
  unfold Scheduler.takeDue at did
  split at did
  · next entry now after' taken =>
    obtain ⟨rfl, rfl⟩ := Prod.mk.inj did
    rcases onPort_cases taken with ⟨_, -, ok, -⟩ | ⟨place, device, located, ok, timers, board⟩
    · cases ok
    · refine .inr ⟨place, device, located, board, .inr ⟨entry, now, (Except.ok.inj ok).symm, ?_⟩⟩
      rw [← timers]
      exact ⟨rfl, rfl⟩
  · next after' taken =>
    obtain ⟨rfl, rfl⟩ := Prod.mk.inj did
    rcases onPort_cases taken with ⟨_, -, ok, -⟩ | ⟨place, device, located, ok, timers, board⟩
    · cases ok
    · exact .inr ⟨place, device, located, board, .inl ⟨(Except.ok.inj ok).symm, rfl, timers⟩⟩
  · next error after' taken =>
    obtain ⟨rfl, rfl⟩ := Prod.mk.inj did
    rcases onPort_cases taken with ⟨error, missing, -, same⟩ | ⟨_, _, -, ok, -⟩
    · exact .inl ⟨⟨error, missing⟩, rfl, same⟩
    · cases ok

theorem finish_cases (scheduler : SimScheduler) (id : DeviceId) (fired : Nat) :
    ((∃ error, scheduler.board.locate id = .error error) ∧ scheduler.finish id fired = scheduler) ∨
      ∃ place device, Located scheduler.board id place device ∧
        (scheduler.finish id fired).timers = scheduler.timers ∧
        (scheduler.finish id fired).board =
          scheduler.board.putPort place (scheduler.board.port place device).rearm.2 := by
  unfold Scheduler.finish
  split
  · next rearmed after' finished =>
    rcases onPort_cases finished with ⟨_, -, ok, -⟩ | ⟨place, device, located, -, timers, board⟩
    · cases ok
    · refine .inr ⟨place, device, located, ?_, ?_⟩
      · rw [timers_note, timers_noteRearming, timers]
      · rw [board_note, board_noteRearming, board]
  · next error after' finished =>
    rcases onPort_cases finished with ⟨error, missing, -, same⟩ | ⟨_, _, -, ok, -⟩
    · exact .inl ⟨⟨error, missing⟩, same⟩
    · cases ok

end DeadlineTimers.Simulated
