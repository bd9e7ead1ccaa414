import DeadlineTimers.Proofs.LinkedTimers

/-!
# Records of a run

The history keeps the events of a run, but not the schedulers that they met. A record keeps both, so it
tells what an event did to a software timer: whether the timer waited at that moment, and for which
deadline it was started. Nothing but an event changes a software timer.
-/

namespace DeadlineTimers.Simulated

/-- An event with the scheduler that it met. -/
structure Record where
  met : SimScheduler
  event : Event BoardRequest

/-- What an event is for a timer. Only a successful start or attachment counts as one. -/
inductive Deed where
  | starts
  | fires
  | stops
  | attaches (callback : CallbackId) (arg : Nat)
  | nothing
  deriving DecidableEq

namespace Deed

def withdraws : Deed → Bool
  | stops => true
  | attaches _ _ => true
  | _ => false

def attachment? : Deed → Option (CallbackId × Nat)
  | attaches callback arg => some (callback, arg)
  | _ => none

end Deed

def deedOf (timer : TimerId) (reply : Reply) : Request BoardRequest → Deed
  | .start other _ => if other = timer ∧ reply = .done then .starts else .nothing
  | .startAt other _ => if other = timer ∧ reply = .done then .starts else .nothing
  | .stop other => if other = timer then .stops else .nothing
  | .attach _ other callback arg =>
    if other = timer ∧ reply = .done then .attaches callback arg else .nothing
  | _ => .nothing

def deadlineOf? (scheduler : SimScheduler) : Request BoardRequest → Option Ticks
  | .startAt _ expiry => some expiry
  | .start timer ticks =>
    (scheduler.timers.get timer).device.bind fun id =>
      (scheduler.tryRead id).1.toOption.map (· + ticks)
  | _ => none

namespace Record

def deed (record : Record) (timer : TimerId) : Deed :=
  match record.event with
  | .fired firing => if firing.timer = timer then .fires else .nothing
  | .answered _ call reply => deedOf timer reply call.request

def deadline? (record : Record) : Option Ticks :=
  match record.event with
  | .fired _ => none
  | .answered _ call _ => deadlineOf? record.met call.request

def cancels (record : Record) (timer : TimerId) : Bool :=
  (record.met.timers.get timer).linked && (record.deed timer).withdraws

/-- What a record says becomes of a software timer. -/
def Turns (record : Record) (timer : TimerId) (before after : TimerSlot) : Prop :=
  match record.deed timer with
  | .starts => before.linked = false ∧ ∃ expiry, record.deadline? = some expiry ∧
      after = { before with expiry, linked := true }
  | .fires => before.linked = true ∧ after = { before with linked := false }
  | .stops => after = { before with linked := false }
  | .attaches callback arg => ∃ id,
      after = { before with callback := some callback, arg, device := some id, linked := false }
  | .nothing => after = before

end Record

variable {before after : SimScheduler} {timer : TimerId} {request : Request BoardRequest}
  {reply : Reply}

/-! ## What events do -/

/-- What happens to a scheduler when the history grows. -/
inductive Happens (before : SimScheduler) : Event BoardRequest → SimScheduler → Prop where
  | answered {after caller request reply} (answers : Answers before request reply after) :
      Happens before (.answered caller ⟨0, request⟩ reply) after
  | reported {caller call reply} (runs : runsHandlers call.request = true) :
      Happens before (.answered caller call reply) before
  | fired {after id entry now callback arg}
      (takes : before.takeDue id = (some ⟨entry, now, some (callback, arg)⟩, after)) :
      Happens before (.fired ⟨0, id, entry.timer, entry.expiry, now, callback, arg⟩) after

theorem timers_of_answers (answers : Answers before request reply after)
    (starts : starts? request = none) (unlinks : unlinks? request = none) :
    after.timers = before.timers := by
  cases answers.books with
  | keep same => exact same.timers
  | start starts' =>
    rw [starts] at starts'
    cases starts'
  | stop stops =>
    rw [stops] at unlinks
    cases unlinks
  | attach attaches =>
    rw [attaches] at unlinks
    cases unlinks

theorem Unlinks.get_eq (unlinks : Unlinks before timer after) :
    after.timers.get timer = { before.timers.get timer with linked := false } := by
  cases unlinks with
  | idle unlinked same =>
    rw [same.timers, ← unlinked]
  | waiting place linked owner removed timers => rw [timers, TimerTable.get_set_self]

theorem Unlinks.get_of_ne {other : TimerId} (unlinks : Unlinks before timer after)
    (different : other ≠ timer) : after.timers.get other = before.timers.get other := by
  cases unlinks with
  | idle unlinked same => rw [same.timers]
  | waiting place linked owner removed timers =>
    rw [timers, TimerTable.get_set_of_ne _ _ different]

/-- A start that succeeds, and the deadline that it sets. -/
theorem enqueues_of_answers (answers : Answers before request reply after) (done : reply = .done)
    (starts : starts? request = some timer) :
    ∃ expiry place, deadlineOf? before request = some expiry ∧
      Enqueues before timer expiry place after := by
  cases answers with
  | @start _ _ ticks _ did =>
    obtain rfl := Option.some.inj starts
    rcases start_cases did with ⟨error, rfl, -⟩ | ⟨id, now, between, owner, tried, started⟩
    · cases done
    rcases enqueues_of_startAt started with ⟨error, rfl, -⟩ | ⟨place, rfl, enqueues⟩
    · cases done
    · refine ⟨now + ticks, place, ?_, (SameBooks.tryRead tried).enqueues enqueues⟩
      rw [deadlineOf?, owner, Option.bind_some, tried]
      rfl
  | @startAt _ _ expiry _ did =>
    obtain rfl := Option.some.inj starts
    rcases enqueues_of_startAt did with ⟨error, rfl, -⟩ | ⟨place, rfl, enqueues⟩
    · cases done
    · exact ⟨expiry, place, rfl, enqueues⟩
  | _ => cases starts

/-- A record of an answered start, for any timer. -/
theorem turns_of_start {caller : Option Nat} {started other : TimerId}
    (answers : Answers before request reply after) (starts : starts? request = some started)
    (deed : deedOf other reply request =
      if started = other ∧ reply = .done then .starts else .nothing) :
    Record.Turns ⟨before, .answered caller ⟨0, request⟩ reply⟩ other (before.timers.get other)
      (after.timers.get other) := by
  unfold Record.Turns Record.deed
  simp only [deed]
  by_cases done : reply = .done
  · obtain ⟨expiry, place, deadline, enqueues⟩ := enqueues_of_answers answers done starts
    by_cases same : started = other
    · subst same
      simp only [done, and_self, ↓reduceIte]
      refine ⟨enqueues.unlinked, expiry, deadline, ?_⟩
      rw [enqueues.timers, TimerTable.get_set_self]
    · simp only [same, false_and, ↓reduceIte]
      rw [enqueues.timers, TimerTable.get_set_of_ne _ _ (Ne.symm same)]
  · simp only [done, and_false, ↓reduceIte]
    cases answers.books with
    | keep same => rw [same.timers]
    | start _ done' => exact absurd done' done
    | stop _ done' => exact absurd done' done
    | attach _ done' => exact absurd done' done

theorem turns_of_stop (coherent : Coherent before) {caller : Option Nat} {stopped other : TimerId}
    (answers : Answers before (.stop stopped) reply after) :
    Record.Turns ⟨before, .answered caller ⟨0, .stop stopped⟩ reply⟩ other (before.timers.get other)
      (after.timers.get other) := by
  cases answers with
  | stop did =>
    have done := coherent.stop_ok stopped
    rw [did] at done
    rcases unlinks_of_stop did with ⟨error, failed, -⟩ | ⟨-, unlinks⟩
    · rw [failed] at done
      cases done
    unfold Record.Turns Record.deed deedOf
    by_cases same : stopped = other
    · subst same
      simp only [↓reduceIte]
      exact unlinks.get_eq
    · simp only [same, ↓reduceIte]
      exact unlinks.get_of_ne (Ne.symm same)

theorem turns_of_attach {caller : Option Nat} {id : DeviceId} {attached other : TimerId}
    {callback : CallbackId} {arg : Nat}
    (answers : Answers before (.attach id attached callback arg) reply after) :
    Record.Turns ⟨before, .answered caller ⟨0, .attach id attached callback arg⟩ reply⟩ other
      (before.timers.get other) (after.timers.get other) := by
  unfold Record.Turns Record.deed deedOf
  cases answers.books with
  | keep same idle =>
    have rejected : reply ≠ .done := fun done => by cases (idle done).2
    simp only [rejected, and_false, ↓reduceIte]
    rw [same.timers]
  | start starts => cases starts
  | stop stops => cases stops
  | attach attaches done unlinks _ timers =>
    obtain ⟨rfl, rfl, rfl, rfl⟩ := Request.attach.inj attaches
    subst done
    by_cases same : attached = other
    · subst same
      simp only [and_self, ↓reduceIte]
      refine ⟨id, ?_⟩
      rw [timers, TimerTable.modify, TimerTable.get_set_self, unlinks.get_eq]
    · simp only [same, false_and, ↓reduceIte]
      rw [timers, TimerTable.modify, TimerTable.get_set_of_ne _ _ (Ne.symm same)]
      exact unlinks.get_of_ne (Ne.symm same)

theorem turns_of_fired {id : DeviceId} {entry : QueueEntry} {now : Ticks} {callback : CallbackId}
    {arg : Nat} (coherent : Coherent before)
    (takes : before.takeDue id = (some ⟨entry, now, some (callback, arg)⟩, after)) (other : TimerId) :
    Record.Turns ⟨before, .fired ⟨0, id, entry.timer, entry.expiry, now, callback, arg⟩⟩ other
      (before.timers.get other) (after.timers.get other) := by
  unfold Record.Turns Record.deed
  rcases pops_of_takeDue takes with ⟨none, -⟩ | ⟨place, entry', now', -, some, -, pops⟩
  · cases none
  obtain ⟨rfl, -, -⟩ := Scheduler.DueTimer.mk.inj (Option.some.inj some)
  obtain ⟨⟨queue, entries, -⟩, timers⟩ := pops
  have waits : entry ∈ (before.board.queueAt place).entries := by
    rw [entries]
    exact List.mem_cons_self
  by_cases same : entry.timer = other
  · subst same
    simp only [↓reduceIte]
    refine ⟨(coherent.queued place entry waits).linked, ?_⟩
    rw [timers, TimerTable.get_set_self]
  · simp only [same, ↓reduceIte]
    rw [timers, TimerTable.get_set_of_ne _ _ (Ne.symm same)]

/-- What an event does to each software timer is what its record says. -/
theorem Happens.turns {event : Event BoardRequest} (coherent : Coherent before)
    (happens : Happens before event after) (timer : TimerId) :
    Record.Turns ⟨before, event⟩ timer (before.timers.get timer) (after.timers.get timer) := by
  cases happens with
  | @answered _ _ request _ answers =>
    cases request with
    | start => exact turns_of_start answers rfl rfl
    | startAt => exact turns_of_start answers rfl rfl
    | stop => exact turns_of_stop coherent answers
    | attach => exact turns_of_attach answers
    | _ => exact congrArg (·.get timer) (timers_of_answers answers rfl rfl)
  | @reported _ call _ runs =>
    obtain ⟨board, request⟩ := call
    cases request with
    | start => cases runs
    | startAt => cases runs
    | stop => cases runs
    | attach => cases runs
    | _ => rfl
  | fired takes => exact turns_of_fired coherent takes timer

/-- No answer calls a callback. -/
theorem deedOf_ne_fires (timer : TimerId) (reply : Reply) (request : Request BoardRequest) :
    deedOf timer reply request ≠ .fires := by
  unfold deedOf
  split <;> first | split <;> exact Deed.noConfusion | exact Deed.noConfusion

/-- Only a request for it that is done starts a timer. -/
theorem starts_of_deedOf (starts : deedOf timer reply request = .starts) :
    starts? request = some timer ∧ reply = .done := by
  have started {other : TimerId}
      (starts : (if other = timer ∧ reply = .done then Deed.starts else .nothing) = .starts) :
      some other = some timer ∧ reply = .done := by
    by_cases both : other = timer ∧ reply = .done
    · exact ⟨congrArg some both.1, both.2⟩
    · rw [if_neg both] at starts
      cases starts
  cases request with
  | start other ticks => exact started starts
  | startAt other expiry => exact started starts
  | stop other =>
    rw [deedOf] at starts
    split at starts
    · cases starts
    · cases starts
  | attach id other callback arg =>
    rw [deedOf] at starts
    split at starts
    · cases starts
    · cases starts
  | _ => cases starts

theorem Happens.takes_of_fires {event : Event BoardRequest} (happens : Happens before event after)
    (fires : Record.deed ⟨before, event⟩ timer = .fires) :
    ∃ id due, before.takeDue id = (some due, after) ∧ due.entry.timer = timer := by
  cases happens with
  | answered => exact absurd fires (deedOf_ne_fires _ _ _)
  | reported => exact absurd fires (deedOf_ne_fires _ _ _)
  | @fired _ id entry now callback arg takes =>
    refine ⟨id, _, takes, ?_⟩
    by_contra another
    change (if entry.timer = timer then Deed.fires else .nothing) = .fires at fires
    rw [if_neg another] at fires
    cases fires

/-! ## The records of a run -/

/-- The records of all that has happened by a moment, newest first. -/
inductive Recorded (allowed : SimBoard → Request BoardRequest → Prop) :
    Moment → List Record → Prop where
  | start (layout : Vector DeviceConfig maxDevices) (ids : List DeviceId) (logger : Log.Logger) :
      Recorded allowed ⟨⟨(boardOfLayout layout).registering ids, {}, logger⟩, #[], []⟩ []
  | silent {moment moment' records} (recorded : Recorded allowed moment records)
      (progress : Progress allowed moment moment') (silent : moment'.history = moment.history) :
      Recorded allowed moment' records
  | event {moment moment' records event} (recorded : Recorded allowed moment records)
      (progress : Progress allowed moment moment')
      (grows : moment'.history = moment.history.push event) :
      Recorded allowed moment' (⟨moment.scheduler, event⟩ :: records)

variable {allowed : SimBoard → Request BoardRequest → Prop} {moment moment' : Moment}
  {event : Event BoardRequest} {records : List Record}

theorem push_ne_self (history : History BoardRequest) (event : Event BoardRequest) :
    history.push event ≠ history := by
  intro same
  have size := congrArg Array.size same
  rw [Array.size_push] at size
  omega

/-- The history stays as it is, or grows by one event. -/
theorem Progress.history (progress : Progress allowed moment moment') :
    moment'.history = moment.history ∨ ∃ event, moment'.history = moment.history.push event := by
  cases progress with
  | register => exact .inl rfl
  | move _ move =>
    cases move with
    | answer => exact .inr ⟨_, rfl⟩
    | report => exact .inr ⟨_, rfl⟩
    | fire => exact .inr ⟨_, rfl⟩
    | _ => exact .inl rfl

/-- What leaves the history alone leaves the software timers alone. A due timer without a callback would
not, but there is none. -/
theorem Progress.timers_of_silent (coherent : Coherent moment.scheduler)
    (progress : Progress allowed moment moment') (silent : moment'.history = moment.history) :
    moment'.scheduler.timers = moment.scheduler.timers := by
  cases progress with
  | register => rfl
  | move _ move =>
    cases move with
    | answer => exact absurd silent (push_ne_self _ _)
    | report => exact absurd silent (push_ne_self _ _)
    | fire => exact absurd silent (push_ne_self _ _)
    | advance _ _ _ advances => exact (SameBooks.modifyPeripheral advances).timers
    | quiet _ _ _ inactive => exact (SameBooks.takeActive inactive).timers
    | enter _ summons acknowledges =>
      exact ((SameBooks.summons summons).trans (.acknowledge acknowledges)).timers
    | dismiss _ summons acknowledges =>
      exact ((SameBooks.summons summons).trans (.acknowledge acknowledges)).timers
    | skip takes =>
      have callable := coherent.callable_of_takeDue takes
      cases callable
    | resume => rfl
    | leave fired takes =>
      rcases pops_of_takeDue takes with ⟨-, same⟩ | ⟨_, _, _, -, some, -⟩
      · exact (same.trans (.finish _ _ fired)).timers
      · cases some

theorem Progress.happens (progress : Progress allowed moment moment')
    (grows : moment'.history = moment.history.push event) :
    Happens moment.scheduler event moment'.scheduler := by
  have silent {scheduler : SimScheduler} {history : History BoardRequest}
      (same : history = history.push event) : Happens scheduler event moment'.scheduler :=
    absurd same.symm (push_ne_self _ _)
  cases progress with
  | register => exact silent grows
  | move _ move =>
    cases move with
    | answer _ _ answers =>
      obtain rfl := Array.push_inj_right.1 grows
      exact .answered answers
    | report call reply _ _ runs =>
      obtain rfl := Array.push_inj_right.1 grows
      exact .reported runs
    | fire takes =>
      obtain rfl := Array.push_inj_right.1 grows
      exact .fired takes
    | _ => exact silent grows

theorem Recorded.passed (recorded : Recorded allowed moment records) : Passed allowed moment := by
  induction recorded with
  | start layout ids logger => exact .start layout ids logger
  | silent _ progress _ ih => exact ih.progress progress
  | event _ progress _ ih => exact ih.progress progress

/-- Every run has its records. -/
theorem Passed.recorded (passed : Passed allowed moment) :
    ∃ records, Recorded allowed moment records := by
  induction passed with
  | start layout ids logger => exact ⟨[], .start layout ids logger⟩
  | progress _ progress ih =>
    obtain ⟨records, recorded⟩ := ih
    rcases progress.history with same | ⟨event, grows⟩
    · exact ⟨records, recorded.silent progress same⟩
    · exact ⟨_, recorded.event progress grows⟩

/-- The records are of the events of the history. -/
theorem Recorded.history (recorded : Recorded allowed moment records) :
    moment.history.toList = (records.map (·.event)).reverse := by
  induction recorded with
  | start => rfl
  | silent _ _ same ih => rw [same, ih]
  | event _ _ grows ih =>
    rw [grows, Array.toList_push, ih, List.map_cons, List.reverse_cons]

/-- The moments before and after something that was recorded. -/
theorem Recorded.split {later earlier : List Record} {record : Record}
    (recorded : Recorded allowed moment (later ++ record :: earlier)) :
    ∃ before after, Recorded allowed before earlier ∧ before.scheduler = record.met ∧
      Happens record.met record.event after.scheduler ∧
      Recorded allowed after (record :: earlier) := by
  generalize same : later ++ record :: earlier = records at recorded
  induction recorded generalizing later with
  | start => cases later <;> cases same
  | silent _ _ _ ih => exact ih same
  | @event before after records event recorded progress grows ih =>
    cases later with
    | cons _ later => exact ih (List.cons.inj same).2
    | nil =>
      obtain ⟨rfl, rfl⟩ := List.cons.inj same
      exact ⟨before, after, recorded, rfl, progress.happens grows, recorded.event progress grows⟩

end DeadlineTimers.Simulated
