import DeadlineTimers.Proofs.HandlerPass
import DeadlineTimers.Proofs.Records

/-!
# Every start fires once or is taken back

Each successful start of a timer ends in one of three ways: its callback is called, a stop or a new
attachment takes it back, or the timer still waits. So the starts in the records of a run are as many as
the calls of the callback, the starts taken back and the one that waits. A callback is called for the
last start and with the last attachment, and after a stop not before the next start: if it were, the
records up to the stop and those up to the call could not both balance.
-/

namespace DeadlineTimers.Simulated

def startCount (records : List Record) (timer : TimerId) : Nat :=
  records.countP (·.deed timer = .starts)

def fireCount (records : List Record) (timer : TimerId) : Nat :=
  records.countP (·.deed timer = .fires)

/-- The stops and the successful attachments of a timer that waited. -/
def cancelCount (records : List Record) (timer : TimerId) : Nat :=
  records.countP (·.cancels timer)

def lastStart? (records : List Record) (timer : TimerId) : Option Record :=
  records.find? (·.deed timer = .starts)

/-- The callback and the value of the last successful attachment of a timer. -/
def lastAttachment? (records : List Record) (timer : TimerId) : Option (CallbackId × Nat) :=
  records.findSome? fun record => (record.deed timer).attachment?

/-- What the records tell of a timer, against what the timer remembers. -/
structure Accounted (records : List Record) (timer : TimerId) (slot : TimerSlot) : Prop where
  balance : startCount records timer =
    fireCount records timer + cancelCount records timer + slot.linked.toNat
  started : slot.linked = true →
    (lastStart? records timer).bind (·.deadline?) = some slot.expiry
  attached : lastAttachment? records timer = slot.callback.map fun callback => (callback, slot.arg)

/-- A callback is called in time, for the last start and with the last attachment of its timer. -/
structure RightlyFired (earlier : List Record) (met : SimScheduler) (firing : Firing) : Prop where
  read : (met.tryRead firing.device).1 = .ok firing.now
  reached : Tick.reached firing.now firing.expiry = true
  latest : (lastStart? earlier firing.timer).bind (·.deadline?) = some firing.expiry
  attached : lastAttachment? earlier firing.timer = some (firing.callback, firing.arg)

variable {records : List Record} {record : Record} {timer : TimerId} {before after : TimerSlot}

@[simp] theorem startCount_cons (record : Record) (records : List Record) (timer : TimerId) :
    startCount (record :: records) timer =
      startCount records timer + if record.deed timer = .starts then 1 else 0 := by
  simp [startCount, List.countP_cons]

@[simp] theorem fireCount_cons (record : Record) (records : List Record) (timer : TimerId) :
    fireCount (record :: records) timer =
      fireCount records timer + if record.deed timer = .fires then 1 else 0 := by
  simp [fireCount, List.countP_cons]

@[simp] theorem cancelCount_cons (record : Record) (records : List Record) (timer : TimerId) :
    cancelCount (record :: records) timer =
      cancelCount records timer + if record.cancels timer then 1 else 0 := by
  simp [cancelCount, List.countP_cons]

@[simp] theorem lastStart?_cons (record : Record) (records : List Record) (timer : TimerId) :
    lastStart? (record :: records) timer =
      if record.deed timer = .starts then some record else lastStart? records timer := by
  simp [lastStart?, List.find?_cons]
  split <;> simp_all

@[simp] theorem lastAttachment?_cons (record : Record) (records : List Record) (timer : TimerId) :
    lastAttachment? (record :: records) timer =
      (record.deed timer).attachment?.or (lastAttachment? records timer) := by
  simp [lastAttachment?, List.findSome?_cons]
  split <;> simp_all

/-- One more record keeps the accounts in balance. -/
theorem Accounted.cons (accounted : Accounted records timer before)
    (met : record.met.timers.get timer = before) (turns : record.Turns timer before after) :
    Accounted (record :: records) timer after := by
  obtain ⟨balance, started, attached⟩ := accounted
  unfold Record.Turns at turns
  cases deed : record.deed timer with
  | starts =>
    rw [deed] at turns
    obtain ⟨unlinked, expiry, deadline, rfl⟩ := turns
    constructor
    · simp [Record.cancels, deed, Deed.withdraws, balance, unlinked]
    · intro _
      simp [deed, deadline]
    · simpa [deed, Deed.attachment?] using attached
  | fires =>
    rw [deed] at turns
    obtain ⟨linked, rfl⟩ := turns
    constructor
    · simp [Record.cancels, deed, Deed.withdraws, balance, linked]
      omega
    · intro linked
      cases linked
    · simpa [deed, Deed.attachment?] using attached
  | stops =>
    rw [deed] at turns
    subst turns
    constructor
    · cases linked : before.linked <;>
        simp [Record.cancels, deed, Deed.withdraws, balance, met, linked, Nat.add_assoc]
    · intro linked
      cases linked
    · simpa [deed, Deed.attachment?] using attached
  | attaches callback arg =>
    rw [deed] at turns
    obtain ⟨id, rfl⟩ := turns
    constructor
    · cases linked : before.linked <;>
        simp [Record.cancels, deed, Deed.withdraws, balance, met, linked, Nat.add_assoc]
    · intro linked
      cases linked
    · simp [deed, Deed.attachment?]
  | nothing =>
    rw [deed] at turns
    subst turns
    constructor
    · simp [Record.cancels, deed, Deed.withdraws, balance]
    · simpa [deed] using started
    · simpa [deed, Deed.attachment?] using attached

variable {allowed : SimBoard → Request BoardRequest → Prop} {moment : Moment}

theorem Recorded.accounted (recorded : Recorded allowed moment records) (timer : TimerId) :
    Accounted records timer (moment.scheduler.timers.get timer) := by
  induction recorded with
  | start => exact ⟨rfl, fun linked => Bool.noConfusion linked, rfl⟩
  | silent recorded progress silent ih =>
    rw [progress.timers_of_silent recorded.passed.coherent silent]
    exact ih
  | event recorded progress grows ih =>
    exact ih.cons rfl ((progress.happens grows).turns recorded.passed.coherent timer)

/-- The tick that a handler takes a due timer by is the one that reading it returns. -/
theorem tryRead_of_takeDue {before after : SimScheduler} {id : DeviceId} {due : Scheduler.DueTimer}
    (takes : before.takeDue id = (some due, after)) : (before.tryRead id).1 = .ok due.now := by
  rcases takeDue_cases takes with ⟨-, none, -⟩ | ⟨place, device, located, -, ⟨-, none, -⟩ | taken⟩
  · cases none
  · cases none
  · obtain ⟨entry, now, taken, same, -⟩ := taken
    rw [takeDue_fst, Option.map_eq_some_iff] at taken
    obtain ⟨head, -, read⟩ := taken
    rw [Option.some.inj same]
    unfold Scheduler.tryRead
    rw [onPort_of_located located]
    exact congrArg Except.ok (Prod.mk.inj read).2

/-- A timer is called for what the records tell of it. -/
theorem Recorded.rightlyFired {firing : Firing} {after : SimScheduler}
    (recorded : Recorded allowed moment records)
    (happens : Happens moment.scheduler (.fired firing) after) :
    RightlyFired records moment.scheduler firing := by
  have coherent := recorded.passed.coherent
  cases happens with
  | @fired _ id entry now callback arg takes =>
    rcases pops_of_takeDue takes with ⟨none, -⟩ | ⟨place, entry', now', -, same, reached, pops⟩
    · cases none
    obtain ⟨rfl, rfl, remembers⟩ := Scheduler.DueTimer.mk.inj (Option.some.inj same)
    obtain ⟨queue, entries, -⟩ := pops.popped
    have waits : entry ∈ (moment.scheduler.board.queueAt place).entries := by
      rw [entries]
      exact List.mem_cons_self
    have slot := coherent.queued place entry waits
    have accounted := recorded.accounted entry.timer
    refine ⟨tryRead_of_takeDue takes, reached, ?_, ?_⟩
    · rw [accounted.started slot.linked, slot.expiry]
    · rw [accounted.attached]
      exact remembers.symm

/-- A timer that was stopped does not wait until it is started again. -/
theorem Recorded.started_since {between earlier : List Record} {stop : Record}
    (recorded : Recorded allowed moment (between ++ stop :: earlier))
    (stops : stop.deed timer = .stops) (linked : (moment.scheduler.timers.get timer).linked = true) :
    ∃ start ∈ between, start.deed timer = .starts := by
  obtain ⟨before, after, recorded', met, happens, stopped⟩ := recorded.split
  have unlinked : (after.scheduler.timers.get timer).linked = false := by
    have turns := happens.turns (met ▸ recorded'.passed.coherent) timer
    unfold Record.Turns at turns
    rw [stops] at turns
    rw [turns]
  -- Without a start in between, the accounts up to the stop leave no start to wait now.
  by_contra none
  have unstarted : startCount between timer = 0 := by
    refine List.countP_eq_zero.2 fun start among starts => none ⟨start, among, ?_⟩
    simpa using starts
  have balance := (recorded.accounted timer).balance
  have balance' := (stopped.accounted timer).balance
  rw [linked] at balance
  rw [unlinked] at balance'
  simp only [startCount, fireCount, cancelCount, List.countP_append, Bool.toNat_true,
    Bool.toNat_false] at unstarted balance balance'
  omega

/-- The successful starts of a timer are as many as the calls of its callback, the stops and attachments
that found it waiting, and the one that waits now. A callback is called when the tick has reached the
deadline of the last start, with the last attachment, and after a stop not before the next start. -/
theorem fired_once {allowed : SimBoard → Request BoardRequest → Prop} {moment : Moment}
    {records : List Record} (recorded : Recorded allowed moment records) (timer : TimerId) :
    startCount records timer = fireCount records timer + cancelCount records timer +
        (moment.scheduler.timers.get timer).linked.toNat ∧
      (∀ later call earlier firing, records = later ++ call :: earlier →
        call.event = .fired firing → RightlyFired earlier call.met firing) ∧
      ∀ later call between stop earlier, records = later ++ call :: (between ++ stop :: earlier) →
        call.deed timer = .fires → stop.deed timer = .stops →
        ∃ start ∈ between, start.deed timer = .starts := by
  refine ⟨(recorded.accounted timer).balance, ?_, ?_⟩
  · rintro later call earlier firing rfl fires
    obtain ⟨before, after, recorded', met, happens, -⟩ := recorded.split
    rw [← met, fires] at happens
    rw [← met]
    exact recorded'.rightlyFired happens
  · rintro later call between stop earlier rfl fires stops
    obtain ⟨before, after, recorded', met, happens, -⟩ := recorded.split
    have turns := happens.turns (met ▸ recorded'.passed.coherent) timer
    unfold Record.Turns at turns
    rw [fires] at turns
    exact recorded'.started_since stops (met ▸ turns.1)

/-- Two timers are due, and the callback of the first stops the second in the same pass. -/
theorem fired_once_stopped_in_pass :
    let running := (nrf51AtRest.init 0 1000000).2
    let first := (running.attach 0 0 0 7).2
    let second := (first.attach 0 1 0 8).2
    let due := (second.startAt 0 0).2
    let both := (due.startAt 1 0).2
    let handling := (both.acknowledge 0).2
    let called := (handling.takeDue 0).2
    let stopped := (called.stop 1).2
    let records : List Record := [
      ⟨called, .answered (some 5) ⟨0, .stop 1⟩ .done⟩,
      ⟨handling, .fired ⟨0, 0, 0, 0, 0, 0, 7⟩⟩,
      ⟨due, .answered none ⟨0, .startAt 1 0⟩ .done⟩,
      ⟨second, .answered none ⟨0, .startAt 0 0⟩ .done⟩,
      ⟨first, .answered none ⟨0, .attach 0 1 0 8⟩ .done⟩,
      ⟨running, .answered none ⟨0, .attach 0 0 0 7⟩ .done⟩,
      ⟨nrf51AtRest, .answered none ⟨0, .init 0 1000000⟩ .done⟩]
    startCount records 1 = 1 ∧ cancelCount records 1 = 1 ∧
      fireCount records 1 + (stopped.timers.get 1).linked.toNat = 0 := by
  intro running first second due both handling called stopped records
  have init : Answers nrf51AtRest (.init 0 1000000) (.ofUnit (.ok ())) running :=
    .init (Prod.ext rfl rfl)
  have attach : Answers running (.attach 0 0 0 7) _ first := .attach (Prod.eta _).symm
  have attach' : Answers first (.attach 0 1 0 8) _ second := .attach (Prod.eta _).symm
  have start : Answers second (.startAt 0 0) _ due := .startAt (Prod.eta _).symm
  have start' : Answers due (.startAt 1 0) _ both := .startAt (Prod.eta _).symm
  have stop : Answers called (.stop 1) _ stopped := .stop (Prod.eta _).symm
  have done : (running.attach 0 0 0 7).1 = .ok () ∧ (first.attach 0 1 0 8).1 = .ok () ∧
      (second.startAt 0 0).1 = .ok () ∧ (due.startAt 1 0).1 = .ok () ∧ (called.stop 1).1 = .ok () := by
    decide +kernel
  rw [done.1] at attach
  rw [done.2.1] at attach'
  rw [done.2.2.1] at start
  rw [done.2.2.2.1] at start'
  rw [done.2.2.2.2] at stop
  have runs : (both.acknowledge 0).1 = true := by decide +kernel
  have acknowledges : both.acknowledge 0 = (true, handling) :=
    (Prod.eta _).symm.trans (congrArg (·, handling) runs)
  have taken : (handling.takeDue 0).1 = some ⟨⟨0, 0⟩, 0, some (0, 7)⟩ := by decide +kernel
  have takes : handling.takeDue 0 = (some ⟨⟨0, 0⟩, 0, some (0, 7)⟩, called) :=
    (Prod.eta _).symm.trans (congrArg (·, called) taken)
  have starts : startCount records 1 = 1 := by decide +kernel
  have cancels : cancelCount records 1 = 1 := by decide +kernel
  clear_value stopped called handling both due second first running
  let allowed : SimBoard → Request BoardRequest → Prop := fun _ _ => True
  have atRest : Recorded allowed ⟨nrf51AtRest, #[], []⟩ [] := .start DeviceConfig.nrf51 [0, 1, 2] {}
  have started := ((((atRest.event (.answer .user init trivial) rfl).event
    (.answer .user attach trivial) rfl).event (.answer .user attach' trivial) rfl).event
    (.answer .user start trivial) rfl).event (.answer .user start' trivial) rfl
  have recorded := ((started.silent
    (.move (.refl _) (.enter .user (.request trivial) acknowledges)) rfl).event
    (.move (.refl _) (.fire takes)) rfl).event (.answer (.callback 0 5 []) stop trivial) rfl
  have balance := (fired_once recorded 1).1
  change startCount records 1 = fireCount records 1 + cancelCount records 1 +
    (stopped.timers.get 1).linked.toNat at balance
  rw [starts, cancels] at balance
  exact ⟨starts, cancels, by omega⟩

end DeadlineTimers.Simulated
