import DeadlineTimers.Proofs.Links

/-!
# What a linked timer relies on

That a timer waits is written down twice, in the timer itself and in the queue of a device. Stopping,
attaching, starting and firing each trust one of the two and check the other, and have a branch for the
case that they disagree. No run ever takes such a branch: at every moment, the start of a callback
included, exactly the linked timers are queued, each of them once, on the device that it remembers.
-/

namespace DeadlineTimers.Simulated

/-- A timer waits on the device that it is attached to, once, with the deadline that it remembers, and
nowhere else. -/
structure WaitsOnce (scheduler : SimScheduler) (timer : TimerId) (place : Fin maxDevices)
    (device : Device) : Prop where
  registered : scheduler.board.devices.get place = some device
  owner : (scheduler.timers.get timer).device = some place.val
  callable : (scheduler.timers.get timer).callback.isSome = true
  once : device.queue.entries.filter (·.timer == timer) =
    [⟨timer, (scheduler.timers.get timer).expiry⟩]
  alone : ∀ other device', scheduler.board.devices.get other = some device' →
    device'.queue.contains timer = true → other = place

/-- The linked timers are those that are queued, and each of them waits once. -/
structure LinksAgree (scheduler : SimScheduler) : Prop where
  linked_iff : ∀ timer, (scheduler.timers.get timer).linked = true ↔
    ∃ place device, scheduler.board.devices.get place = some device ∧
      device.queue.contains timer = true
  once : ∀ timer, (scheduler.timers.get timer).linked = true →
    ∃ place device, WaitsOnce scheduler timer place device

/-- What the operations check about links and queues, and what they find. -/
structure ChecksPass (scheduler : SimScheduler) : Prop where
  stops : ∀ timer, (scheduler.stop timer).1 = .ok ()
  attaches : ∀ id timer callback arg, (∃ found, scheduler.board.locate id = .ok found) →
    (scheduler.attach id timer callback arg).1 = .ok ()
  /-- A stopped timer is found in the queue of its device. -/
  removes : ∀ timer id place device, (scheduler.timers.get timer).linked = true →
    (scheduler.timers.get timer).device = some id →
    scheduler.board.locate id = .ok (place, device) →
    (device.queue.remove timer).1 = some ⟨timer, (scheduler.timers.get timer).expiry⟩
  /-- The head that a stopped timer leaves behind belongs to the same device. -/
  owns : ∀ timer id place device, (scheduler.timers.get timer).linked = true →
    (scheduler.timers.get timer).device = some id →
    scheduler.board.locate id = .ok (place, device) →
    ∀ head, (device.queue.remove timer).2.peekEarliest = some head →
      (scheduler.timers.get head.timer).device = some id
  /-- No queue holds a timer that may be started. -/
  fresh : ∀ timer place device, (scheduler.timers.get timer).linked = false →
    scheduler.board.devices.get place = some device → device.queue.contains timer = false
  calls : ∀ id due after, scheduler.takeDue id = (some due, after) → due.callback.isSome = true
  registers : ∀ id hardware config, SameBooks scheduler (scheduler.register id hardware config).2

variable {scheduler : SimScheduler} {place : Fin maxDevices} {device : Device} {timer : TimerId}

theorem queueAt_of_registered {board : SimBoard}
    (registered : board.devices.get place = some device) : board.queueAt place = device.queue :=
  Located.queueAt_eq ⟨rfl, registered⟩

/-- A place where something waits has a registered device. -/
theorem registered_of_waits {board : SimBoard} {entry : QueueEntry}
    (waits : entry ∈ (board.queueAt place).entries) :
    ∃ device, board.devices.get place = some device := by
  cases registered : board.devices.get place with
  | some device => exact ⟨device, rfl⟩
  | none =>
    simp only [Board.queueAt, Board.portAt, Board.port, registered, Option.getD_none] at waits
    cases waits

theorem contains_of_mem {queue : DeadlineQueue queueDepth} {entry : QueueEntry}
    (waits : entry ∈ queue.entries) : queue.contains entry.timer = true :=
  List.any_eq_true.2 ⟨entry, waits, beq_self_eq_true _⟩

theorem exists_of_contains {queue : DeadlineQueue queueDepth}
    (contains : queue.contains timer = true) : ∃ entry ∈ queue.entries, entry.timer = timer := by
  obtain ⟨entry, waits, same⟩ := List.any_eq_true.1 contains
  exact ⟨entry, waits, beq_iff_eq.1 same⟩

/-- A stop fails only for a linked timer whose device is not to be found. -/
theorem missing_of_stop_error {error : TimerError} {after : SimScheduler}
    (did : scheduler.stop timer = (.error error, after)) :
    (scheduler.timers.get timer).linked = true ∧
      ∀ id, (scheduler.timers.get timer).device = some id →
        ∀ located, scheduler.board.locate id ≠ .ok located := by
  unfold Scheduler.stop at did
  simp only at did
  split at did
  · cases congrArg Prod.fst did
  · next linked =>
    refine ⟨by simpa using linked, fun id owner located found => ?_⟩
    rw [owner] at did
    simp only [found] at did
    split at did
    · split at did <;> cases congrArg Prod.fst did
    · cases congrArg Prod.fst did

namespace Coherent

theorem linked_of_contains (coherent : Coherent scheduler)
    (registered : scheduler.board.devices.get place = some device)
    (contains : device.queue.contains timer = true) :
    ∃ entry ∈ device.queue.entries, entry.timer = timer ∧
      Remembers (scheduler.timers.get timer) place entry := by
  obtain ⟨entry, waits, rfl⟩ := exists_of_contains contains
  have queue := queueAt_of_registered registered
  exact ⟨entry, waits, rfl, coherent.queued place entry (queue ▸ waits)⟩

/-- The entry of a linked timer, in the queue of a registered device. -/
theorem entry_of_linked (coherent : Coherent scheduler)
    (linked : (scheduler.timers.get timer).linked = true) :
    ∃ place device, scheduler.board.devices.get place = some device ∧
      ⟨timer, (scheduler.timers.get timer).expiry⟩ ∈ device.queue.entries ∧
      (scheduler.timers.get timer).device = some place.val ∧
      (scheduler.timers.get timer).callback.isSome = true := by
  obtain ⟨place, entry, waits, rfl⟩ := coherent.linked timer linked
  obtain ⟨device, registered⟩ := registered_of_waits waits
  have remembers := coherent.queued place entry waits
  rw [queueAt_of_registered registered] at waits
  refine ⟨place, device, registered, ?_, remembers.owner, remembers.callable⟩
  rw [remembers.expiry]
  exact waits

theorem linksAgree (coherent : Coherent scheduler) : LinksAgree scheduler := by
  constructor
  · intro timer
    constructor
    · intro linked
      obtain ⟨place, device, registered, waits, -⟩ := coherent.entry_of_linked linked
      exact ⟨place, device, registered, contains_of_mem waits⟩
    · rintro ⟨place, device, registered, contains⟩
      obtain ⟨entry, -, -, remembers⟩ := coherent.linked_of_contains registered contains
      exact remembers.linked
  · intro timer linked
    obtain ⟨place, device, registered, waits, owner, callable⟩ := coherent.entry_of_linked linked
    have distinct := coherent.distinct place
    rw [queueAt_of_registered registered] at distinct
    refine ⟨place, device, registered, owner, callable, distinct.filter_eq waits, ?_⟩
    intro other device' registered' contains
    obtain ⟨entry, -, -, remembers⟩ := coherent.linked_of_contains registered' contains
    have same := remembers.owner.symm.trans owner
    exact Fin.ext (Option.some.inj same)

/-- The device of a linked timer, where it is looked up. -/
theorem located_of_linked (coherent : Coherent scheduler) {id : DeviceId}
    (linked : (scheduler.timers.get timer).linked = true)
    (owner : (scheduler.timers.get timer).device = some id) :
    ∃ place device, Located scheduler.board id place device ∧
      ⟨timer, (scheduler.timers.get timer).expiry⟩ ∈ device.queue.entries := by
  obtain ⟨place, device, registered, waits, owner', -⟩ := coherent.entry_of_linked linked
  have same : place.val = id := Option.some.inj (owner'.symm.trans owner)
  exact ⟨place, device, ⟨same, registered⟩, waits⟩

/-- The two checks that a stop makes of the queue find what they look for. -/
theorem removed_of_linked (coherent : Coherent scheduler) {id : DeviceId}
    (linked : (scheduler.timers.get timer).linked = true)
    (owner : (scheduler.timers.get timer).device = some id)
    (found : scheduler.board.locate id = .ok (place, device)) :
    (device.queue.remove timer).1 = some ⟨timer, (scheduler.timers.get timer).expiry⟩ ∧
      ∀ head, (device.queue.remove timer).2.peekEarliest = some head →
        (scheduler.timers.get head.timer).device = some id := by
  have located := located_of_locate found
  have queue := located.queueAt_eq
  have distinct := coherent.distinct place
  obtain ⟨place', device', located', waits⟩ := coherent.located_of_linked linked owner
  obtain rfl : place' = place := Fin.ext (located'.id.trans located.id.symm)
  obtain rfl := Option.some.inj (located'.device.symm.trans located.device)
  rw [queue] at distinct
  refine ⟨distinct.remove_eq waits, fun head earliest => ?_⟩
  have left : head ∈ (device'.queue.remove timer).2.entries := List.mem_of_mem_head? earliest
  have remembers := coherent.queued place' head (queue ▸ (distinct.mem_remove_iff.1 left).1)
  rw [remembers.owner, located.id]

theorem stop_ok (coherent : Coherent scheduler) (timer : TimerId) :
    (scheduler.stop timer).1 = .ok () := by
  cases did : scheduler.stop timer with
  | mk result after =>
    cases result with
    | ok => rfl
    | error error =>
      obtain ⟨linked, missing⟩ := missing_of_stop_error did
      obtain ⟨place, device, registered, -, owner, -⟩ := coherent.entry_of_linked linked
      exact absurd ((Board.locate_eq_ok_iff _ _ _ _).2 ⟨rfl, registered⟩) (missing _ owner _)

theorem attach_ok (coherent : Coherent scheduler) {id : DeviceId}
    {located : Fin maxDevices × Device} (found : scheduler.board.locate id = .ok located)
    (timer : TimerId) (callback : CallbackId) (arg : Nat) :
    (scheduler.attach id timer callback arg).1 = .ok () := by
  have stopped := coherent.stop_ok timer
  unfold Scheduler.attach
  rw [found]
  cases stop : scheduler.stop timer with
  | mk result after =>
    rw [stop] at stopped
    obtain rfl : result = .ok () := stopped
    rfl

theorem callable_of_takeDue (coherent : Coherent scheduler) {id : DeviceId}
    {due : Scheduler.DueTimer} {after : SimScheduler}
    (did : scheduler.takeDue id = (some due, after)) : due.callback.isSome = true := by
  rcases pops_of_takeDue did with ⟨none, -⟩ | ⟨place, entry, now, -, some, -, pops⟩
  · cases none
  · obtain ⟨queue, entries, -⟩ := pops.popped
    have waits : entry ∈ (scheduler.board.queueAt place).entries := by
      rw [entries]
      exact List.mem_cons_self
    have callable := (coherent.queued place entry waits).callable
    rw [Option.some.inj some, remembered, Option.isSome_map]
    exact callable

end Coherent

theorem sameBooks_register (scheduler : SimScheduler) (id : DeviceId) (hardware : Timer)
    (config : DeviceConfig) : SameBooks scheduler (scheduler.register id hardware config).2 := by
  unfold Scheduler.register
  cases did : scheduler.board.register id hardware config with
  | mk answer board =>
    rcases register_cases did with rfl | ⟨place, -, registers⟩
    · exact .refl _
    · exact ⟨registers.queues, rfl⟩

theorem Coherent.checksPass (coherent : Coherent scheduler) : ChecksPass scheduler where
  stops := coherent.stop_ok
  attaches _ timer callback arg located :=
    have ⟨_, found⟩ := located
    coherent.attach_ok found timer callback arg
  removes _ _ _ _ linked owner found := (coherent.removed_of_linked linked owner found).1
  owns _ _ _ _ linked owner found := (coherent.removed_of_linked linked owner found).2
  fresh timer place device unlinked registered := by
    rw [Bool.eq_false_iff]
    intro contains
    obtain ⟨entry, -, -, remembers⟩ := coherent.linked_of_contains registered contains
    rw [remembers.linked] at unlinked
    cases unlinked
  calls _ _ _ did := coherent.callable_of_takeDue did
  registers := sameBooks_register scheduler

/-- At every moment of every run exactly the linked timers are queued, each once, where it remembers,
and no operation finds a timer astray. -/
theorem links_agree {allowed : SimBoard → Request BoardRequest → Prop} {moment : Moment}
    (passed : Passed allowed moment) :
    LinksAgree moment.scheduler ∧ ChecksPass moment.scheduler :=
  ⟨passed.coherent.linksAgree, passed.coherent.checksPass⟩

/-- One of two timers is due, and its callback has just been called. -/
theorem links_agree_in_callback :
    let running := (nrf51AtRest.init 0 1000000).2
    let first := (running.attach 0 0 0 7).2
    let second := (first.attach 0 1 0 8).2
    let due := (second.startAt 0 0).2
    let later := (due.startAt 1 100).2
    let handling := (later.acknowledge 0).2
    let called := (handling.takeDue 0).2
    (called.timers.get 0).linked = false ∧ (called.timers.get 1).linked = true ∧
      (∃ place device, WaitsOnce called 1 place device) ∧ (called.stop 1).1 = .ok () := by
  intro running first second due later handling called
  have init : Answers nrf51AtRest (.init 0 1000000) (.ofUnit (.ok ())) running :=
    .init (Prod.ext rfl rfl)
  have attach : Answers running (.attach 0 0 0 7) _ first := .attach (Prod.eta _).symm
  have attach' : Answers first (.attach 0 1 0 8) _ second := .attach (Prod.eta _).symm
  have start : Answers second (.startAt 0 0) _ due := .startAt (Prod.eta _).symm
  have start' : Answers due (.startAt 1 100) _ later := .startAt (Prod.eta _).symm
  have runs : (later.acknowledge 0).1 = true := by decide +kernel
  have acknowledges : later.acknowledge 0 = (true, handling) :=
    (Prod.eta _).symm.trans (congrArg (·, handling) runs)
  have taken : (handling.takeDue 0).1 = some ⟨⟨0, 0⟩, 0, some (0, 7)⟩ := by decide +kernel
  have takes : handling.takeDue 0 = (some ⟨⟨0, 0⟩, 0, some (0, 7)⟩, called) :=
    (Prod.eta _).symm.trans (congrArg (·, called) taken)
  have unlinked : (called.timers.get 0).linked = false := by decide +kernel
  have linked : (called.timers.get 1).linked = true := by decide +kernel
  clear_value called handling later due second first running
  let allowed : SimBoard → Request BoardRequest → Prop := fun _ _ => True
  have atRest : Passed allowed ⟨nrf51AtRest, #[], []⟩ := .start DeviceConfig.nrf51 [0, 1, 2] {}
  have started := ((((atRest.progress (.answer .user init trivial)).progress
    (.answer .user attach trivial)).progress (.answer .user attach' trivial)).progress
    (.answer .user start trivial)).progress (.answer .user start' trivial)
  have passed := (started.progress
    (.move (.refl _) (.enter .user (.request trivial) acknowledges))).progress
    (.move (.refl _) (.fire takes))
  obtain ⟨agree, checks⟩ := links_agree passed
  exact ⟨unlinked, linked, agree.once 1 linked, checks.stops 1⟩

end DeadlineTimers.Simulated
