import DeadlineTimers.Proofs.DrainPass
import DeadlineTimers.Proofs.FiredOnce
import DeadlineTimers.Proofs.FrozenTick

/-!
# Callbacks that start timers again

The loop of the handler takes timers until the head lies ahead, and callbacks may queue timers while it
runs. It ends all the same. The tick stands still, so a timer that a callback starts by up to half a turn
lies ahead of it, and of the timers that are reached each pass of the loop takes one while no callback adds
any. What a callback starts is therefore left for a later interrupt.
-/

namespace DeadlineTimers

/-- Every call that a program makes is of a kind, the board that it goes to included, whatever is
replied. -/
def Program.Sends {X : Type} (sent : Call X → Prop) : Program X → Prop
  | .finished => True
  | .call first next => sent first ∧ ∀ reply, (next reply).Sends sent

def Client.Sends {X : Type} (client : Client X) (sent : Call X → Prop) : Prop :=
  ∀ history firing, (client history firing).Sends sent

def Event.firing? {X : Type} : Event X → Option Firing
  | .fired firing => some firing
  | .answered .. => none

def Firing.entry (firing : Firing) : QueueEntry := ⟨firing.timer, firing.expiry⟩

namespace Simulated

open Port Run

/-- The calls of callbacks that start timers by no more than half a turn, stop them, attach them or read
a tick. -/
inductive StartsAhead : Call BoardRequest → Prop where
  | start (timer : TimerId) {ticks : Ticks} (ahead : 0 < ticks.toNat) (half : ticks.toNat ≤ 2 ^ 31) :
      StartsAhead ⟨0, .start timer ticks⟩
  | stop (timer : TimerId) : StartsAhead ⟨0, .stop timer⟩
  | attach (id : DeviceId) (timer : TimerId) (callback : CallbackId) (arg : Nat) :
      StartsAhead ⟨0, .attach id timer callback arg⟩
  | tryRead (id : DeviceId) : StartsAhead ⟨0, .tryRead id⟩

def SimScheduler.reachedAt (scheduler : SimScheduler) (place : Fin maxDevices) (now : Ticks) :
    List QueueEntry :=
  (scheduler.board.queueAt place).entries.filter fun entry => Tick.reached now entry.expiry

def calledEntries (events : List (Event BoardRequest)) : List QueueEntry :=
  (events.filterMap Event.firing?).map Firing.entry

def deedIn (event : Event BoardRequest) (timer : TimerId) : Deed :=
  match event with
  | .fired firing => if firing.timer = timer then .fires else .nothing
  | .answered _ call reply => deedOf timer reply call.request

def waitsAfter (timer : TimerId) (waits : Bool) (event : Event BoardRequest) : Bool :=
  match deedIn event timer with
  | .starts => true
  | .nothing => waits
  | _ => false

/-- A stretch of the handler loop of a device, callbacks included, during which the tick stands still. -/
structure Stretch (place : Fin maxDevices) (now : Ticks) (before : SimScheduler)
    (events : List (Event BoardRequest)) (after : SimScheduler) : Prop where
  coherent : Coherent after
  frozen : FrozenAt place now after
  called : ∀ firing ∈ events.filterMap Event.firing?,
    firing.board = 0 ∧ firing.device = place.val ∧ firing.now = now
  /-- What is reached was reached before, and what was called for is no longer among it. -/
  shrinks : (calledEntries events ++ after.reachedAt place now).Sublist (before.reachedAt place now)
  /-- What was started is not reached. -/
  ahead : ∀ event ∈ events, ∀ timer, deedIn event timer = .starts →
    timer ∉ (after.reachedAt place now).map (·.timer)
  /-- What was started is not called later. -/
  later : events.Pairwise fun first second => ∀ timer, deedIn first timer = .starts →
    deedIn second timer ≠ .fires
  waits : ∀ timer, (after.timers.get timer).linked =
    events.foldl (waitsAfter timer) (before.timers.get timer).linked

variable {before between after scheduler : SimScheduler} {place : Fin maxDevices} {now : Ticks}
  {events events' : List (Event BoardRequest)} {history : History BoardRequest} {timer : TimerId}

theorem called_of_fires {event : Event BoardRequest} (among : event ∈ events)
    (fires : deedIn event timer = .fires) : timer ∈ (calledEntries events).map (·.timer) := by
  cases event with
  | answered caller call reply => exact absurd fires (deedOf_ne_fires _ _ _)
  | fired firing =>
    have same : firing.timer = timer := by
      by_contra another
      rw [deedIn, if_neg another] at fires
      cases fires
    refine List.mem_map.2 ⟨firing.entry, List.mem_map.2 ⟨firing, ?_, rfl⟩, same⟩
    exact List.mem_filterMap.2 ⟨_, among, rfl⟩

theorem calledEntries_append (first second : List (Event BoardRequest)) :
    calledEntries (first ++ second) = calledEntries first ++ calledEntries second := by
  rw [calledEntries, List.filterMap_append, List.map_append]
  rfl

namespace Stretch

/-- Where nothing is changed that matters nothing happens. -/
theorem of_same (coherent : Coherent before) (frozen : FrozenAt place now after)
    (same : SameBooks before after) : Stretch place now before [] after where
  coherent := coherent.same same
  frozen := frozen
  called _ among := absurd among List.not_mem_nil
  shrinks := by
    rw [SimScheduler.reachedAt, same.queues]
    exact List.Sublist.refl _
  ahead _ among := absurd among List.not_mem_nil
  later := List.Pairwise.nil
  waits timer := by
    rw [same.timers]
    rfl

theorem trans (first : Stretch place now before events between)
    (second : Stretch place now between events' after) :
    Stretch place now before (events ++ events') after where
  coherent := second.coherent
  frozen := second.frozen
  called firing among := by
    rw [List.filterMap_append, List.mem_append] at among
    exact among.elim (first.called firing) (second.called firing)
  shrinks := by
    rw [calledEntries_append, List.append_assoc]
    exact ((List.Sublist.refl _).append second.shrinks).trans first.shrinks
  ahead event among timer starts := by
    rcases List.mem_append.1 among with early | late
    · have kept := (List.sublist_append_right _ _).trans second.shrinks
      exact fun reached => first.ahead event early timer starts ((kept.map _).subset reached)
    · exact second.ahead event late timer starts
  later := by
    refine List.pairwise_append.2 ⟨first.later, second.later, fun event early other late timer starts
      fires => ?_⟩
    have taken := (List.sublist_append_left _ _).trans second.shrinks
    exact first.ahead event early timer starts ((taken.map _).subset (called_of_fires late fires))
  waits timer := by
    rw [List.foldl_append, ← first.waits, second.waits]

end Stretch

/-- An event leaves a timer waiting as what it is for the timer says. -/
theorem linked_of_happens {event : Event BoardRequest} (coherent : Coherent before)
    (happens : Happens before event after) (timer : TimerId) :
    (after.timers.get timer).linked = waitsAfter timer (before.timers.get timer).linked event := by
  have turns := happens.turns coherent timer
  have same : Record.deed ⟨before, event⟩ timer = deedIn event timer := rfl
  rw [Record.Turns, same] at turns
  rw [waitsAfter]
  cases deed : deedIn event timer with
  | starts =>
    rw [deed] at turns
    obtain ⟨-, expiry, -, slot⟩ := turns
    rw [slot]
  | fires =>
    rw [deed] at turns
    rw [turns.2]
  | stops =>
    rw [deed] at turns
    rw [turns]
  | attaches callback arg =>
    rw [deed] at turns
    obtain ⟨id, slot⟩ := turns
    rw [slot]
  | nothing =>
    rw [deed] at turns
    rw [turns]

/-! ## What a callback does -/

/-- A start for a deadline that the tick has not reached leaves what is reached as it is. -/
theorem reachedAt_enqueues {expiry : Ticks} {found : Fin maxDevices}
    (enqueues : Enqueues before timer expiry found after)
    (ahead : found = place → Tick.reached now expiry = false) :
    after.reachedAt place now = before.reachedAt place now := by
  obtain ⟨isHead, queue, inserted, requeues⟩ := enqueues.inserted
  rw [SimScheduler.reachedAt, SimScheduler.reachedAt]
  by_cases here : place = found
  · subst here
    obtain ⟨-, -, -, entries⟩ := DeadlineQueue.insert_eq_ok_iff.1 inserted
    have passed : (⟨timer, expiry⟩ :: (before.board.queueAt place).behind expiry).filter
        (fun entry => Tick.reached now entry.expiry) = _ :=
      List.filter_cons_of_neg (Bool.eq_false_iff.1 (ahead rfl))
    rw [requeues.here, entries, List.filter_append, passed, ← List.filter_append,
      DeadlineQueue.ahead_append_behind]
  · rw [requeues.elsewhere place here]

/-- A relative start of up to half a turn sets a deadline ahead of a tick that stands still. -/
theorem ahead_of_start {ticks expiry : Ticks} {found : Fin maxDevices}
    (frozen : FrozenAt place now before) (ahead : 0 < ticks.toNat) (half : ticks.toNat ≤ 2 ^ 31)
    (owner : (before.timers.get timer).device = some found.val)
    (deadline : deadlineOf? before (.start timer ticks) = some expiry) (same : found = place) :
    Tick.reached now expiry = false := by
  subst same
  rw [deadlineOf?, owner, Option.bind_some, Option.map_eq_some_iff] at deadline
  obtain ⟨read, answered, rfl⟩ := deadline
  have ok : (before.tryRead found.val).1 = .ok read := by
    cases result : (before.tryRead found.val).1 with
    | ok other =>
      rw [result] at answered
      exact congrArg _ (Option.some.inj answered)
    | error error =>
      rw [result] at answered
      cases answered
  rw [frozen.eq_of_tryRead ok]
  exact Tick.reached_add_eq_false ahead half

theorem FrozenAt.answers {call : Call BoardRequest} {reply : Reply}
    (frozen : FrozenAt place now before) (sent : StartsAhead call)
    (answers : Answers before call.request reply after) : FrozenAt place now after := by
  cases sent with
  | start => cases answers with | start did => exact frozen.start did
  | stop => cases answers with | stop did => exact frozen.stop did
  | attach => cases answers with | attach did => exact frozen.attach did
  | tryRead => cases answers with | tryRead did => exact frozen.tryRead did

/-- No call of a callback makes anything reached that was not. -/
theorem reachedAt_answers {call : Call BoardRequest} {reply : Reply}
    (frozen : FrozenAt place now before) (sent : StartsAhead call)
    (answers : Answers before call.request reply after) :
    (after.reachedAt place now).Sublist (before.reachedAt place now) := by
  cases answers.books with
  | keep same =>
    rw [SimScheduler.reachedAt, same.queues]
    exact List.Sublist.refl _
  | start starts done =>
    obtain ⟨expiry, found, deadline, enqueues⟩ := enqueues_of_answers answers done starts
    cases sent with
    | start other ahead half =>
      obtain rfl := Option.some.inj starts
      rw [reachedAt_enqueues enqueues (ahead_of_start frozen ahead half enqueues.owner deadline)]
    | _ => cases starts
  | stop stops done unlinks => exact unlinks.sublist.filter _
  | attach attaches done unlinks queues =>
    rw [SimScheduler.reachedAt, queues]
    exact unlinks.sublist.filter _

/-- A call that a callback makes, as a stretch of the loop. -/
theorem stretch_of_answers {call : Call BoardRequest} {reply : Reply} {caller : Option Nat}
    (coherent : Coherent before) (frozen : FrozenAt place now before) (sent : StartsAhead call)
    (answers : Answers before call.request reply after) :
    Stretch place now before [.answered caller call reply] after := by
  have kept := reachedAt_answers frozen sent answers
  have zero : call = ⟨0, call.request⟩ := by cases sent <;> rfl
  constructor
  case coherent => exact coherent.books answers.books
  case frozen => exact frozen.answers sent answers
  case called => exact nofun
  case shrinks => exact kept
  case ahead =>
    intro event among timer starts reached
    obtain rfl := List.mem_singleton.1 among
    obtain ⟨started, done⟩ := starts_of_deedOf starts
    obtain ⟨_, _, -, enqueues⟩ := enqueues_of_answers answers done started
    obtain ⟨entry, found, same⟩ := List.mem_map.1 ((kept.map _).subset reached)
    exact coherent.ne_of_unlinked enqueues.unlinked (List.mem_of_mem_filter found) same
  case later => exact List.pairwise_singleton _ _
  case waits =>
    intro timer
    rw [zero]
    exact linked_of_happens coherent (.answered answers) timer

theorem answers_of_startsAhead {call : Call BoardRequest} (sent : StartsAhead call)
    (before : SimScheduler) : ∃ reply after, Answers before call.request reply after := by
  cases sent with
  | start => exact ⟨_, _, .start (Prod.eta _).symm⟩
  | stop => exact ⟨_, _, .stop (Prod.eta _).symm⟩
  | attach => exact ⟨_, _, .attach (Prod.eta _).symm⟩
  | tryRead => exact ⟨_, _, .tryRead (Prod.eta _).symm⟩

/-- What a callback does comes to an end, is a stretch of the loop, and calls no callback. -/
theorem runProgram_attains (fire : Firing → SimRun Unit) (limit caller : Nat)
    {program : Program BoardRequest} (sends : program.Sends StartsAhead) (coherent : Coherent before)
    (frozen : FrozenAt place now before) :
    Attains before history (runProgram fire limit caller program) fun _ events after =>
      Stretch place now before events after ∧ calledEntries events = [] := by
  induction program generalizing before history with
  | finished => exact .pure ⟨.of_same coherent frozen (.refl before), rfl⟩
  | call call next ih =>
    obtain ⟨sent, sends⟩ := sends
    obtain ⟨reply, between, answers⟩ := answers_of_startsAhead sent before
    have zero : call = ⟨0, call.request⟩ := by cases sent <;> rfl
    have first := @stretch_of_answers _ _ _ _ _ _ (some caller) coherent frozen sent answers
    have performs : Attains before history (perform fire limit call) fun answer events after =>
        answer = reply ∧ events = [] ∧ after = between := by
      rw [zero]
      exact .of_outcome (outcome_perform_of_answers fire limit answers) ⟨rfl, rfl, rfl⟩
    refine performs.bind ?_
    rintro reply _ between ⟨rfl, rfl, rfl⟩
    have notes (history : History BoardRequest) (event : Event BoardRequest)
        (scheduler : SimScheduler) : Attains scheduler history (note event) fun _ events after =>
        events = [event] ∧ after = scheduler := .note ⟨rfl, rfl⟩
    refine (notes _ _ _).bind ?_
    rintro _ _ _ ⟨rfl, rfl⟩
    refine (ih reply (sends reply) first.coherent first.frozen).of_imp fun _ events after went => ?_
    exact ⟨first.trans went.1, went.2⟩

/-! ## The loop -/

/-- A timer that the handler takes is the first of those that are reached. -/
theorem reachedAt_takeDue {due : Scheduler.DueTimer} (frozen : FrozenAt place now before)
    (takes : before.takeDue place.val = (some due, after)) :
    due.now = now ∧ before.reachedAt place now = due.entry :: after.reachedAt place now := by
  have same : due.now = now := frozen.eq_of_tryRead (tryRead_of_takeDue takes)
  rcases pops_of_takeDue takes with ⟨none, -⟩ | ⟨found, entry, read, here, taken, reached, pops⟩
  · cases none
  obtain rfl : found = place := Fin.ext here
  obtain rfl := Option.some.inj taken
  obtain rfl : read = now := same
  obtain ⟨queue, entries, requeues⟩ := pops.popped
  refine ⟨rfl, ?_⟩
  rw [SimScheduler.reachedAt, SimScheduler.reachedAt, entries, requeues.here]
  exact List.filter_cons_of_pos reached

/-- The handler finds nothing to take only if the head lies ahead. -/
theorem ahead_of_takeDue (frozen : FrozenAt place now before)
    (takes : before.takeDue place.val = (none, after)) {head : QueueEntry}
    (first : (before.board.queueAt place).peekEarliest = some head) :
    Tick.reached now head.expiry = false := by
  obtain ⟨device, registered⟩ := registered_of_waits (List.mem_of_mem_head? first)
  have located : Located before.board place place device := ⟨rfl, registered⟩
  rcases takeDue_cases takes with ⟨⟨error, missing⟩, -, -⟩ |
    ⟨found, device', located', -, ⟨kept, -, -⟩ | ⟨entry, read, -, some, -⟩⟩
  · rw [(Board.locate_eq_ok_iff _ _ _ _).2 ⟨located.id, located.device⟩] at missing
    cases missing
  · obtain rfl : found = place := Fin.ext located'.id
    rw [FrozenAt, located'.portAt_eq] at frozen
    rw [takeDue_fst, frozen.read_eq, Option.map_eq_none_iff] at kept
    rw [located'.queueAt_eq] at first
    rw [Bool.eq_false_iff]
    intro reached
    have taken := DeadlineQueue.popExpired_isSome_iff.2 ⟨head, first, reached⟩
    exact Option.isSome_iff_ne_none.1 taken kept
  · cases some

/-- A timer that is taken and whose callback is called, as a stretch of the loop. -/
theorem stretch_of_takeDue {entry : QueueEntry} {callback : CallbackId} {arg : Nat}
    (coherent : Coherent before) (frozen : FrozenAt place now before)
    (takes : before.takeDue place.val = (some ⟨entry, now, some (callback, arg)⟩, after)) :
    Stretch place now before
      [.fired ⟨0, place.val, entry.timer, entry.expiry, now, callback, arg⟩] after := by
  obtain ⟨-, reached⟩ := reachedAt_takeDue frozen takes
  constructor
  case coherent => exact coherent.takeDue takes
  case frozen => exact frozen.takeDue takes
  case called =>
    intro firing among
    obtain rfl := List.mem_singleton.1 among
    exact ⟨rfl, rfl, rfl⟩
  case shrinks =>
    rw [reached]
    exact List.Sublist.refl _
  case ahead =>
    intro event among timer starts
    obtain rfl := List.mem_singleton.1 among
    rw [deedIn] at starts
    split at starts
    · cases starts
    · cases starts
  case later => exact List.pairwise_singleton _ _
  case waits => exact linked_of_happens coherent (.fired takes)

/-- The call of a callback and what the callback does, as one stretch of the loop. -/
theorem fire_attains {client : Client BoardRequest} (sends : client.Sends StartsAhead)
    (limit depth : Nat) {firing : Firing} (first : Stretch place now before [.fired firing] between) :
    Attains between history (Run.fire client limit (depth + 1) firing) fun _ events after =>
      Stretch place now before events after ∧ calledEntries events = [firing.entry] := by
  obtain ⟨answer, rest, after, ran, went, none⟩ := @runProgram_attains between place now
    (history.push (.fired firing)) (Run.fire client limit depth) limit history.size _
    (sends (history.push (.fired firing)) firing) first.coherent first.frozen
  refine ⟨answer, .fired firing :: rest, after, ?_, first.trans went, ?_⟩
  · rw [outcome_fire, ran, Array.appendList_cons]
  · exact congrArg (firing.entry :: ·) none

/-- While the tick stands still, the loop of the handler ends after as many callbacks as there are reached
timers at most, whatever timers the callbacks start ahead of it, and then the head lies ahead. -/
theorem dispatch_attains {client : Client BoardRequest} (sends : client.Sends StartsAhead)
    (limit depth : Nat) {passes : Nat} (coherent : Coherent before) (frozen : FrozenAt place now before)
    (enough : (before.reachedAt place now).length < passes) :
    Attains before history (dispatch (Run.fire client limit (depth + 1)) 0 place passes)
      fun count events after =>
        Stretch place now before events after ∧ count = (calledEntries events).length ∧
          ∀ head, (after.board.queueAt place).peekEarliest = some head →
            Tick.reached now head.expiry = false := by
  induction passes generalizing before history with
  | zero => cases enough
  | succ passes ih =>
    cases takes : before.takeDue place.val with
    | mk due between =>
      have takes' : Attains before history (onBoard 0 (·.takeDue place.val)) fun answer events after =>
          answer = due ∧ events = [] ∧ after = between :=
        .of_outcome (outcome_onBoard_of_eq takes) ⟨rfl, rfl, rfl⟩
      refine takes'.bind ?_
      rintro due _ between ⟨rfl, rfl, rfl⟩
      match due with
      | none =>
        rcases pops_of_takeDue takes with ⟨-, same⟩ | ⟨_, _, _, -, some, -⟩
        · refine .pure ⟨.of_same coherent (frozen.takeDue takes) same, rfl, fun head first => ?_⟩
          rw [same.queues] at first
          exact ahead_of_takeDue frozen takes first
        · cases some
      | some ⟨entry, seen, none⟩ => cases coherent.callable_of_takeDue takes
      | some ⟨entry, seen, some (callback, arg)⟩ =>
        obtain rfl : seen = now := (reachedAt_takeDue frozen takes).1
        have first := stretch_of_takeDue coherent frozen takes
        refine (fire_attains sends limit depth first).bind ?_
        rintro - events called ⟨went, once⟩
        -- One entry fewer is reached: the one that was called for.
        have fewer : (SimScheduler.reachedAt called place seen).length < passes := by
          have lengths := went.shrinks.length_le
          rw [once, List.length_append, List.length_singleton] at lengths
          omega
        refine (ih went.coherent went.frozen fewer).bind ?_
        rintro others events' after ⟨wentOn, count, ahead⟩
        refine .pure ⟨?_, ?_, ahead⟩
        · rw [List.append_nil]
          exact went.trans wentOn
        · rw [count, List.append_nil, List.nil_append, calledEntries_append, once, List.length_append,
            List.length_singleton, Nat.add_comm]

/-! ## The whole pass -/

/-- A timer that was started and neither called nor withdrawn since waits. -/
theorem waits_of_started (started : List (Event BoardRequest))
    (kept : ∀ event ∈ started, deedIn event timer ≠ .fires ∧ (deedIn event timer).withdraws = false) :
    started.foldl (waitsAfter timer) true = true := by
  induction started with
  | nil => rfl
  | cons event rest ih =>
    obtain ⟨⟨uncalled, left⟩, kept⟩ := List.forall_mem_cons.1 kept
    have waits : waitsAfter timer true event = true := by
      rw [waitsAfter]
      cases deed : deedIn event timer with
      | starts => rfl
      | nothing => rfl
      | fires => exact absurd deed uncalled
      | stops =>
        rw [deed] at left
        cases left
      | attaches =>
        rw [deed] at left
        cases left
    rw [List.foldl_cons, waits, ih kept]

/-- What a pass of the handler of a device comes to that goes by a tick and finds some timers waiting. -/
structure LeavesStarted (place : Fin maxDevices) (now : Ticks) (waiting : List QueueEntry)
    (events : List (Event BoardRequest)) (after : SimScheduler) : Prop where
  own : ∀ firing ∈ events.filterMap Event.firing?,
    firing.board = 0 ∧ firing.device = place.val ∧ firing.now = now
  /-- Callbacks are called for timers that were reached at the beginning, in the order of the queue. -/
  reached : (calledEntries events).Sublist
    (waiting.filter fun entry => Tick.reached now entry.expiry)
  once : ((events.filterMap Event.firing?).map (·.timer)).Nodup
  /-- The handler has left off where the head lies ahead. -/
  ahead : ∀ head, (after.board.queueAt place).peekEarliest = some head →
    Tick.reached now head.expiry = false
  uncalled : ∀ earlier start later timer, events = earlier ++ start :: later →
    deedIn start timer = .starts → ∀ event ∈ later, deedIn event timer ≠ .fires
  /-- A timer that was started and not taken back waits at the end, and is not reached if it waits on
  the device. -/
  waits : ∀ earlier start later timer, events = earlier ++ start :: later →
    deedIn start timer = .starts →
    (∀ event ∈ later, (deedIn event timer).withdraws = false) →
    ∃ other device, WaitsOnce after timer other device ∧
      (other = place → Tick.reached now (after.timers.get timer).expiry = false)

theorem Stretch.leavesStarted (coherent : Coherent before)
    (stretch : Stretch place now before events between)
    (ahead : ∀ head, (between.board.queueAt place).peekEarliest = some head →
      Tick.reached now head.expiry = false) (same : SameBooks between after) :
    LeavesStarted place now (before.board.queueAt place).entries events after := by
  have reached := (List.sublist_append_left _ _).trans stretch.shrinks
  constructor
  case own => exact stretch.called
  case reached => exact reached
  case once =>
    have fewer : ((calledEntries events).map (·.timer)).Sublist
        ((before.board.queueAt place).entries.map (·.timer)) :=
      (reached.trans List.filter_sublist).map _
    rw [calledEntries, List.map_map] at fewer
    exact (coherent.distinct place).sublist fewer
  case ahead =>
    rw [same.queues]
    exact ahead
  case uncalled =>
    rintro earlier start later timer rfl starts event among
    have first := (List.pairwise_append.1 stretch.later).2.1
    exact (List.pairwise_cons.1 first).1 event among timer starts
  case waits =>
    rintro earlier start later timer rfl starts kept
    have uncalled := (List.pairwise_cons.1 (List.pairwise_append.1 stretch.later).2.1).1
    have startWaits (waits : Bool) : waitsAfter timer waits start = true := by
      rw [waitsAfter, starts]
    have linked : (between.timers.get timer).linked = true := by
      rw [stretch.waits, List.foldl_append, List.foldl_cons, startWaits]
      exact waits_of_started later fun event among => ⟨uncalled event among timer starts, kept event among⟩
    obtain ⟨other, device, waits⟩ :=
      (stretch.coherent.same same).linksAgree.once timer (same.timers.symm ▸ linked)
    refine ⟨other, device, waits, ?_⟩
    rintro rfl
    rw [Bool.eq_false_iff]
    intro reached
    have queued : ⟨timer, (after.timers.get timer).expiry⟩ ∈ device.queue.entries :=
      List.mem_of_mem_filter (waits.once ▸ List.mem_singleton_self _)
    rw [← queueAt_of_registered waits.registered, same.queues] at queued
    have among : ⟨timer, (after.timers.get timer).expiry⟩ ∈ between.reachedAt other now :=
      List.mem_filter.2 ⟨queued, reached⟩
    exact stretch.ahead start (List.mem_append_right _ List.mem_cons_self) timer starts
      (List.mem_map.2 ⟨_, among, rfl⟩)

/-- Captures do not move the counter of an enabled device, and the callbacks of the client start timers by
no more than half a turn, stop them, attach them and read ticks, as often as they like and on all devices.
Then an interrupt of the device, at any moment of any run, comes to an end, where the head of the queue
lies ahead. It calls the callbacks of some of the timers that the tick had reached on entry, each once, and
what is started meanwhile is left for a later interrupt. -/
theorem interrupt_leaves_started {allowed : SimBoard → Request BoardRequest → Prop}
    {scheduler : SimScheduler} {handlers : List Handling} {device : Device} {client : Client BoardRequest}
    (passed : Passed allowed ⟨scheduler, history, handlers⟩)
    (registered : scheduler.board.devices.get place = some device) (enabled : device.enabled = true)
    (unmoved : (scheduler.board.port place device).timer.autoAdvance = 0)
    (sends : client.Sends StartsAhead) (limit depth : Nat) {passes : Nat}
    (enough : device.queue.length < passes) :
    ∃ (events : List (Event BoardRequest)) (after : SimScheduler),
      outcome (interrupt (Run.fire client limit (depth + 1)) passes 0 place) (.single scheduler history) =
        (.ok (calledEntries events).length, .single after (history ++ events)) ∧
      LeavesStarted place (scheduler.board.port place device).handlerTick device.queue.entries events
        after := by
  have located : Located scheduler.board place place device := ⟨rfl, registered⟩
  let port := scheduler.board.port place device
  let entered : SimScheduler := { scheduler with
    board := scheduler.board.putPort place port.acknowledged }
  have acknowledges : scheduler.acknowledge place = (true, entered) :=
    acknowledge_of_located located enabled
  have same := SameBooks.acknowledge acknowledges
  have coherent : Coherent entered := passed.coherent.same same
  have queue : entered.board.queueAt place = device.queue :=
    (same.queues place).trans located.queueAt_eq
  have frozen : FrozenAt place port.handlerTick entered := by
    rw [FrozenAt, portAt_putPort_self]
    exact ⟨still_acknowledged unmoved, reading_acknowledged _⟩
  have fewer : (entered.reachedAt place port.handlerTick).length < passes := by
    rw [SimScheduler.reachedAt, queue]
    exact (List.length_filter_le _ _).trans_lt enough
  obtain ⟨fired, events, between, ran, stretch, rfl, ahead⟩ := @dispatch_attains entered place _ history
    _ sends limit depth _ coherent frozen fewer
  refine ⟨events, between.finish place (calledEntries events).length, ?_, ?_⟩
  · rw [interrupt, outcome_bind_of_ok (outcome_onBoard_of_eq acknowledges)]
    change outcome (dispatch _ 0 place passes >>= _) _ = _
    rw [outcome_bind_of_ok ran, outcome_bind_of_ok (outcome_onBoard _ _ _)]
    rfl
  · rw [← queue]
    exact stretch.leavesStarted coherent ahead (.finish _ _ _)

/-- The callback of a timer that is due starts it again by exactly half a turn. It is called once, and
the timer waits for a later interrupt. -/
theorem interrupt_leaves_restarted :
    let running := (nrf51AtRest.init 1 1000000).2
    let attached := (running.attach 1 0 0 7).2
    let due := (attached.startAt 0 0).2
    let restarting : Client BoardRequest := fun _ firing =>
      .call ⟨0, .start firing.timer 0x80000000⟩ fun _ => .finished
    ∃ (history : History BoardRequest) (events : List (Event BoardRequest)) (after : SimScheduler),
      Passed Scheduling ⟨due, history, []⟩ ∧
      outcome (interrupt (Run.fire restarting 4 1) 4 0 secondPlace) (.single due history) =
        (.ok 1, .single after (history ++ events)) ∧
      events = [.fired ⟨0, 1, 0, 0, 0, 0, 7⟩,
        .answered (some 3) ⟨0, .start 0 0x80000000⟩ .done] ∧
      LeavesStarted secondPlace 0 [⟨0, 0⟩] events after ∧
      ∃ place device, WaitsOnce after 0 place device := by
  intro running attached due restarting
  have init : Answers nrf51AtRest (.init 1 1000000) (.ofUnit (.ok ())) running :=
    .init (Prod.ext rfl rfl)
  have attach : Answers running (.attach 1 0 0 7) _ attached := .attach (Prod.eta _).symm
  have start : Answers attached (.startAt 0 0) _ due := .startAt (Prod.eta _).symm
  have atRest : Passed Scheduling ⟨nrf51AtRest, #[], []⟩ := .start DeviceConfig.nrf51 [0, 1, 2] {}
  have passed := ((atRest.progress (.answer .user init rfl)).progress
    (.answer .user attach rfl)).progress (.answer .user start rfl)
  generalize history_eq : Array.push _ _ = history at passed
  let device := (due.board.portAt secondPlace).device
  have registered : due.board.devices.get secondPlace = some device := by decide +kernel
  have enabled : device.enabled = true := by decide +kernel
  have unmoved : (due.board.port secondPlace device).timer.autoAdvance = 0 := by decide +kernel
  have tick : (due.board.port secondPlace device).handlerTick = 0 := by decide +kernel
  have entries : device.queue.entries = [⟨0, 0⟩] := by decide +kernel
  let called : List (Event BoardRequest) := [.fired ⟨0, 1, 0, 0, 0, 0, 7⟩,
    .answered (some 3) ⟨0, .start 0 0x80000000⟩ .done]
  have seen (result) (same : outcome (interrupt (Run.fire restarting 4 1) 4 0 secondPlace)
      (.single due history) = result) : result.2.history.toList = history.toList ++ called := by
    subst history_eq same
    decide +kernel
  clear_value device due attached running
  have sends : restarting.Sends StartsAhead := fun _ firing =>
    ⟨.start firing.timer (by decide) (by decide), fun _ => trivial⟩
  have enough : device.queue.length < 4 := by
    rw [DeadlineQueue.length, entries]
    decide
  obtain ⟨events, after, ran, leaves⟩ :=
    interrupt_leaves_started passed registered enabled unmoved sends 4 0 enough
  obtain rfl : events = called :=
    List.append_cancel_left (Array.toList_appendList.symm.trans (seen _ ran))
  rw [tick, entries] at leaves
  obtain ⟨place, device', waits, -⟩ :=
    leaves.waits [_] _ [] 0 rfl rfl fun _ among => absurd among List.not_mem_nil
  exact ⟨history, _, after, passed, ran, rfl, leaves, place, device', waits⟩

end Simulated

end DeadlineTimers
