import DeadlineTimers.Proofs.Reachable

/-!
# What the history tells

The history notes who made each call, so it tells whether a device was started or stopped last, and
whether a call was made from within the handler of a device. The places of a history are cut off by a
bound, so that every account speaks of what had happened by then, and stays true as more happens.
-/

namespace DeadlineTimers.Simulated

/-- What an event tells of a device: it was started, it was stopped, or neither. -/
def told? (id : DeviceId) : Event BoardRequest → Option Bool
  | .answered _ ⟨0, .init other _⟩ .done => if other = id then some true else none
  | .answered _ ⟨0, .deinit other⟩ .done => if other = id then some false else none
  | _ => none

variable {history : History BoardRequest} {event : Event BoardRequest} {id : DeviceId}
  {bound place : Nat} {runs : Bool}

structure LastTold (history : History BoardRequest) (id : DeviceId) (bound place : Nat)
    (runs : Bool) : Prop where
  before : place < bound
  tells : history[place]?.bind (told? id) = some runs
  last : ∀ later event, place < later → later < bound → history[later]? = some event →
    told? id event = none

/-- A device was started before a bound, and not stopped since. -/
def RunsAt (history : History BoardRequest) (id : DeviceId) (bound : Nat) : Prop :=
  ∃ place, LastTold history id bound place true

/-- The callback called at a place was called for a device, and whoever made a call since was that
callback or one called later. -/
structure CalledWithin (history : History BoardRequest) (id : DeviceId) (bound place : Nat) :
    Prop where
  before : place < bound
  fired : ∃ firing, history[place]? = some (.fired firing) ∧ firing.device = id
  since : ∀ later caller call reply, place < later → later < bound →
    history[later]? = some (.answered caller call reply) → ∃ by_, caller = some by_ ∧ place ≤ by_

/-- A device was stopped before a bound, from within its own handler, and not started since. -/
def StoppedItself (history : History BoardRequest) (id : DeviceId) (bound : Nat) : Prop :=
  ∃ place, LastTold history id bound place false ∧
    ∃ called, CalledWithin history id place called

/-! ## More happens -/

theorem getElem?_push_of_lt {index : Nat} (inside : index < history.size) :
    (history.push event)[index]? = history[index]? := by
  rw [Array.getElem?_push, if_neg (by omega)]

theorem getElem?_push_cases {index : Nat} {other : Event BoardRequest}
    (found : (history.push event)[index]? = some other) :
    index < history.size ∧ history[index]? = some other ∨ index = history.size ∧ other = event := by
  have inside := (Array.getElem?_eq_some_iff.1 found).1
  rw [Array.size_push] at inside
  rcases Nat.lt_succ_iff_lt_or_eq.1 inside with earlier | rfl
  · rw [getElem?_push_of_lt earlier] at found
    exact .inl ⟨earlier, found⟩
  · rw [Array.getElem?_push_size, Option.some_inj] at found
    exact .inr ⟨rfl, found.symm⟩

theorem LastTold.push (told : LastTold history id bound place runs) (within : bound ≤ history.size) :
    LastTold (history.push event) id bound place runs where
  before := told.before
  tells := by
    have := told.before
    rw [getElem?_push_of_lt (by omega)]
    exact told.tells
  last later event after before found := by
    rw [getElem?_push_of_lt (by omega)] at found
    exact told.last later event after before found

theorem CalledWithin.push (called : CalledWithin history id bound place)
    (within : bound ≤ history.size) : CalledWithin (history.push event) id bound place where
  before := called.before
  fired := by
    have := called.before
    rw [getElem?_push_of_lt (by omega)]
    exact called.fired
  since later caller call reply after before found := by
    rw [getElem?_push_of_lt (by omega)] at found
    exact called.since later caller call reply after before found

theorem LastTold.extend (told : LastTold history id history.size place runs)
    (silent : told? id event = none) :
    LastTold (history.push event) id (history.size + 1) place runs where
  before := Nat.lt_succ_of_lt told.before
  tells := (told.push le_rfl).tells
  last later event' after before found := by
    rcases Nat.lt_succ_iff_lt_or_eq.1 before with inside | rfl
    · exact (told.push le_rfl).last later event' after inside found
    · rw [Array.getElem?_push_size, Option.some_inj] at found
      exact found ▸ silent

theorem LastTold.shrink (told : LastTold (history.push event) id (history.size + 1) place runs)
    (silent : told? id event = none) : LastTold history id history.size place runs := by
  have inside : place < history.size := by
    rcases Nat.lt_succ_iff_lt_or_eq.1 told.before with inside | rfl
    · exact inside
    · have tells := told.tells
      rw [Array.getElem?_push_size, Option.bind_some, silent] at tells
      cases tells
  refine ⟨inside, ?_, fun later event' after before found => ?_⟩
  · have tells := told.tells
    rwa [getElem?_push_of_lt inside] at tells
  · refine told.last later event' after (Nat.lt_succ_of_lt before) ?_
    rwa [getElem?_push_of_lt before]

theorem LastTold.of_tells (tells : told? id event = some runs) :
    LastTold (history.push event) id (history.size + 1) history.size runs where
  before := Nat.lt_succ_self _
  tells := by rw [Array.getElem?_push_size, Option.bind_some, tells]
  last later event' after before found := by omega

theorem LastTold.unique {place' : Nat} {runs' : Bool} (told : LastTold history id bound place runs)
    (told' : LastTold history id bound place' runs') : place = place' ∧ runs = runs' := by
  have silent {place place' : Nat} {runs runs' : Bool}
      (told : LastTold history id bound place runs)
      (told' : LastTold history id bound place' runs') : ¬place < place' := by
    intro earlier
    obtain ⟨event, found, tells⟩ := Option.bind_eq_some_iff.1 told'.tells
    rw [told.last place' event earlier told'.before found] at tells
    cases tells
  have same : place = place' := by
    have := silent told told'
    have := silent told' told
    omega
  subst same
  exact ⟨rfl, Option.some_inj.1 (told.tells.symm.trans told'.tells)⟩

theorem runsAt_push_of_silent (silent : told? id event = none) :
    RunsAt (history.push event) id (history.size + 1) ↔ RunsAt history id history.size :=
  ⟨fun ⟨place, told⟩ => ⟨place, told.shrink silent⟩,
    fun ⟨place, told⟩ => ⟨place, told.extend silent⟩⟩

theorem runsAt_push_of_tells (tells : told? id event = some runs) :
    RunsAt (history.push event) id (history.size + 1) ↔ runs = true := by
  constructor
  · rintro ⟨place, told⟩
    exact ((LastTold.of_tells tells).unique told).2
  · rintro rfl
    exact ⟨history.size, .of_tells tells⟩

theorem StoppedItself.extend (stopped : StoppedItself history id history.size)
    (silent : told? id event = none) :
    StoppedItself (history.push event) id (history.size + 1) := by
  obtain ⟨place, told, called, within⟩ := stopped
  exact ⟨place, told.extend silent, called, within.push (Nat.le_of_lt told.before)⟩

theorem StoppedItself.push (stopped : StoppedItself history id bound)
    (within : bound ≤ history.size) : StoppedItself (history.push event) id bound := by
  obtain ⟨place, told, called, inner⟩ := stopped
  have := told.before
  exact ⟨place, told.push within, called, inner.push (by omega)⟩

theorem not_stoppedItself_of_unfired (unfired : ∀ event ∈ history, ∀ firing, event ≠ .fired firing) :
    ¬StoppedItself history id bound := by
  rintro ⟨place, told, called, within⟩
  obtain ⟨firing, found, -⟩ := within.fired
  exact unfired _ (Array.mem_of_getElem? found) firing rfl

theorem RunsAt.push (runs : RunsAt history id bound) (within : bound ≤ history.size) :
    RunsAt (history.push event) id bound :=
  runs.imp fun _ told => told.push within

/-! ## Running handlers -/

/-- The running handlers are those that the history tells of: the callback in each was called for its
device, and only the innermost one may have no callback running. -/
structure HandlersFit (history : History BoardRequest) (handlers : List Handling) : Prop where
  called : ∀ handling ∈ handlers, ∀ place, handling.caller = some place →
    CalledWithin history handling.device history.size place
  nested : handlers.Pairwise fun inner outer => ∃ place, outer.caller = some place ∧
    ∀ later, inner.caller = some later → place ≤ later

variable {handlers : List Handling} {caller : Option Nat}

theorem CalledWithin.extend (called : CalledWithin history id history.size place)
    (later : ∀ caller call reply, event = .answered caller call reply →
      ∃ by_, caller = some by_ ∧ place ≤ by_) :
    CalledWithin (history.push event) id (history.size + 1) place where
  before := Nat.lt_succ_of_lt called.before
  fired := (called.push le_rfl).fired
  since index caller call reply after before found := by
    rcases Nat.lt_succ_iff_lt_or_eq.1 before with inside | rfl
    · exact (called.push le_rfl).since index caller call reply after inside found
    · rw [Array.getElem?_push_size, Option.some_inj] at found
      exact later caller call reply found

/-- While a call is made, every running handler has a callback running, called before the caller or
being the caller. -/
theorem HandlersFit.calling (fit : HandlersFit history handlers) (calls : Calls handlers caller)
    {handling : Handling} (among : handling ∈ handlers) :
    ∃ by_ place, caller = some by_ ∧ handling.caller = some place ∧ place ≤ by_ := by
  cases calls with
  | user => cases among
  | callback id by_ others =>
    rcases List.mem_cons.1 among with rfl | among
    · exact ⟨by_, by_, rfl, rfl, le_rfl⟩
    · obtain ⟨place, called, before⟩ := List.rel_of_pairwise_cons fit.nested among
      exact ⟨by_, place, rfl, called, before by_ rfl⟩

theorem HandlersFit.answered (fit : HandlersFit history handlers) (calls : Calls handlers caller)
    (call : Call BoardRequest) (reply : Reply) :
    HandlersFit (history.push (.answered caller call reply)) handlers where
  called handling among place called := by
    rw [Array.size_push]
    refine (fit.called handling among place called).extend fun caller' _ _ same => ?_
    obtain ⟨rfl, -, -⟩ := Event.answered.inj same
    obtain ⟨by_, place', rfl, called', before⟩ := fit.calling calls among
    obtain rfl := Option.some_inj.1 (called.symm.trans called')
    exact ⟨by_, rfl, before⟩
  nested := fit.nested

theorem HandlersFit.enter (fit : HandlersFit history handlers) (calls : Calls handlers caller)
    (id : DeviceId) : HandlersFit history (⟨id, none⟩ :: handlers) where
  called handling among place called := by
    rcases List.mem_cons.1 among with rfl | among
    · cases called
    · exact fit.called handling among place called
  nested := by
    refine List.pairwise_cons.2 ⟨fun handling among => ?_, fit.nested⟩
    obtain ⟨-, place, -, called, -⟩ := fit.calling calls among
    exact ⟨place, called, fun _ none => by cases none⟩

theorem HandlersFit.fire (fit : HandlersFit history (⟨id, none⟩ :: handlers)) {firing : Firing}
    (device : firing.device = id) :
    HandlersFit (history.push (.fired firing)) (⟨id, some history.size⟩ :: handlers) where
  called handling among place called := by
    rw [Array.size_push]
    rcases List.mem_cons.1 among with rfl | among
    · obtain rfl := Option.some_inj.1 called
      refine ⟨Nat.lt_succ_self _, ⟨firing, Array.getElem?_push_size, device⟩, ?_⟩
      intro later _ _ _ after before
      omega
    · have before := fit.called handling (List.mem_cons_of_mem _ among) place called
      exact before.extend fun _ _ _ same => by cases same
  nested := by
    obtain ⟨outer, inner⟩ := List.pairwise_cons.1 fit.nested
    refine List.pairwise_cons.2 ⟨fun handling among => ?_, inner⟩
    obtain ⟨place, called, -⟩ := outer handling among
    refine ⟨place, called, fun later same => ?_⟩
    have before := (fit.called handling (List.mem_cons_of_mem _ among) place called).before
    obtain rfl := Option.some_inj.1 same
    exact Nat.le_of_lt before

theorem HandlersFit.resume {by_ : Nat} (fit : HandlersFit history (⟨id, some by_⟩ :: handlers)) :
    HandlersFit history (⟨id, none⟩ :: handlers) where
  called handling among place called := by
    rcases List.mem_cons.1 among with rfl | among
    · cases called
    · exact fit.called handling (List.mem_cons_of_mem _ among) place called
  nested := by
    obtain ⟨outer, inner⟩ := List.pairwise_cons.1 fit.nested
    refine List.pairwise_cons.2 ⟨fun handling among => ?_, inner⟩
    obtain ⟨place, called, -⟩ := outer handling among
    exact ⟨place, called, fun _ none => by cases none⟩

theorem HandlersFit.leave {handling : Handling} (fit : HandlersFit history (handling :: handlers)) :
    HandlersFit history handlers where
  called handling among := fit.called handling (List.mem_cons_of_mem _ among)
  nested := (List.pairwise_cons.1 fit.nested).2

/-- At every moment the running handlers are those that the history tells of. -/
theorem Passed.handlersFit {allowed : SimBoard → Request BoardRequest → Prop} {moment : Moment}
    (passed : Passed allowed moment) : HandlersFit moment.history moment.handlers := by
  induction passed with
  | start layout ids logger =>
    refine ⟨?_, List.Pairwise.nil⟩
    intro handling among
    cases among
  | progress _ progress ih =>
    cases progress with
    | register registers offered => exact ih
    | move wiring move =>
      cases move with
      | answer calls permitted answers => exact ih.answered calls _ _
      | report call reply calls => exact ih.answered calls _ _
      | advance => exact ih
      | quiet => exact ih
      | enter calls summons acknowledges => exact ih.enter calls _
      | dismiss => exact ih
      | skip => exact ih
      | fire takes => exact ih.fire rfl
      | resume => exact ih.resume
      | leave => exact ih.leave

end DeadlineTimers.Simulated
