import DeadlineTimers.Proofs.LocalOperations
import DeadlineTimers.Proofs.StartOrder

/-!
# Devices do not interfere

The devices of a board share the interrupt controller, the clock and the table of timers, and a timer
names its device only by a number. Still, two devices on different lines have scopes with nothing in
common: the timers that wait on a device are attached to it, so they are not among those of the other.
What acts within one scope is then not seen in the other, and two such effects come to the same in either
order.
-/

namespace DeadlineTimers.Simulated

open Run

namespace Nvic

theorem slot_ne_of_ne {line other : IrqLine} (inside : line < lineCount) (inside' : other < lineCount)
    (different : line ≠ other) : slot line ≠ slot other := by
  intro same
  have equal : line % lineCount = other % lineCount := congrArg Fin.val same
  rw [Nat.mod_eq_of_lt inside, Nat.mod_eq_of_lt inside'] at equal
  exact different equal

theorem eq_of_marks_eq {first second : Nvic} (same : ∀ line, first.marks line = second.marks line) :
    first = second := by
  obtain ⟨lines⟩ := first
  obtain ⟨lines'⟩ := second
  refine congrArg Nvic.mk (Vector.ext fun line inside => ?_)
  simpa [marks, slot, Nat.mod_eq_of_lt inside] using same line

end Nvic

/-! ## Scopes with nothing in common -/

structure Scope.Apart (scope other : Scope) : Prop where
  place : scope.place ≠ other.place
  line : Nvic.slot scope.line ≠ Nvic.slot other.line
  timers : ∀ timer, scope.timers timer → ¬other.timers timer

variable {scope other : Scope} {view view' : View} {before after : SimScheduler} {α β : Type}
  {requests requests' : UInt32}

theorem Scope.Apart.symm (apart : scope.Apart other) : other.Apart scope :=
  ⟨apart.place.symm, apart.line.symm, fun timer inside among => apart.timers timer among inside⟩

/-- An effect within one scope is not seen in another. -/
theorem Shows.frame (shows : Shows scope view before) (apart : scope.Apart other)
    (within : Within other before after) : Shows scope view after where
  device := (within.devices _ apart.place).trans shows.device
  peripheral := (within.peripherals _ apart.place).trans shows.peripheral
  marks := (within.marks _ apart.line).trans shows.marks
  slots timer inside :=
    (within.slots timer (apart.timers timer inside)).trans (shows.slots timer inside)

/-- Two effects within scopes that have nothing in common come to the same in either order. -/
theorem agree_of_apart {one another first second : SimScheduler} (apart : scope.Apart other)
    (oneFirst : Becomes scope view requests before one)
    (otherSecond : Becomes other view' requests' one first)
    (otherFirst : Becomes other view' requests' before another)
    (oneSecond : Becomes scope view requests another second) :
    first.board = second.board ∧ ∀ timer, first.timers.get timer = second.timers.get timer := by
  have here := oneFirst.shows.frame apart otherSecond.within
  have here' := oneSecond.shows
  have there := otherSecond.shows
  have there' := otherFirst.shows.frame apart.symm oneSecond.within
  have devices (place : Fin maxDevices) :
      first.board.devices.get place = second.board.devices.get place := by
    by_cases own : place = scope.place
    · rw [own, here.device, here'.device]
    by_cases own' : place = other.place
    · rw [own', there.device, there'.device]
    rw [otherSecond.within.devices _ own', oneFirst.within.devices _ own,
      oneSecond.within.devices _ own, otherFirst.within.devices _ own']
  have peripherals (place : Fin maxDevices) :
      first.board.peripherals.get place = second.board.peripherals.get place := by
    by_cases own : place = scope.place
    · rw [own, here.peripheral, here'.peripheral]
    by_cases own' : place = other.place
    · rw [own', there.peripheral, there'.peripheral]
    rw [otherSecond.within.peripherals _ own', oneFirst.within.peripherals _ own,
      oneSecond.within.peripherals _ own, otherFirst.within.peripherals _ own']
  have marks (line : IrqLine) :
      first.board.controller.marks line = second.board.controller.marks line := by
    by_cases own : Nvic.slot line = Nvic.slot scope.line
    · rw [Nvic.marks_congr own, Nvic.marks_congr own, here.marks, here'.marks]
    by_cases own' : Nvic.slot line = Nvic.slot other.line
    · rw [Nvic.marks_congr own', Nvic.marks_congr own', there.marks, there'.marks]
    rw [otherSecond.within.marks _ own', oneFirst.within.marks _ own, oneSecond.within.marks _ own,
      otherFirst.within.marks _ own']
  have clock : first.board.clock = second.board.clock := by
    have starts : first.board.clock.starts = second.board.clock.starts := by
      rw [otherSecond.clock, oneFirst.clock, oneSecond.clock, otherFirst.clock, UInt32.add_assoc,
        UInt32.add_assoc, UInt32.add_comm requests]
    exact congrArg Clock.mk starts
  have layout : first.board.layout = second.board.layout := by
    rw [otherSecond.within.layout, oneFirst.within.layout, oneSecond.within.layout,
      otherFirst.within.layout]
  constructor
  · have devices := Vector.ext fun place inside => devices ⟨place, inside⟩
    have peripherals := Vector.ext fun place inside => peripherals ⟨place, inside⟩
    have controller := Nvic.eq_of_marks_eq marks
    generalize first.board = board at *
    cases board
    simp_all
  · intro timer
    by_cases own : scope.timers timer
    · rw [here.slots timer own, here'.slots timer own]
    by_cases own' : other.timers timer
    · rw [there.slots timer own', there'.slots timer own']
    rw [otherSecond.within.slots _ own', oneFirst.within.slots _ own, oneSecond.within.slots _ own,
      otherFirst.within.slots _ own']

/-- Two runs within scopes that have nothing in common can be made in either order. -/
theorem commute_of_apart {run : SimRun α} {run' : SimRun β} {post : α → View → Prop}
    {post' : β → View → Prop} (apart : scope.Apart other) (acts : RunActs scope view run post)
    (acts' : RunActs other view' run' post') (shows : Shows scope view before)
    (shows' : Shows other view' before) (history : History BoardRequest) :
    ∃ answer answer' first second, ∃ events events' : History BoardRequest,
      outcome (do let answer ← run; let answer' ← run'; pure (answer, answer'))
          (.single before history) =
        (.ok (answer, answer'), .single first (history ++ events ++ events')) ∧
      outcome (do let answer' ← run'; let answer ← run; pure (answer, answer'))
          (.single before history) =
        (.ok (answer, answer'), .single second (history ++ events' ++ events)) ∧
      first.board = second.board ∧ ∀ timer, first.timers.get timer = second.timers.get timer := by
  obtain ⟨answer, _, _, events, -, -, acts⟩ := acts
  obtain ⟨answer', _, _, events', -, -, acts'⟩ := acts'
  obtain ⟨one, ran, oneFirst⟩ := acts before history shows
  obtain ⟨first, ran', otherSecond⟩ :=
    acts' one (history ++ events) (shows'.frame apart.symm oneFirst.within)
  obtain ⟨another, came, otherFirst⟩ := acts' before history shows'
  obtain ⟨second, came', oneSecond⟩ :=
    acts another (history ++ events') (shows.frame apart otherFirst.within)
  refine ⟨answer, answer', first, second, events, events', ?_, ?_,
    agree_of_apart apart oneFirst otherSecond otherFirst oneSecond⟩
  · rw [outcome_bind_of_ok ran, outcome_bind_of_ok ran', outcome_pure]
  · rw [outcome_bind_of_ok came, outcome_bind_of_ok came', outcome_pure]

/-! ## Operations on two devices -/

/-- A call of a user whose callbacks make no calls. -/
def operate (limit depth : Nat) (request : Request BoardRequest) : SimRun Reply :=
  perform (Run.fire silentClient limit (depth + 1)) limit ⟨0, request⟩

/-- A device, its hardware, its line and the timers attached to it are as they were. -/
structure Unaffected (place : Fin maxDevices) (device : Device) (before after : SimScheduler) :
    Prop where
  registered : after.board.devices.get place = some device
  peripheral : after.board.peripherals.get place = before.board.peripherals.get place
  line : after.board.controller.marks device.config.line =
    before.board.controller.marks device.config.line
  slots : ∀ timer, (before.timers.get timer).device = some place.val →
    after.timers.get timer = before.timers.get timer

/-- A device, its line, the timers attached to it, and the timer that a request is about. -/
def scopeOf (scheduler : SimScheduler) (place : Fin maxDevices) (device : Device)
    (request : Request BoardRequest) : Scope where
  place := place
  line := device.config.line
  timers timer := (scheduler.timers.get timer).device = some place.val ∨ subject? request = some timer

def viewOf (scheduler : SimScheduler) (place : Fin maxDevices) (device : Device) : View where
  device := device
  timer := scheduler.board.peripherals.get place
  marks := scheduler.board.controller.marks device.config.line
  slots := scheduler.timers.get

section Operations

variable {allowed : SimBoard → Request BoardRequest → Prop} {scheduler : SimScheduler}
  {history : History BoardRequest} {handlers : List Handling} {place other : Fin maxDevices}
  {device device' : Device} {request request' : Request BoardRequest} {limit : Nat}

theorem shows_viewOf (registered : scheduler.board.devices.get place = some device)
    (request : Request BoardRequest) :
    Shows (scopeOf scheduler place device request) (viewOf scheduler place device) scheduler :=
  ⟨registered, rfl, rfl, fun _ _ => rfl⟩

/-- The timer that a request is about is attached to the device or to none. -/
theorem Addressed.owner {slots : TimerId → TimerSlot} {id : DeviceId} {timer : TimerId}
    (addressed : Addressed slots id request) (subject : subject? request = some timer) :
    (slots timer).device = none ∨ (slots timer).device = some id := by
  cases addressed with
  | start mine | startAt mine | stop mine | attach mine =>
    obtain rfl := Option.some.inj subject
    exact mine
  | _ => cases subject

theorem operate_acts (coherent : Coherent scheduler)
    (registered : scheduler.board.devices.get place = some device)
    (inside : device.config.line < lineCount) (enough : device.queue.length < limit) (depth : Nat)
    (addressed : Addressed scheduler.timers.get place request) :
    RunActs (scopeOf scheduler place device request) (viewOf scheduler place device)
      (operate limit depth request) fun _ _ => True := by
  have queue := queueAt_of_registered registered
  have fits : (viewOf scheduler place device).Fits (scopeOf scheduler place device request) := by
    refine ⟨rfl, fun entry waits => .inl ?_⟩
    exact (coherent.queued place entry (queue ▸ waits)).owner
  refine RunActs.perform limit depth fits inside enough (fun timer linked => ?_) addressed
    fun timer subject => .inr subject
  obtain ⟨place, device, -, -, owner, -⟩ := coherent.entry_of_linked linked
  change (scheduler.timers.get timer).device ≠ none
  rw [owner]
  exact Option.some_ne_none _

theorem apart_scopeOf (different : place ≠ other) (inside : device.config.line < lineCount)
    (inside' : device'.config.line < lineCount)
    (separate : device.config.line ≠ device'.config.line)
    (addressed : Addressed scheduler.timers.get place request)
    (addressed' : Addressed scheduler.timers.get other request')
    (subjects : ∀ timer, subject? request = some timer → subject? request' ≠ some timer) :
    (scopeOf scheduler place device request).Apart (scopeOf scheduler other device' request') := by
  have apart : place.val ≠ other.val := fun same => different (Fin.ext same)
  refine ⟨different, Nvic.slot_ne_of_ne inside inside' separate, fun timer => ?_⟩
  rintro (owner | subject) (owner' | subject')
  · rw [owner] at owner'
    exact apart (Option.some.inj owner')
  · rcases addressed'.owner subject' with none | owner'
    · cases owner.symm.trans none
    · exact apart (Option.some.inj (owner.symm.trans owner'))
  · rcases addressed.owner subject with none | owner
    · cases owner'.symm.trans none
    · exact apart (Option.some.inj (owner.symm.trans owner'))
  · exact subjects timer subject subject'

/-- At every moment of every run, an operation that is addressed to a device leaves another device on
another line alone, and operations on two devices and on different timers can be made in either
order. -/
theorem devices_independent (passed : Passed allowed ⟨scheduler, history, handlers⟩)
    (registered : scheduler.board.devices.get place = some device)
    (registered' : scheduler.board.devices.get other = some device') (different : place ≠ other)
    (inside : device.config.line < lineCount) (inside' : device'.config.line < lineCount)
    (separate : device.config.line ≠ device'.config.line) (enough : device.queue.length < limit)
    (enough' : device'.queue.length < limit) (depth : Nat) :
    (∀ request, Addressed scheduler.timers.get place request →
      ∃ reply after events, outcome (operate limit depth request) (.single scheduler history) =
          (.ok reply, .single after (history ++ events)) ∧
        Unaffected other device' scheduler after) ∧
    ∀ request request', Addressed scheduler.timers.get place request →
      Addressed scheduler.timers.get other request' →
      (∀ timer, subject? request = some timer → subject? request' ≠ some timer) →
      ∃ reply reply' first second, ∃ events events' : History BoardRequest,
        outcome (do
            let reply ← operate limit depth request
            let reply' ← operate limit depth request'
            pure (reply, reply')) (.single scheduler history) =
          (.ok (reply, reply'), .single first (history ++ events ++ events')) ∧
        outcome (do
            let reply' ← operate limit depth request'
            let reply ← operate limit depth request
            pure (reply, reply')) (.single scheduler history) =
          (.ok (reply, reply'), .single second (history ++ events' ++ events)) ∧
        first.board = second.board ∧
        ∀ timer, first.timers.get timer = second.timers.get timer := by
  have coherent : Coherent scheduler := passed.coherent
  constructor
  · intro request addressed
    obtain ⟨reply, _, _, events, -, -, acts⟩ :=
      operate_acts coherent registered inside enough depth addressed
    obtain ⟨after, ran, became⟩ := acts scheduler history (shows_viewOf registered request)
    refine ⟨reply, after, events, ran, ?_⟩
    -- a reading of the other device is about no timer, so its scope is what must not change
    have apart := apart_scopeOf different inside inside' separate addressed .tryRead
      fun _ _ none => by cases none
    have kept := (shows_viewOf registered' (.tryRead other)).frame apart.symm became.within
    exact ⟨kept.device, kept.peripheral, kept.marks, fun timer owner => kept.slots timer (.inl owner)⟩
  · intro request request' addressed addressed' subjects
    exact commute_of_apart
      (apart_scopeOf different inside inside' separate addressed addressed' subjects)
      (operate_acts coherent registered inside enough depth addressed)
      (operate_acts coherent registered' inside' enough' depth addressed')
      (shows_viewOf registered request) (shows_viewOf registered' request') history

end Operations

/-- Two devices of the nRF51 run, and each is about to have a timer started on it. -/
theorem starts_on_two_devices_commute :
    let one := (nrf51AtRest.init 0 1000000).2
    let both := (one.init 1 1000000).2
    let attached := (both.attach 0 0 0 7).2
    let ready := (attached.attach 1 1 0 8).2
    ∃ device history, ready.board.devices.get secondPlace = some device ∧
      device.enabled = true ∧
      (∃ reply after events, outcome (operate 1 0 (.startAt 0 100)) (.single ready history) =
          (.ok reply, .single after (history ++ events)) ∧
        Unaffected secondPlace device ready after) ∧
      ∃ reply reply' first second, ∃ events events' : History BoardRequest,
        outcome (do
            let reply ← operate 1 0 (.startAt 0 100)
            let reply' ← operate 1 0 (.startAt 1 200)
            pure (reply, reply')) (.single ready history) =
          (.ok (reply, reply'), .single first (history ++ events ++ events')) ∧
        outcome (do
            let reply' ← operate 1 0 (.startAt 1 200)
            let reply ← operate 1 0 (.startAt 0 100)
            pure (reply, reply')) (.single ready history) =
          (.ok (reply, reply'), .single second (history ++ events' ++ events)) ∧
        first.board = second.board ∧
        ∀ timer, first.timers.get timer = second.timers.get timer := by
  intro one both attached ready
  have init : Answers nrf51AtRest (.init 0 1000000) (.ofUnit (.ok ())) one := .init (Prod.ext rfl rfl)
  have init' : Answers one (.init 1 1000000) (.ofUnit (.ok ())) both := .init (Prod.ext rfl rfl)
  have attach : Answers both (.attach 0 0 0 7) _ attached := .attach (Prod.eta _).symm
  have attach' : Answers attached (.attach 1 1 0 8) _ ready := .attach (Prod.eta _).symm
  let place : Fin maxDevices := ⟨0, by decide⟩
  let device := (ready.board.portAt place).device
  let device' := (ready.board.portAt secondPlace).device
  have registered : ready.board.devices.get place = some device := by decide +kernel
  have registered' : ready.board.devices.get secondPlace = some device' := by decide +kernel
  have enabled : device'.enabled = true := by decide +kernel
  have line : device.config.line = 8 := by decide +kernel
  have line' : device'.config.line = 9 := by decide +kernel
  have empty : device.queue.length = 0 := by decide +kernel
  have empty' : device'.queue.length = 0 := by decide +kernel
  have owner : (ready.timers.get 0).device = some 0 := by decide +kernel
  have owner' : (ready.timers.get 1).device = some 1 := by decide +kernel
  clear_value device' device ready attached both one
  let allowed : SimBoard → Request BoardRequest → Prop := fun _ _ => True
  have atRest : Passed allowed ⟨nrf51AtRest, #[], []⟩ := .start DeviceConfig.nrf51 [0, 1, 2] {}
  have passed := (((atRest.progress (.answer .user init trivial)).progress
    (.answer .user init' trivial)).progress (.answer .user attach trivial)).progress
    (.answer .user attach' trivial)
  have independent := devices_independent passed registered registered' (by decide)
    (line ▸ by decide) (line' ▸ by decide) (by rw [line, line']; decide)
    (empty ▸ Nat.one_pos) (empty' ▸ Nat.one_pos) 0
  obtain ⟨alone, commute⟩ := independent
  have addressed : Addressed ready.timers.get place (.startAt 0 100) := .startAt (.inr owner) 100
  have addressed' : Addressed ready.timers.get secondPlace (.startAt 1 200) :=
    .startAt (.inr owner') 200
  have subjects (timer : TimerId) (subject : subject? (.startAt 0 100) = some timer) :
      subject? (.startAt 1 200) ≠ some timer := by
    obtain rfl := Option.some.inj subject
    decide
  exact ⟨device', _, registered', enabled, alone _ addressed,
    commute _ _ addressed addressed' subjects⟩

end DeadlineTimers.Simulated
