import DeadlineTimers.Proofs.HandlerPass
import DeadlineTimers.Proofs.OwnLine

/-!
# Effects that stay with one device

A scope is a place of the board with its interrupt line and some software timers. An operation acts within
a scope if what it answers, whom it calls and what it leaves there depend on nothing but what the scheduler
shows there, and if it leaves everything else alone. All operations addressed to a device act within the
scope of the device, its line, the timers attached to it, and the timer that the operation is about.
-/

namespace DeadlineTimers.Simulated

open Port Run

/-- A place of the board, its interrupt line, and some software timers. -/
structure Scope where
  place : Fin maxDevices
  line : IrqLine
  timers : TimerId → Prop

/-- What a scheduler shows within a scope. -/
structure View where
  device : Device
  timer : Timer
  marks : LineState
  slots : TimerId → TimerSlot

structure Shows (scope : Scope) (view : View) (scheduler : SimScheduler) : Prop where
  device : scheduler.board.devices.get scope.place = some view.device
  peripheral : scheduler.board.peripherals.get scope.place = view.timer
  marks : scheduler.board.controller.marks scope.line = view.marks
  slots : ∀ timer, scope.timers timer → scheduler.timers.get timer = view.slots timer

/-- The line is that of the device, and the timers that wait on the device are among those of the
scope. -/
structure View.Fits (view : View) (scope : Scope) : Prop where
  line : view.device.config.line = scope.line
  queued : ∀ entry ∈ view.device.queue.entries, scope.timers entry.timer

/-- Nothing changes outside a scope. The clock is shared by all devices and is not counted in. -/
structure Within (scope : Scope) (before after : SimScheduler) : Prop where
  layout : after.board.layout = before.board.layout
  devices : ∀ other, other ≠ scope.place →
    after.board.devices.get other = before.board.devices.get other
  peripherals : ∀ other, other ≠ scope.place →
    after.board.peripherals.get other = before.board.peripherals.get other
  marks : ∀ line, Nvic.slot line ≠ Nvic.slot scope.line →
    after.board.controller.marks line = before.board.controller.marks line
  slots : ∀ timer, ¬scope.timers timer → after.timers.get timer = before.timers.get timer

/-- A change within a scope to what a view says, with a number of requests made of the clock. -/
structure Becomes (scope : Scope) (view : View) (requests : UInt32) (before after : SimScheduler) :
    Prop where
  within : Within scope before after
  shows : Shows scope view after
  clock : after.board.clock.starts = before.board.clock.starts + requests

/-- An operation acts within a scope, with an answer and a view of which something is known. -/
def Acts {α : Type} (scope : Scope) (view : View) (operation : SimScheduler → α × SimScheduler)
    (post : α → View → Prop) : Prop :=
  ∃ answer after requests, after.Fits scope ∧ post answer after ∧
    ∀ before, Shows scope view before →
      (operation before).1 = answer ∧ Becomes scope after requests before (operation before).2

def RunActs {α : Type} (scope : Scope) (view : View) (run : SimRun α) (post : α → View → Prop) :
    Prop :=
  ∃ answer after requests, ∃ events : History BoardRequest, after.Fits scope ∧ post answer after ∧
    ∀ before history, Shows scope view before → ∃ scheduler,
      outcome run (.single before history) = (.ok answer, .single scheduler (history ++ events)) ∧
        Becomes scope after requests before scheduler

variable {scope : Scope} {view view' : View} {before between after : SimScheduler} {α β : Type}
  {requests requests' : UInt32}

def View.port (view : View) : SimPort := ⟨view.device, view.timer, {}⟩

/-! ## Composition -/

namespace Within

theorem refl (scope : Scope) (scheduler : SimScheduler) : Within scope scheduler scheduler :=
  ⟨rfl, fun _ _ => rfl, fun _ _ => rfl, fun _ _ => rfl, fun _ _ => rfl⟩

theorem trans (first : Within scope before between) (second : Within scope between after) :
    Within scope before after where
  layout := second.layout.trans first.layout
  devices other elsewhere := (second.devices other elsewhere).trans (first.devices other elsewhere)
  peripherals other elsewhere :=
    (second.peripherals other elsewhere).trans (first.peripherals other elsewhere)
  marks line another := (second.marks line another).trans (first.marks line another)
  slots timer outside := (second.slots timer outside).trans (first.slots timer outside)

end Within

namespace Becomes

theorem refl (shows : Shows scope view before) : Becomes scope view 0 before before :=
  ⟨.refl scope before, shows, (UInt32.add_zero _).symm⟩

theorem trans (first : Becomes scope view requests before between)
    (second : Becomes scope view' requests' between after) :
    Becomes scope view' (requests + requests') before after where
  within := first.within.trans second.within
  shows := second.shows
  clock := by rw [second.clock, first.clock, UInt32.add_assoc]

/-- The log is not part of what a scope shows. -/
theorem apartFromLog (becomes : Becomes scope view requests before between)
    (same : SameApartFromLog between after) : Becomes scope view requests before after := by
  obtain ⟨board, timers⟩ := same
  obtain ⟨within, shows, clock⟩ := becomes
  constructor
  · exact ⟨board ▸ within.layout, board ▸ within.devices, board ▸ within.peripherals,
      board ▸ within.marks, timers ▸ within.slots⟩
  · exact ⟨board ▸ shows.device, board ▸ shows.peripheral, board ▸ shows.marks, timers ▸ shows.slots⟩
  · exact board ▸ clock

end Becomes

namespace Acts

variable {operation : SimScheduler → α × SimScheduler} {post mid : α → View → Prop}

theorem congr {operation' : SimScheduler → α × SimScheduler} (acts : Acts scope view operation post)
    (same : ∀ before, Shows scope view before → operation' before = operation before) :
    Acts scope view operation' post := by
  obtain ⟨answer, after, requests, fits, holds, acts⟩ := acts
  refine ⟨answer, after, requests, fits, holds, fun before shows => ?_⟩
  rw [same before shows]
  exact acts before shows

theorem andThen {rest : α → SimScheduler → β × SimScheduler} {post : β → View → Prop}
    (first : Acts scope view operation mid)
    (second : ∀ answer after, after.Fits scope → mid answer after →
      Acts scope after (rest answer) post) :
    Acts scope view (fun scheduler => rest (operation scheduler).1 (operation scheduler).2) post := by
  obtain ⟨answer, middle, requests, fits, holds, first⟩ := first
  obtain ⟨answer', after, requests', fits', holds', second⟩ := second answer middle fits holds
  refine ⟨answer', after, requests + requests', fits', holds', fun before shows => ?_⟩
  obtain ⟨answered, became⟩ := first before shows
  obtain ⟨answered', became'⟩ := second _ became.shows
  rw [← answered] at answered' became'
  exact ⟨answered', became.trans became'⟩

/-- An operation that leaves everything as it is, the log apart. -/
theorem of_idle (fits : view.Fits scope) (answer : α) (holds : post answer view)
    (idle : ∀ before, Shows scope view before →
      (operation before).1 = answer ∧ SameApartFromLog before (operation before).2) :
    Acts scope view operation post := by
  refine ⟨answer, view, 0, fits, holds, fun before shows => ?_⟩
  obtain ⟨answered, same⟩ := idle before shows
  exact ⟨answered, (Becomes.refl shows).apartFromLog same⟩

end Acts

namespace RunActs

variable {operation : SimScheduler → α × SimScheduler} {run : SimRun α} {post mid : α → View → Prop}

theorem onBoard (acts : Acts scope view operation post) :
    RunActs scope view (Run.onBoard 0 operation) post := by
  obtain ⟨answer, after, requests, fits, holds, acts⟩ := acts
  refine ⟨answer, after, requests, #[], fits, holds, fun before history shows => ?_⟩
  obtain ⟨answered, becomes⟩ := acts before shows
  refine ⟨_, ?_, becomes⟩
  rw [outcome_onBoard, answered, Array.append_empty]

theorem onBoardOrFault {operation : SimScheduler → Except Fault α × SimScheduler}
    (acts : Acts scope view operation fun answer _ => ∃ given, answer = .ok given) :
    RunActs scope view (Run.onBoardOrFault 0 operation) fun _ _ => True := by
  obtain ⟨_, after, requests, fits, ⟨given, rfl⟩, acts⟩ := acts
  refine ⟨given, after, requests, #[], fits, trivial, fun before history shows => ?_⟩
  obtain ⟨answered, becomes⟩ := acts before shows
  refine ⟨_, ?_, becomes⟩
  rw [outcome_onBoardOrFault_of_ok (Prod.ext answered rfl), Array.append_empty]

theorem pure (fits : view.Fits scope) {answer : α} (holds : post answer view) :
    RunActs scope view (Pure.pure answer) post := by
  refine ⟨answer, view, 0, #[], fits, holds, fun before history shows => ⟨before, ?_, .refl shows⟩⟩
  rw [outcome_pure, Array.append_empty]

theorem bind {next : α → SimRun β} {post : β → View → Prop} (first : RunActs scope view run mid)
    (rest : ∀ answer after, after.Fits scope → mid answer after →
      RunActs scope after (next answer) post) : RunActs scope view (run >>= next) post := by
  obtain ⟨answer, middle, requests, events, fits, holds, first⟩ := first
  obtain ⟨answer', after, requests', events', fits', holds', rest⟩ := rest answer middle fits holds
  refine ⟨answer', after, requests + requests', events ++ events', fits', holds', ?_⟩
  intro before history shows
  obtain ⟨between, ran, became⟩ := first before history shows
  obtain ⟨scheduler, ran', became'⟩ := rest between (history ++ events) became.shows
  refine ⟨scheduler, ?_, became.trans became'⟩
  rw [outcome_bind_of_ok ran, ran', Array.append_assoc]

theorem map {change : α → β} {post : β → View → Prop}
    (acts : RunActs scope view run fun answer after => post (change answer) after) :
    RunActs scope view (change <$> run) post := by
  rw [← bind_pure_comp]
  exact acts.bind fun _ _ fits holds => .pure fits holds

theorem weaken (acts : RunActs scope view run mid)
    (weaker : ∀ answer after, mid answer after → post answer after) :
    RunActs scope view run post := by
  obtain ⟨answer, after, requests, events, fits, holds, acts⟩ := acts
  exact ⟨answer, after, requests, events, fits, weaker answer after holds, acts⟩

/-- A callback that makes no calls is only noted. -/
theorem fire_silent (fits : view.Fits scope) (limit depth : Nat) (firing : Firing) :
    RunActs scope view (Run.fire silentClient limit (depth + 1) firing)
      fun _ after => after = view := by
  refine ⟨(), view, 0, #[.fired firing], fits, rfl, fun before history shows =>
    ⟨before, ?_, .refl shows⟩⟩
  rw [Simulated.fire_silent, Array.push_eq_append]

end RunActs

/-! ## Working on the port of a scope -/

/-- A change of the table of timers stays with the timers of a scope, and what becomes of them depends on
what the scope shows. -/
def Edits (scope : Scope) (view : View) (edit : TimerTable → TimerTable)
    (slots : TimerId → TimerSlot) : Prop :=
  ∀ timers : TimerTable, (∀ timer, scope.timers timer → timers.get timer = view.slots timer) →
    (∀ timer, scope.timers timer → (edit timers).get timer = slots timer) ∧
      ∀ timer, ¬scope.timers timer → (edit timers).get timer = timers.get timer

theorem edits_id (scope : Scope) (view : View) : Edits scope view id view.slots :=
  fun _ shows => ⟨shows, fun _ _ => rfl⟩

theorem edits_modify {timer : TimerId} (inside : scope.timers timer)
    (change : TimerSlot → TimerSlot) :
    Edits scope view (·.modify timer change)
      (Function.update view.slots timer (change (view.slots timer))) := by
  intro timers shows
  constructor
  · intro other among
    change (timers.set timer (change (timers.get timer))).get other = _
    rw [TimerTable.get_set, Function.update_apply, shows timer inside]
    split
    · rfl
    · exact shows other among
  · intro other outside
    refine TimerTable.get_set_of_ne _ _ ?_
    rintro rfl
    exact outside inside

namespace Shows

theorem located (shows : Shows scope view before) :
    Located before.board scope.place scope.place view.device := ⟨rfl, shows.device⟩

theorem locate (shows : Shows scope view before) :
    before.board.locate scope.place = .ok (scope.place, view.device) :=
  (Board.locate_eq_ok_iff _ _ _ _).2 ⟨rfl, shows.device⟩

theorem port (shows : Shows scope view before) :
    before.board.port scope.place view.device =
      { view.port with controller := before.board.controller } := by
  rw [Board.port, shows.peripheral]
  rfl

/-- A lookup of the device of a scope finds it. -/
theorem located_unique (shows : Shows scope view before) {place : Fin maxDevices} {device : Device}
    (found : Located before.board scope.place place device) :
    place = scope.place ∧ device = view.device := by
  obtain rfl : place = scope.place := Fin.ext found.id
  exact ⟨rfl, Option.some.inj (found.device.symm.trans shows.device)⟩

theorem putPort {device : Device} {hardware : Timer} {slots : TimerId → TimerSlot}
    {change : LineState → LineState} (shows : Shows scope view before)
    (board : after.board = ({ before.board with
        clock := ⟨before.board.clock.starts + requests⟩ } : SimBoard).putPort scope.place
          ⟨device, hardware, before.board.controller.modifyMarks scope.line change⟩)
    (inside : ∀ timer, scope.timers timer → after.timers.get timer = slots timer)
    (outside : ∀ timer, ¬scope.timers timer → after.timers.get timer = before.timers.get timer) :
    Becomes scope ⟨device, hardware, change view.marks, slots⟩ requests before after := by
  have apart {other : Fin maxDevices} (elsewhere : other ≠ scope.place) :
      scope.place.val ≠ other.val := fun same => elsewhere (Fin.ext same.symm)
  constructor
  · refine ⟨?_, fun other elsewhere => ?_, fun other elsewhere => ?_, fun line another => ?_, outside⟩
    · rw [board]
      rfl
    · simp [board, Board.putPort, Vector.getElem_set_ne, apart elsewhere]
    · simp [board, Board.putPort, Vector.getElem_set_ne, apart elsewhere]
    · rw [board]
      change (before.board.controller.modifyMarks scope.line change).marks line = _
      rw [Nvic.marks_modifyMarks, if_neg another]
  · refine ⟨?_, ?_, ?_, inside⟩
    · simp [board, Board.putPort]
    · simp [board, Board.putPort]
    · rw [board]
      change (before.board.controller.modifyMarks scope.line change).marks scope.line = _
      rw [Nvic.marks_modifyMarks, if_pos rfl, shows.marks]
  · rw [board]
    rfl

end Shows

/-- An operation that works on the port of a scope and on timers of the scope, and asks the clock. -/
theorem Acts.of_port_asking {operation : SimScheduler → α × SimScheduler} {post : α → View → Prop}
    {work : SimPort → SimPort} {edit : TimerTable → TimerTable} {slots : TimerId → TimerSlot}
    (answer : α) (requests : UInt32) (own : OwnMarks scope.line view.port work)
    (edits : Edits scope view edit slots)
    (line : (work view.port).device.config.line = scope.line)
    (queued : ∀ entry ∈ (work view.port).device.queue.entries, scope.timers entry.timer)
    (holds : ∀ after, after.device = (work view.port).device → after.slots = slots →
      post answer after)
    (works : ∀ before, Shows scope view before → (operation before).1 = answer ∧
      (operation before).2.timers = edit before.timers ∧
      (operation before).2.board = ({ before.board with
          clock := ⟨before.board.clock.starts + requests⟩ } : SimBoard).putPort scope.place
            (work { view.port with controller := before.board.controller })) :
    Acts scope view operation post := by
  obtain ⟨change, own⟩ := own
  refine ⟨answer, ⟨(work view.port).device, (work view.port).timer, change view.marks, slots⟩,
    requests, ⟨line, queued⟩, holds _ rfl rfl, fun before shows => ?_⟩
  obtain ⟨answered, timers, board⟩ := works before shows
  obtain ⟨inside, outside⟩ := edits before.timers shows.slots
  rw [own] at board
  refine ⟨answered, shows.putPort board ?_ ?_⟩
  · rw [timers]
    exact inside
  · rw [timers]
    exact outside

/-- An operation that works on the port of a scope and on timers of the scope. -/
theorem Acts.of_port {operation : SimScheduler → α × SimScheduler} {post : α → View → Prop}
    {work : SimPort → SimPort} {edit : TimerTable → TimerTable} {slots : TimerId → TimerSlot}
    (answer : α) (own : OwnMarks scope.line view.port work) (edits : Edits scope view edit slots)
    (line : (work view.port).device.config.line = scope.line)
    (queued : ∀ entry ∈ (work view.port).device.queue.entries, scope.timers entry.timer)
    (holds : ∀ after, after.device = (work view.port).device → after.slots = slots →
      post answer after)
    (works : ∀ before, Shows scope view before → (operation before).1 = answer ∧
      (operation before).2.timers = edit before.timers ∧
      (operation before).2.board = before.board.putPort scope.place
        (work { view.port with controller := before.board.controller })) :
    Acts scope view operation post := by
  refine .of_port_asking answer 0 own edits line queued holds fun before shows => ?_
  rw [UInt32.add_zero]
  exact works before shows

end DeadlineTimers.Simulated
