import DeadlineTimers.Proofs.Outcome
import DeadlineTimers.Simulated.Board
import Mathlib.Logic.Relation

/-!
# Moments of a run

A run on a simulated board is a sequence of moments: a scheduler, what has happened, and the handlers
that are running, innermost first. `Move` lists what leads from one moment to the next. A call that
runs no handler is answered at once. A handler is entered, takes due timers one after another, calls
their callbacks, which make calls in turn, and is left when nothing is due any more.

Moments say nothing of the programs of callbacks beyond the requests that they are allowed to make, so
what holds at all moments holds whatever the client does.
-/

namespace DeadlineTimers

def Program.Makes {X : Type} (allowed : Request X → Prop) : Program X → Prop
  | .finished => True
  | .call first next => allowed first.request ∧ ∀ reply, (next reply).Makes allowed

def Client.Makes {X : Type} (client : Client X) (allowed : Request X → Prop) : Prop :=
  ∀ history firing, (client history firing).Makes allowed

namespace Simulated

def served? : Request BoardRequest → Option DeviceId
  | .platform (.service id) => some id
  | .platform (.step id _) => some id
  | .platform (.jump id _) => some id
  | .platform (.jumps id _ _) => some id
  | _ => none

def runsHandlers : Request BoardRequest → Bool
  | .interrupt _ => true
  | request => (served? request).isSome

/-- What a request that runs no handler answers, and the scheduler that it leaves. -/
inductive Answers : SimScheduler → Request BoardRequest → Reply → SimScheduler → Prop where
  | init {before after id frequency result}
      (did : before.init id frequency = (.ok result, after)) :
      Answers before (.init id frequency) (.ofUnit result) after
  | deinit {before after id result} (did : before.deinit id = (result, after)) :
      Answers before (.deinit id) (.ofUnit result) after
  | attach {before after id timer callback arg result}
      (did : before.attach id timer callback arg = (result, after)) :
      Answers before (.attach id timer callback arg) (.ofUnit result) after
  | start {before after timer ticks result} (did : before.start timer ticks = (result, after)) :
      Answers before (.start timer ticks) (.ofUnit result) after
  | startAt {before after timer expiry result}
      (did : before.startAt timer expiry = (result, after)) :
      Answers before (.startAt timer expiry) (.ofUnit result) after
  | stop {before after timer result} (did : before.stop timer = (result, after)) :
      Answers before (.stop timer) (.ofUnit result) after
  | read {before after id now} (did : before.read id = (.ok now, after)) :
      Answers before (.read id) (.number now.toNat) after
  | tryRead {before after id result} (did : before.tryRead id = (result, after)) :
      Answers before (.tryRead id) (.ofExcept (fun now => .number now.toNat) result) after
  | delay {before after id ticks} (did : before.delay id ticks = (.ok (), after)) :
      Answers before (.delay id ticks) .done after
  | resolution {before id result} (told : before.resolution id = .ok result) :
      Answers before (.resolution id) (.ofExcept .number result) before
  | frequency {before id} :
      Answers before (.frequency id) (.ofExcept .number (before.frequency id)) before
  | isrCount {before id} :
      Answers before (.isrCount id)
        (.ofExcept (fun count => .number count.toNat) (before.isrCount id)) before
  | pending {before id} :
      Answers before (.pending id) (.ofExcept .number (before.pending id)) before
  | isEnabled {before id} : Answers before (.isEnabled id) (.flag (before.isEnabled id)) before
  | nextDeadline {before id} :
      Answers before (.nextDeadline id)
        (.ofExcept (fun expiry => .maybe (expiry.map (·.toNat))) (before.nextDeadline id)) before
  | timer {before timer} : Answers before (.timer timer) (.timer (before.timers.get timer)) before
  | access {before after access reading} (place : Fin maxDevices)
      (did : before.modifyPeripheral place access.run = (reading, after)) :
      Answers before (.platform (.access place access)) (.reading reading) after
  | setPending {before line} :
      Answers before (.platform (.setPending line)) .done (before.setPending line)
  | takePending {before after line pending} (did : before.takePending line = (pending, after)) :
      Answers before (.platform (.takePending line)) (.flag pending) after

/-- A handler that is running. While a callback runs in it, the place in the history where that
callback was called. -/
structure Handling where
  device : DeviceId
  caller : Option Nat

/-- The scheduler, what has happened, and the running handlers, innermost first. -/
structure Moment where
  scheduler : SimScheduler
  history : History BoardRequest
  handlers : List Handling

def Moment.attended (moment : Moment) : List DeviceId := moment.handlers.map (·.device)

/-- Who may make calls while handlers are running: the user if there are none, and else the callback
that runs in the innermost one. -/
inductive Calls : List Handling → Option Nat → Prop where
  | user : Calls [] none
  | callback (id : DeviceId) (caller : Nat) (others : List Handling) :
      Calls (⟨id, some caller⟩ :: others) (some caller)

variable (allowed : Request BoardRequest → Prop)

/-- The handler of a device is about to run: it was called directly, or its line was served and found
active. -/
inductive Summons : SimScheduler → DeviceId → SimScheduler → Prop where
  | request {scheduler id} (permitted : allowed (.interrupt id)) : Summons scheduler id scheduler
  | line {before after request} {place : Fin maxDevices} (permitted : allowed request)
      (serves : served? request = some place.val)
      (active : before.takeActive place = (true, after)) : Summons before place after

/-- What leads from one moment to the next. -/
inductive Move : Moment → Moment → Prop where
  /-- A call is answered at once. -/
  | answer {before after history handlers caller request reply} (calls : Calls handlers caller)
      (permitted : allowed request) (answers : Answers before request reply after) :
      Move ⟨before, history, handlers⟩
        ⟨after, history.push (.answered caller ⟨0, request⟩ reply), handlers⟩
  /-- A call that may have run handlers is answered. -/
  | report {scheduler history handlers caller} (call : Call BoardRequest) (reply : Reply)
      (calls : Calls handlers caller) (permitted : allowed call.request)
      (runs : runsHandlers call.request = true) :
      Move ⟨scheduler, history, handlers⟩
        ⟨scheduler, history.push (.answered caller call reply), handlers⟩
  /-- A call moves a counter. -/
  | advance {before after history handlers caller request} {place : Fin maxDevices}
      {ticks : Ticks} (calls : Calls handlers caller) (permitted : allowed request)
      (serves : served? request = some place.val)
      (advances : before.modifyPeripheral place (fun timer => ((), timer.advance ticks)) =
        ((), after)) :
      Move ⟨before, history, handlers⟩ ⟨after, history, handlers⟩
  /-- A call serves a line that is not active. -/
  | quiet {before after history handlers caller request} {place : Fin maxDevices}
      (calls : Calls handlers caller) (permitted : allowed request)
      (serves : served? request = some place.val)
      (inactive : before.takeActive place = (false, after)) :
      Move ⟨before, history, handlers⟩ ⟨after, history, handlers⟩
  /-- A handler is entered. -/
  | enter {before between after history handlers caller id} (calls : Calls handlers caller)
      (summons : Summons allowed before id between)
      (acknowledges : between.acknowledge id = (true, after)) :
      Move ⟨before, history, handlers⟩ ⟨after, history, ⟨id, none⟩ :: handlers⟩
  /-- The handler of a stopped or missing device has nothing to do. -/
  | dismiss {before between after history handlers caller id} (calls : Calls handlers caller)
      (summons : Summons allowed before id between)
      (acknowledges : between.acknowledge id = (false, after)) :
      Move ⟨before, history, handlers⟩ ⟨after, history, handlers⟩
  /-- A due timer has no callback. -/
  | skip {before after history handlers id entry now}
      (takes : before.takeDue id = (some ⟨entry, now, none⟩, after)) :
      Move ⟨before, history, ⟨id, none⟩ :: handlers⟩ ⟨after, history, ⟨id, none⟩ :: handlers⟩
  /-- The callback of a due timer is called. -/
  | fire {before after history handlers id entry now callback arg}
      (takes : before.takeDue id = (some ⟨entry, now, some (callback, arg)⟩, after)) :
      Move ⟨before, history, ⟨id, none⟩ :: handlers⟩
        ⟨after, history.push (.fired ⟨0, id, entry.timer, entry.expiry, now, callback, arg⟩),
          ⟨id, some history.size⟩ :: handlers⟩
  /-- A callback returns. -/
  | resume {scheduler history handlers id caller} :
      Move ⟨scheduler, history, ⟨id, some caller⟩ :: handlers⟩
        ⟨scheduler, history, ⟨id, none⟩ :: handlers⟩
  /-- Nothing is due, and the handler is left. -/
  | leave {before after history handlers id} (fired : Nat)
      (takes : before.takeDue id = (none, after)) :
      Move ⟨before, history, ⟨id, none⟩ :: handlers⟩
        ⟨after.finish id fired, history, handlers⟩

variable {allowed} {allowed' : Request BoardRequest → Prop}

theorem Summons.mono {before after : SimScheduler} {id : DeviceId}
    (weaker : ∀ request, allowed request → allowed' request) (summons : Summons allowed before id after) :
    Summons allowed' before id after := by
  cases summons with
  | request permitted => exact .request (weaker _ permitted)
  | line permitted serves active => exact .line (weaker _ permitted) serves active

theorem Move.mono {moment moment' : Moment} (weaker : ∀ request, allowed request → allowed' request)
    (move : Move allowed moment moment') : Move allowed' moment moment' := by
  cases move with
  | answer calls permitted answers => exact .answer calls (weaker _ permitted) answers
  | report call reply calls permitted runs => exact .report call reply calls (weaker _ permitted) runs
  | advance calls permitted serves advances =>
    exact .advance calls (weaker _ permitted) serves advances
  | quiet calls permitted serves inactive => exact .quiet calls (weaker _ permitted) serves inactive
  | enter calls summons acknowledges => exact .enter calls (summons.mono weaker) acknowledges
  | dismiss calls summons acknowledges => exact .dismiss calls (summons.mono weaker) acknowledges
  | skip takes => exact .skip takes
  | fire takes => exact .fire takes
  | resume => exact .resume
  | leave fired takes => exact .leave fired takes

variable (allowed)

abbrev Moves : Moment → Moment → Prop := Relation.ReflTransGen (Move allowed)

end Simulated

end DeadlineTimers
