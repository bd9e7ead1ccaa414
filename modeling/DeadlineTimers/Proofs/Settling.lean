import DeadlineTimers.Proofs.OnTime

/-!
# Serving settles

Serving a line repeats the handler for as long as the line is active, up to a bound. One run is enough
where deadlines can be told apart: the handler takes whatever its tick has reached, the compare that it
arms lies ahead, and so it marks nothing pending that would call for another run. What made the line
active does not matter, be it a mark, a compare, a latched overflow, or several of these.
-/

namespace DeadlineTimers

open Simulated

namespace Port

variable {port : SimPort} {earlier : TimerId → TimerId → Prop} {expiry : Ticks}

/-- The tick and all deadlines of a device lie within half a turn, and on a narrow counter what is not due
yet lies nearer than that by an epoch. -/
structure InReach (port : SimPort) : Prop where
  window : ∃ base : Ticks, (port.tick - base).toNat < 2 ^ 31 ∧
    ∀ entry ∈ port.device.queue.entries, (entry.expiry - base).toNat < 2 ^ 31
  near : port.device.width.isNarrow = true → ∀ entry ∈ port.device.queue.entries,
    Tick.reached port.tick entry.expiry = false →
      (entry.expiry - port.tick).toNat + port.device.width.states < 2 ^ 31

theorem InReach.drainExpired_eq_filter (inReach : port.InReach)
    (ranked : port.device.queue.Ranked earlier) :
    (port.device.queue.drainExpired port.tick).1 =
        port.device.queue.entries.filter (fun entry => Tick.reached port.tick entry.expiry) ∧
      (port.device.queue.drainExpired port.tick).2.entries =
        port.device.queue.entries.filter fun entry => !Tick.reached port.tick entry.expiry := by
  obtain ⟨base, inside, window⟩ := inReach.window
  exact ranked.drainExpired_eq_filter window inside

/-- The head that is left after draining lies ahead, and near enough to be armed. -/
theorem InReach.coming (inReach : port.InReach) (ranked : port.device.queue.Ranked earlier)
    (head : (port.device.queue.drainExpired port.tick).2.nextExpiry = some expiry) :
    port.Coming expiry := by
  rw [DeadlineQueue.nextExpiry_eq, Option.map_eq_some_iff] at head
  obtain ⟨entry, first, rfl⟩ := head
  have left := List.mem_of_head? first
  rw [(inReach.drainExpired_eq_filter ranked).2, List.mem_filter, Bool.not_eq_true'] at left
  obtain ⟨waits, ahead⟩ := left
  exact ⟨ahead, fun narrow => inReach.near narrow entry waits ahead⟩

end Port

namespace Simulated

open Run

variable {scheduler : SimScheduler} {place : Fin maxDevices} {history : History BoardRequest}

/-- The line of a device is quiet, and nothing that waits on the device is due. -/
structure AtRest (place : Fin maxDevices) (scheduler : SimScheduler) : Prop where
  unmarked : scheduler.board.controller.isPending (scheduler.board.layout.get place).line = false
  unasserted : (scheduler.board.peripherals.get place).irqAsserted = false
  ahead : ∀ entry ∈ (scheduler.board.queueAt place).entries,
    Tick.reached (scheduler.board.portAt place).tick entry.expiry = false

theorem atRest_of_steady (steady : (scheduler.board.portAt place).Steady)
    (line : OnItsLine scheduler.board place)
    (ahead : ∀ entry ∈ (scheduler.board.queueAt place).entries,
      Tick.reached (scheduler.board.portAt place).tick entry.expiry = false) :
    AtRest place scheduler := by
  obtain ⟨unmarked, unasserted⟩ := Bool.or_eq_false_iff.1 steady.inactive
  rw [line] at unmarked
  exact ⟨unmarked, unasserted, ahead⟩

abbrev serviceOf (place : Fin maxDevices) : Call BoardRequest := ⟨0, .platform (.service place)⟩

/-- Serving the line of a device that is steady does nothing, whatever callbacks would do. -/
theorem execute_service_of_steady (steady : (scheduler.board.portAt place).Steady)
    (line : OnItsLine scheduler.board place) (client : Client BoardRequest) (bounds : Bounds)
    (history : History BoardRequest) :
    outcome (execute client bounds (.call (serviceOf place))) (.single scheduler history) =
      (.ok (.number 0), .single scheduler
        (history.push (.answered none (serviceOf place) (.number 0)))) :=
  execute_of_served rfl (servicePass_quiet servicePasses steady line)

/-- Serving the line of a running device settles. The handler runs once if the line is active and not at
all if it is not, however many more passes are allowed. It calls the callbacks of exactly those timers
whose deadlines the tick has reached, an overflow still latched included, in the order of the queue.
Afterwards the line is quiet, nothing that waits is due, and serving again does nothing. Captures do not
move the counter, the callbacks make no calls, and the deadlines are in reach of the tick. Whatever
callbacks did before, timers were queued only with all deadlines of the device within half a turn. -/
theorem service_settles (runs : InWindows place ⟨scheduler, history, []⟩) {device : Device}
    (registered : scheduler.board.devices.get place = some device) (enabled : device.enabled = true)
    (unmoved : (scheduler.board.port place device).timer.autoAdvance = 0)
    (inReach : (scheduler.board.port place device).InReach) {bounds : Bounds}
    (passes : device.queue.length < bounds.dispatch) (nests : 0 < bounds.depth) :
    let port := scheduler.board.port place device
    let isDue (entry : QueueEntry) : Bool := Tick.reached port.tick entry.expiry
    let due := device.queue.entries.filter isDue
    let called := due.map (calledFor scheduler.timers place port.tick)
    let handler := interrupt (Run.fire silentClient bounds.dispatch bounds.depth) bounds.dispatch
    ∃ after, outcome (execute silentClient bounds (.call (serviceOf place)))
          (.single scheduler history) =
        (.ok (.number due.length), .single after ((history ++ called).push
          (.answered none (serviceOf place) (.number due.length)))) ∧
      (∀ entry ∈ due, (scheduler.timers.get entry.timer).callback.isSome = true) ∧
      (after.board.portAt place).device.isrs = device.isrs + (if port.lineActive then 1 else 0) ∧
      (∀ passes, outcome (servicePass handler 0 place (passes + 1)) (.single scheduler history) =
        (.ok due.length, .single after (history ++ called))) ∧
      (after.board.queueAt place).entries = device.queue.entries.filter (fun entry => !isDue entry) ∧
      (after.board.portAt place).tick = port.tick ∧
      AtRest place after ∧
      ∀ client bounds history,
        outcome (execute client bounds (.call (serviceOf place))) (.single after history) =
          (.ok (.number 0), .single after
            (history.push (.answered none (serviceOf place) (.number 0)))) := by
  intro port isDue due called handler
  have located : Located scheduler.board place place device := ⟨rfl, registered⟩
  obtain ⟨ready, settled, line⟩ := ready_of_runs runs registered enabled unmoved
  obtain ⟨dispatch, depth⟩ := bounds
  obtain ⟨depth, rfl⟩ := Nat.exists_eq_add_one_of_ne_zero (Nat.ne_of_gt nests)
  have ranked := runs.lined.ranked
  rw [located.queueAt_eq] at ranked
  obtain ⟨taken, left⟩ := inReach.drainExpired_eq_filter ranked
  have due_eq : scheduler.due place = due := by
    rw [SimScheduler.due, located.portAt_eq]
    exact taken
  have fewer : due.Sublist device.queue.entries := List.filter_sublist
  have callable : ∀ entry ∈ due, (scheduler.timers.get entry.timer).callback.isSome = true := by
    intro entry among
    refine callable_of_runs runs ?_
    rw [located.queueAt_eq]
    exact fewer.subset among
  have serves := @servicePass_silent scheduler place history dispatch depth ready
  rw [due_eq, located.queueAt_eq, located.portAt_eq] at serves
  rw [located.portAt_eq] at settled
  obtain ⟨after, served, isrs, ran⟩ := serves (fun _ head => inReach.coming ranked head) callable
    (Nat.lt_of_le_of_lt fewer.length_le passes) settled line
  have line' : OnItsLine after.board place := served.onItsLine line
  have waiting : (after.board.queueAt place).entries =
      device.queue.entries.filter fun entry => !isDue entry := by
    rw [served.queue, located.queueAt_eq, located.portAt_eq]
    exact left
  have tick : (after.board.portAt place).tick = port.tick := by
    rw [served.tick, located.portAt_eq]
  refine ⟨after, execute_of_served rfl (ran (servicePasses - 1)), callable, isrs, ran, waiting, tick, ?_,
    execute_service_of_steady served.steady line'⟩
  refine atRest_of_steady served.steady line' fun entry waits => ?_
  rw [waiting, List.mem_filter, Bool.not_eq_true'] at waits
  rw [tick]
  exact waits.2

/-- On a 16-bit counter an overflow is still latched when the line is served. The two timers whose
deadlines lie in the epoch that it opened are called, and the third waits on. -/
theorem service_settles_after_overflow :
    let attached := (beforeOverflow.attach 1 2 0 9).2
    let started := (attached.start 2 100).2
    let late := (SimScheduler.modifyPeripheral secondPlace (TimerAccess.run · (.advance 20)) started).2
    let called : List (Event BoardRequest) :=
      [.fired ⟨0, 1, 0, 65540, 65550, 0, 7⟩, .fired ⟨0, 1, 1, 65540, 65550, 0, 8⟩]
    ∃ history after, InWindows secondPlace ⟨late, history, []⟩ ∧
      outcome (execute silentClient ⟨4, 1⟩ (.call (serviceOf secondPlace))) (.single late history) =
        (.ok (.number 2), .single after ((history ++ called).push
          (.answered none (serviceOf secondPlace) (.number 2)))) ∧
      (after.board.portAt secondPlace).device.isrs = 1 ∧
      (after.board.queueAt secondPlace).entries = [⟨2, 65630⟩] ∧ AtRest secondPlace after := by
  intro attached started late called
  have attach : Answers beforeOverflow (.attach 1 2 0 9) _ attached := .attach (Prod.eta _).symm
  have start : Answers attached (.start 2 100) _ started := .start (Prod.eta _).symm
  have move : Answers started (.platform (.access 1 (.advance 20))) (.reading .nothing) late :=
    .access secondPlace (Prod.ext rfl rfl)
  obtain ⟨_, runs⟩ := inWindows_beforeOverflow
  have runs := runs.answer attach rfl fun grew => absurd grew (by decide +kernel)
  have runs := runs.answer start rfl fun _ => ⟨0, by decide +kernel⟩
  have runs := runs.answer move rfl fun grew => absurd grew (by decide +kernel)
  let device := (late.board.portAt secondPlace).device
  have registered : late.board.devices.get secondPlace = some device := by decide +kernel
  have enabled : device.enabled = true := by decide +kernel
  have unserved : device.isrs = 0 := by decide +kernel
  have wide : device.width.states = 2 ^ 16 := by decide +kernel
  have unmoved : (late.board.port secondPlace device).timer.autoAdvance = 0 := by decide +kernel
  have active : (late.board.port secondPlace device).lineActive = true := by decide +kernel
  have tick : (late.board.port secondPlace device).tick = 65550 := by decide +kernel
  have queue : device.queue.entries = [⟨0, 65540⟩, ⟨1, 65540⟩, ⟨2, 65630⟩] := by decide +kernel
  have calls : [calledFor late.timers 1 65550 ⟨0, 65540⟩, calledFor late.timers 1 65550 ⟨1, 65540⟩] =
      called := by decide +kernel
  clear_value device late
  have inReach : (late.board.port secondPlace device).InReach := by
    have states : (late.board.port secondPlace device).device.width.states = 2 ^ 16 := wide
    have waits : (late.board.port secondPlace device).device.queue.entries = _ := queue
    constructor
    · rw [tick, waits]
      exact ⟨0, by decide⟩
    · intro _
      rw [tick, waits, states]
      decide
  have length : device.queue.length < 4 := by
    rw [DeadlineQueue.length, queue]
    decide
  obtain ⟨after, ran, -, isrs, -, left, -, rests, -⟩ := @service_settles late secondPlace _ runs device
    registered enabled unmoved inReach ⟨4, 1⟩ length Nat.one_pos
  rw [tick, queue] at ran left
  rw [active, unserved] at isrs
  refine ⟨_, after, runs, ?_, isrs, left, rests⟩
  rw [← calls]
  exact ran

end Simulated

end DeadlineTimers
