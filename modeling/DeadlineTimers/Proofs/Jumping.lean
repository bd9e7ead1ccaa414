import DeadlineTimers.Proofs.Poised
import DeadlineTimers.Proofs.StoppedDevices

/-!
# Jumping agrees with stepping

A jump is one long tick: the counter moves, and the line is served. A step is as many short ones. So one
lemma about a tick of any length serves both: what has fallen due by its end is taken, and the device is
poised again. Since ticks add up, the two leave the same queue and devices that are alike, although the
handler ran at other times and other numbers of times.
-/

namespace DeadlineTimers.Simulated

open Port Run

variable {scheduler before between after : SimScheduler} {place : Fin maxDevices}
  {history : History BoardRequest} {due due' : List QueueEntry} {elapsed elapsed' : Nat}

/-- Only the device of a place has changed with its hardware, and timers that fell due do not wait any
more. -/
structure Changes (place : Fin maxDevices) (due : List QueueEntry) (before after : SimScheduler) :
    Prop where
  board : after.board = before.board.putPort place (after.board.portAt place)
  timers : after.timers = (due.map (·.timer)).foldl unlink before.timers

/-- A line was served, after which it may still be marked pending. -/
structure Attended (place : Fin maxDevices) (before after : SimScheduler) : Prop where
  changes : Changes place (before.due place) before after
  poised : (after.board.portAt place).Poised
  moved : (before.board.portAt place).Moved 0 (after.board.portAt place)
  tick : (after.board.portAt place).tick = (before.board.portAt place).tick
  queue : after.board.queueAt place =
    ((before.board.queueAt place).drainExpired (before.board.portAt place).tick).2

structure Advanced (place : Fin maxDevices) (ticks : Ticks) (before next : SimScheduler) :
    Prop where
  ready : (next.board.portAt place).Ready
  settled : (next.board.portAt place).Settled
  line : OnItsLine next.board place
  changes : Changes place [] before next
  moved : (before.board.portAt place).Moved ticks.toNat (next.board.portAt place)
  tick : (next.board.portAt place).tick = (before.board.portAt place).tick + ticks
  queue : next.board.queueAt place = before.board.queueAt place

structure Lapses (place : Fin maxDevices) (before : SimScheduler) (elapsed : Nat)
    (due : List QueueEntry) (after : SimScheduler) : Prop where
  changes : Changes place due before after
  lapsed : (before.board.portAt place).Lapsed elapsed due (after.board.portAt place)

/-- The device of a place is poised, and its queue is in order and holds deadlines that lie ahead by less
than half a turn. -/
structure Expecting (place : Fin maxDevices) (scheduler : SimScheduler) : Prop where
  poised : (scheduler.board.portAt place).Poised
  line : OnItsLine scheduler.board place
  callable : ∀ entry ∈ (scheduler.board.queueAt place).entries,
    (scheduler.timers.get entry.timer).callback.isSome = true
  ascending : (scheduler.board.queueAt place).Ranked fun _ _ => True
  ahead : ∀ entry ∈ (scheduler.board.queueAt place).entries,
    0 < (entry.expiry - (scheduler.board.portAt place).tick).toNat
  half : ∀ entry ∈ (scheduler.board.queueAt place).entries,
    (entry.expiry - (scheduler.board.portAt place).tick).toNat < 2 ^ 31

/-! ## Changes at one place -/

namespace Changes

theorem refl (enabled : (scheduler.board.portAt place).device.enabled = true) :
    Changes place [] scheduler scheduler := by
  obtain ⟨located, same⟩ := located_of_enabled enabled
  have put := located.putPort_self
  rw [same] at put
  exact ⟨put.symm, rfl⟩

theorem trans (first : Changes place due before between) (second : Changes place due' between after) :
    Changes place (due ++ due') before after where
  board := by rw [second.board, first.board, putPort_putPort, portAt_putPort_self]
  timers := by rw [second.timers, first.timers, List.map_append, List.foldl_append]

theorem onItsLine (changes : Changes place due before after)
    (device : (after.board.portAt place).device.config = (before.board.portAt place).device.config)
    (line : OnItsLine before.board place) : OnItsLine after.board place := by
  rw [OnItsLine, device, changes.board]
  exact line

end Changes

/-! ## Serving a line -/

namespace Attended

theorem refl (poised : (scheduler.board.portAt place).Poised)
    (drained : (scheduler.board.queueAt place).drainExpired (scheduler.board.portAt place).tick =
      ([], scheduler.board.queueAt place)) : Attended place scheduler scheduler where
  changes := by
    have nothing : scheduler.due place = [] := congrArg Prod.fst drained
    rw [nothing]
    exact .refl poised.ready.enabled
  poised := poised
  moved := .refl _
  tick := rfl
  queue := (congrArg Prod.snd drained).symm

/-- Nothing is due once the line was served. -/
theorem drained (attended : Attended place before after) :
    (after.board.queueAt place).drainExpired (after.board.portAt place).tick =
      ([], after.board.queueAt place) := by
  rw [attended.queue, attended.tick]
  exact DeadlineQueue.drainExpired_drained _ _

theorem onItsLine (attended : Attended place before after) (line : OnItsLine before.board place) :
    OnItsLine after.board place :=
  attended.changes.onItsLine (by rw [attended.moved.device]) line

theorem trans (first : Attended place before between) (second : Attended place between after) :
    Attended place before after where
  changes := by
    have none : between.due place = [] := congrArg Prod.fst first.drained
    have changes := first.changes.trans second.changes
    rwa [none, List.append_nil] at changes
  poised := second.poised
  moved := first.moved.trans second.moved
  tick := second.tick.trans first.tick
  queue := by rw [second.queue, first.drained, first.queue]

end Attended

theorem attended_handled (ready : (scheduler.board.portAt place).Ready)
    (line : OnItsLine scheduler.board place) :
    Attended place scheduler ((scheduler.cleared place).handled place) := by
  have ready' := ready_cleared ready line
  obtain ⟨board, timers⟩ := handled_eq (scheduler.cleared place) place
  obtain ⟨poised, tick, queue⟩ := poised_handled ready'
  have moved := Moved.handled ready'
  have port : ((scheduler.cleared place).handled place).board.portAt place =
      ((scheduler.cleared place).board.portAt place).handled := by
    rw [board, portAt_putPort_self]
  rw [portAt_cleared line] at moved
  rw [← port] at poised tick queue
  refine ⟨⟨?_, timers⟩, poised, ?_, tick, queue⟩
  · rw [port]
    exact board
  · rw [port, portAt_cleared line]
    exact (Moved.takePending _).trans moved

section Silent

variable (limit depth : Nat)

/-- Serving a line over and over while nothing is due calls nothing, but the device is poised after each
pass of the handler. -/
theorem servicePass_of_drained (passes : Nat) (poised : (scheduler.board.portAt place).Poised)
    (line : OnItsLine scheduler.board place) (positive : 0 < limit)
    (drained : (scheduler.board.queueAt place).drainExpired (scheduler.board.portAt place).tick =
      ([], scheduler.board.queueAt place)) :
    ∃ after, Attended place scheduler after ∧
      outcome (servicePass (silentHandler limit depth) 0 place passes) (.single scheduler history) =
        (.ok 0, .single after history) := by
  induction passes generalizing scheduler with
  | zero => exact ⟨scheduler, .refl poised drained, rfl⟩
  | succ passes ih =>
    cases active : (scheduler.board.portAt place).lineActive with
    | false =>
      exact ⟨scheduler, .refl poised drained, servicePass_quiet (passes + 1)
        ⟨poised.ready, poised.settled, active⟩ line⟩
    | true =>
      -- The handler may mark the line again, so nothing but the number of passes ends this.
      have first := attended_handled poised.ready line
      obtain ⟨after, second, ran⟩ := ih first.poised (first.onItsLine line) first.drained
      have nothing : scheduler.due place = [] := congrArg Prod.fst drained
      refine ⟨after, first.trans second, ?_⟩
      rw [servicePass_of_active limit depth poised.ready (by simp [nothing]) (by simpa [nothing])
        line active, nothing, List.map_nil, Array.appendList_nil, outcome_map_of_ok ran]
      rfl

/-- However near or far the next deadline is, serving the line takes what is due by the tick. -/
theorem servicePass_attends (passes : Nat) (ready : (scheduler.board.portAt place).Ready)
    (settled : (scheduler.board.portAt place).Settled) (line : OnItsLine scheduler.board place)
    (callable : ∀ entry ∈ scheduler.due place,
      (scheduler.timers.get entry.timer).callback.isSome = true)
    (enough : (scheduler.due place).length < limit) :
    ∃ after, Attended place scheduler after ∧
      outcome (servicePass (silentHandler limit depth) 0 place (passes + 1))
          (.single scheduler history) =
        (.ok (scheduler.due place).length, .single after (history ++ (scheduler.due place).map
          (calledFor scheduler.timers place (scheduler.board.portAt place).tick))) := by
  cases active : (scheduler.board.portAt place).lineActive with
  | false =>
    have steady : Steady (scheduler.board.portAt place) := ⟨ready, settled, active⟩
    obtain ⟨nothing, served⟩ := served_of_steady steady
    refine ⟨scheduler, .refl steady.poised (Prod.ext nothing served.queue.symm), ?_⟩
    rw [servicePass_quiet (passes + 1) steady line, nothing, List.map_nil, Array.appendList_nil]
    rfl
  | true =>
    have first := attended_handled ready line
    obtain ⟨after, second, ran⟩ := servicePass_of_drained limit depth passes first.poised
      (first.onItsLine line) (Nat.zero_lt_of_lt enough) first.drained
    refine ⟨after, first.trans second, ?_⟩
    rw [servicePass_of_active limit depth ready callable enough line active, outcome_map_of_ok ran]
    rfl

end Silent

/-! ## Ticks that go by -/

namespace Lapses

theorem trans (first : Lapses place before elapsed due between)
    (second : Lapses place between elapsed' due' after) (short : elapsed + elapsed' < 2 ^ 32) :
    Lapses place before (elapsed + elapsed') (due ++ due') after :=
  ⟨first.changes.trans second.changes, first.lapsed.trans second.lapsed short⟩

end Lapses

namespace Expecting

theorem lapses_zero (expecting : Expecting place scheduler) : Lapses place scheduler 0 [] scheduler where
  changes := .refl expecting.poised.ready.enabled
  lapsed := ⟨expecting.poised, .refl _, (UInt32.add_zero _).symm,
    rfl, fun _ among => absurd among List.not_mem_nil, expecting.ahead⟩

/-- What was not due lies ahead still. -/
theorem after_lapse (expecting : Expecting place before) (lapses : Lapses place before elapsed due after)
    (short : elapsed < 2 ^ 32) : Expecting place after := by
  obtain ⟨changes, poised, moved, tick, split, -, beyond⟩ := lapses
  have whole : (UInt32.ofNat elapsed).toNat = elapsed := UInt32.toNat_ofNat_of_lt' short
  have waited {entry : QueueEntry} (waits : entry ∈ (after.board.queueAt place).entries) :
      entry ∈ (before.board.queueAt place).entries := split ▸ List.mem_append_right _ waits
  have nearer {entry : QueueEntry} (waits : entry ∈ (after.board.queueAt place).entries) :
      (entry.expiry - (after.board.portAt place).tick).toNat =
        (entry.expiry - (before.board.portAt place).tick).toNat - elapsed := by
    have beyond := beyond entry waits
    rw [tick, Tick.sub_add_toNat (by omega), whole]
  refine ⟨poised, changes.onItsLine (by rw [moved.device]) expecting.line, fun entry waits => ?_, ?_,
    fun entry waits => ?_, fun entry waits => ?_⟩
  · rw [changes.timers, (foldl_unlink_remembers _ _ _).1]
    exact expecting.callable entry (waited waits)
  · refine expecting.ascending.of_sublist ?_ fun _ _ _ _ => id
    exact split ▸ List.sublist_append_right _ _
  · have beyond := beyond entry waits
    rw [nearer waits]
    omega
  · have half := expecting.half entry (waited waits)
    rw [nearer waits]
    omega

end Expecting

theorem advanced_of_poised (poised : (scheduler.board.portAt place).Poised)
    (line : OnItsLine scheduler.board place) {ticks : Ticks}
    (round : (scheduler.board.portAt place).device.width.isNarrow = true →
      ticks.toNat ≤ (scheduler.board.portAt place).device.width.states) :
    Advanced place ticks scheduler
      (scheduler.modifyPeripheral place fun timer => ((), timer.advance ticks)).2 := by
  let next := (scheduler.modifyPeripheral place fun timer => ((), timer.advance ticks)).2
  have port : next.board.portAt place =
      (scheduler.board.portAt place).modifyTimer (·.advance ticks) :=
    portAt_modifyPeripheral_self _ _ _
  have ready := poised.ready.advance ticks
  have settled := poised.ready.settled_advance poised.settled ticks
  have tick := tick_advance_of_round poised.ready.running poised.unlatched round
  have moved := Moved.advance poised.ready.running ticks
  rw [← port] at ready settled tick moved
  refine ⟨ready, settled, ?_, ⟨?_, rfl⟩, moved, tick, ?_⟩
  · rw [OnItsLine, port]
    exact line
  · obtain ⟨located, same⟩ := located_of_enabled poised.ready.enabled
    have put := located.putPort_port ((scheduler.board.peripherals.get place).advance ticks)
    rw [same] at put
    change next.board = scheduler.board.putPort place (next.board.portAt place)
    rw [port]
    exact put.symm
  · change next.board.queueAt place = _
    rw [Board.queueAt, port]
    rfl

/-- After a movement of the counter, serving the line takes what has fallen due by its end. -/
theorem jump_lapses (limit depth : Nat) {ticks : Ticks} (expecting : Expecting place scheduler)
    (enough : (scheduler.board.queueAt place).length < limit) (short : ticks.toNat < 2 ^ 31)
    (round : (scheduler.board.portAt place).device.width.isNarrow = true →
      ticks.toNat ≤ (scheduler.board.portAt place).device.width.states) :
    ∃ due after, Lapses place scheduler ticks.toNat due after ∧
      outcome (jump (silentHandler limit depth) 0 place ticks) (.single scheduler history) =
        (.ok due.length, .single after (history ++ due.map
          (calledFor scheduler.timers place ((scheduler.board.portAt place).tick + ticks)))) := by
  let next := (scheduler.modifyPeripheral place fun timer => ((), timer.advance ticks)).2
  have advanced : Advanced place ticks scheduler next :=
    advanced_of_poised expecting.poised expecting.line round
  have falls := expecting.ascending.fallsDue expecting.half short
  rw [← advanced.tick, ← advanced.queue] at falls
  have fewer : (next.due place).Sublist (scheduler.board.queueAt place).entries := by
    rw [← advanced.queue]
    exact List.takeWhile_sublist _
  obtain ⟨after, attended, ran⟩ := @servicePass_attends next place history limit depth
    (servicePasses - 1) advanced.ready advanced.settled advanced.line
    (fun entry among => expecting.callable entry (fewer.subset among))
    (Nat.lt_of_le_of_lt fewer.length_le enough)
  have moved : outcome (advance 0 place ticks) (.single scheduler history) =
      (.ok (), .single next history) := outcome_onBoard_of_eq rfl
  refine ⟨next.due place, after, ⟨advanced.changes.trans attended.changes, attended.poised,
    advanced.moved.trans attended.moved, ?_, ?_⟩, ?_⟩
  · rw [attended.tick, advanced.tick, UInt32.ofNat_toNat]
  · rw [← attended.queue, advanced.queue] at falls
    exact falls
  · rw [jump, outcome_bind_of_ok moved, ← advanced.tick]
    exact ran

/-- Going tick by tick, whatever falls due is called at its own tick. -/
theorem stepTicks_lapses (limit depth : Nat) {ticks : Nat} (short : ticks < 2 ^ 31)
    (expecting : Expecting place scheduler)
    (enough : (scheduler.board.queueAt place).length < limit) :
    ∃ due after, Lapses place scheduler ticks due after ∧
      outcome (stepTicks (silentHandler limit depth) 0 place ticks) (.single scheduler history) =
        (.ok due.length,
          .single after (history ++ due.map (calledOnTime scheduler.timers place))) := by
  induction ticks generalizing scheduler history with
  | zero =>
    exact ⟨[], scheduler, expecting.lapses_zero, by rw [List.map_nil, Array.appendList_nil]; rfl⟩
  | succ ticks ih =>
    obtain ⟨due, between, first, ran⟩ := @jump_lapses scheduler place history limit depth 1 expecting
      enough (by decide) fun _ => CounterWidth.states_pos _
    have falls := first.lapsed.falls
    have enough' : (between.board.queueAt place).length < limit :=
      Nat.lt_of_le_of_lt falls.length_le enough
    obtain ⟨due', after, second, ran'⟩ := @ih between
      (history ++ due.map (calledOnTime scheduler.timers place)) (by omega)
      (expecting.after_lapse first (by decide)) enough'
    have both := first.trans second (by rw [UInt32.toNat_one]; omega)
    rw [UInt32.toNat_one, Nat.add_comm] at both
    -- Whatever fell due within one tick was waiting for this very tick.
    have called : due.map (calledFor scheduler.timers place
        ((scheduler.board.portAt place).tick + 1)) =
          due.map (calledOnTime scheduler.timers place) := by
      refine List.map_congr_left fun entry among => ?_
      have ahead := expecting.ahead entry (falls.split ▸ List.mem_append_left _ among)
      rw [calledOnTime, Tick.eq_add_one ahead (falls.within entry among)]
    rw [called] at ran
    rw [first.changes.timers, calledOnTime_foldl_unlink] at ran'
    exact ⟨due ++ due', after, both, outcome_stepTicks_succ ran ran'⟩

/-! ## The two runs -/

/-- A device runs with its line quiet, captures do not move its counter, and every deadline lies ahead by
less than half a turn. Then stepping its counter and jumping as far, by less than half a turn or on a
narrow counter by an epoch at most, call the same callbacks in the same order, and leave the same timers,
the same queue and tick, and devices that are alike. The rest of the board is left alone. The callbacks
make no calls while this goes on. Whatever they did before, timers were queued only with all deadlines of
the device within half a turn. -/
theorem jump_agrees_with_step (runs : InWindows place ⟨scheduler, history, []⟩) {device : Device}
    (registered : scheduler.board.devices.get place = some device) (enabled : device.enabled = true)
    (unmoved : (scheduler.board.port place device).timer.autoAdvance = 0)
    (inactive : (scheduler.board.port place device).lineActive = false)
    (near : ∀ entry ∈ device.queue.entries,
      0 < (entry.expiry - (scheduler.board.port place device).tick).toNat ∧
        (entry.expiry - (scheduler.board.port place device).tick).toNat < 2 ^ 31)
    {bounds : Bounds} (passes : device.queue.length < bounds.dispatch) (nests : 0 < bounds.depth)
    {ticks : Ticks} (wide : device.width.isNarrow = false → ticks.toNat < 2 ^ 31)
    (narrow : device.width.isNarrow = true → ticks ≤ device.width.epochSpan) :
    let now := (scheduler.board.port place device).tick
    let isDue (entry : QueueEntry) : Bool := (entry.expiry - now).toNat ≤ ticks.toNat
    let due := device.queue.entries.filter isDue
    let step : Call BoardRequest := ⟨0, .platform (.step place ticks)⟩
    let jump : Call BoardRequest := ⟨0, .platform (.jump place ticks)⟩
    let reply : Reply := .number due.length
    ∃ stepped jumped,
      outcome (execute silentClient bounds (.call step)) (.single scheduler history) =
        (.ok reply, .single stepped ((history ++
          due.map (calledOnTime scheduler.timers place)).push (.answered none step reply))) ∧
      outcome (execute silentClient bounds (.call jump)) (.single scheduler history) =
        (.ok reply, .single jumped ((history ++
          due.map (calledFor scheduler.timers place (now + ticks))).push
            (.answered none jump reply))) ∧
      jumped.timers = stepped.timers ∧
      jumped.board = stepped.board.putPort place (jumped.board.portAt place) ∧
      (stepped.board.portAt place).Alike (jumped.board.portAt place) ∧
      (jumped.board.queueAt place).entries =
        (device.queue.entries.filter fun entry => !isDue entry) ∧
      (stepped.board.portAt place).tick = now + ticks ∧
      (jumped.board.portAt place).tick = now + ticks := by
  intro now isDue due step jump reply
  have located : Located scheduler.board place place device := ⟨rfl, registered⟩
  obtain ⟨steady, line⟩ := steady_of_runs runs registered enabled unmoved inactive
  rw [← located.queueAt_eq, ← located.portAt_eq] at near
  have expecting : Expecting place scheduler :=
    ⟨steady.poised, line, fun entry waits => callable_of_runs runs waits, ascending_of_runs runs,
      fun entry waits => (near entry waits).1, fun entry waits => (near entry waits).2⟩
  have round (isNarrow : device.width.isNarrow = true) : ticks.toNat ≤ device.width.states :=
    CounterWidth.toNat_le_states (narrow isNarrow)
  have short : ticks.toNat < 2 ^ 31 := by
    cases isNarrow : device.width.isNarrow with
    | false => exact wide isNarrow
    | true =>
      have states := CounterWidth.states_lt_of_narrow isNarrow
      have round := round isNarrow
      omega
  obtain ⟨dispatch, depth⟩ := bounds
  obtain ⟨depth, rfl⟩ := Nat.exists_eq_add_one_of_ne_zero (Nat.ne_of_gt nests)
  rw [← located.queueAt_eq] at passes
  obtain ⟨due', stepped, lapses, ran⟩ := @stepTicks_lapses scheduler place history dispatch depth _ short
    expecting passes
  obtain ⟨due'', jumped, lapses', ran'⟩ := @jump_lapses scheduler place history dispatch depth ticks
    expecting passes short (by rw [located.portAt_eq]; exact round)
  obtain rfl : due' = due'' := lapses.lapsed.due_eq lapses'.lapsed
  have alike := lapses.lapsed.alike lapses'.lapsed
  obtain ⟨taken, left⟩ := lapses'.lapsed.falls.filters
  have tick := lapses.lapsed.tick
  have tick' := lapses'.lapsed.tick
  rw [UInt32.ofNat_toNat, located.portAt_eq] at tick tick'
  rw [located.portAt_eq] at taken left ran'
  have same : due = due' := taken
  subst same
  refine ⟨stepped, jumped, execute_of_served rfl (step_of_steady steady line ran),
    execute_of_served rfl ran', ?_, ?_, alike, left.symm, tick, tick'⟩
  · rw [lapses'.changes.timers, lapses.changes.timers]
  · rw [lapses.changes.board, putPort_putPort]
    exact lapses'.changes.board

/-- Over an overflow of a 16-bit counter, where stepping calls both callbacks at tick 65540, and jumping
calls them at 65542. -/
theorem jump_agrees_with_step_over_overflow :
    let step : Call BoardRequest := ⟨0, .platform (.step 1 12)⟩
    let jump : Call BoardRequest := ⟨0, .platform (.jump 1 12)⟩
    let called (now : Ticks) : List (Event BoardRequest) :=
      [.fired ⟨0, 1, 0, 65540, now, 0, 7⟩, .fired ⟨0, 1, 1, 65540, now, 0, 8⟩]
    ∃ history stepped jumped, InWindows secondPlace ⟨beforeOverflow, history, []⟩ ∧
      outcome (execute silentClient ⟨3, 1⟩ (.call step)) (.single beforeOverflow history) =
        (.ok (.number 2), .single stepped ((history ++ called 65540).push
          (.answered none step (.number 2)))) ∧
      outcome (execute silentClient ⟨3, 1⟩ (.call jump)) (.single beforeOverflow history) =
        (.ok (.number 2), .single jumped ((history ++ called 65542).push
          (.answered none jump (.number 2)))) ∧
      jumped.timers = stepped.timers ∧
      jumped.board = stepped.board.putPort secondPlace (jumped.board.portAt secondPlace) ∧
      (stepped.board.portAt secondPlace).Alike (jumped.board.portAt secondPlace) := by
  intro step jump called
  obtain ⟨history, runs⟩ := inWindows_beforeOverflow
  let device := (beforeOverflow.board.portAt secondPlace).device
  have registered : beforeOverflow.board.devices.get secondPlace = some device := by decide +kernel
  have enabled : device.enabled = true := by decide +kernel
  have isNarrow : device.width.isNarrow = true := by decide +kernel
  have span : device.width.epochSpan = 65536 := by decide +kernel
  have unmoved : (beforeOverflow.board.port secondPlace device).timer.autoAdvance = 0 := by
    decide +kernel
  have inactive : (beforeOverflow.board.port secondPlace device).lineActive = false := by
    decide +kernel
  have tick : (beforeOverflow.board.port secondPlace device).tick = 65530 := by decide +kernel
  have queue : device.queue.entries = [⟨0, 65540⟩, ⟨1, 65540⟩] := by decide +kernel
  have onTime : [⟨0, 65540⟩, ⟨1, 65540⟩].map (calledOnTime beforeOverflow.timers 1) =
      called 65540 := by decide +kernel
  have late : [⟨0, 65540⟩, ⟨1, 65540⟩].map (calledFor beforeOverflow.timers 1 65542) =
      called 65542 := by decide +kernel
  clear_value device
  generalize beforeOverflow = later at *
  have near : ∀ entry ∈ device.queue.entries,
      0 < (entry.expiry - (later.board.port secondPlace device).tick).toNat ∧
        (entry.expiry - (later.board.port secondPlace device).tick).toNat < 2 ^ 31 := by
    intro entry waits
    rw [queue] at waits
    rw [tick]
    rcases List.mem_pair.1 waits with rfl | rfl
    · decide
    · decide
  have length : device.queue.length < 3 := by
    rw [DeadlineQueue.length, queue]
    decide
  obtain ⟨stepped, jumped, ran, ran', timers, board, alike, -⟩ := @jump_agrees_with_step later
    secondPlace history runs device registered enabled unmoved inactive near ⟨3, 1⟩ length Nat.one_pos
    12 (fun wide => Bool.noConfusion (wide.symm.trans isNarrow)) fun _ => by rw [span]; decide
  rw [tick, queue] at ran ran'
  refine ⟨history, stepped, jumped, runs, ?_, ?_, timers, board, alike⟩
  · rw [← onTime]
    exact ran
  · rw [← late]
    exact ran'

/-- The read channel does differ: it keeps the counter of the last reading, and a jump reads it later. -/
theorem jump_leaves_later_capture :
    let running := (nrf51AtRest.init 0 1000000).2
    let attached := (running.attach 0 0 0 7).2
    let started := (attached.start 0 5).2
    let port := started.board.portAt firstPlace
    let step : Call BoardRequest := ⟨0, .platform (.step 0 10)⟩
    let jump : Call BoardRequest := ⟨0, .platform (.jump 0 10)⟩
    (port.device.enabled = true ∧ port.device.width.isNarrow = false ∧ port.timer.autoAdvance = 0 ∧
      port.lineActive = false ∧ port.tick = 0 ∧ port.device.queue.entries = [⟨0, 5⟩]) ∧
    ∃ before stepped history jumped history', InWindows firstPlace ⟨started, before, []⟩ ∧
      outcome (execute silentClient ⟨3, 1⟩ (.call step)) (.single started before) =
        (.ok (.number 1), .single stepped history) ∧
      outcome (execute silentClient ⟨3, 1⟩ (.call jump)) (.single started before) =
        (.ok (.number 1), .single jumped history') ∧
      (stepped.board.portAt firstPlace).timer.channels.read.compare = 5 ∧
      (jumped.board.portAt firstPlace).timer.channels.read.compare = 10 := by
  intro running attached started port step jump
  have init : Answers nrf51AtRest (.init 0 1000000) (.ofUnit (.ok ())) running :=
    .init (Prod.ext rfl rfl)
  have attach : Answers running (.attach 0 0 0 7) (.ofUnit (running.attach 0 0 0 7).1) attached :=
    .attach (Prod.eta _).symm
  have start : Answers attached (.start 0 5) (.ofUnit (attached.start 0 5).1) started :=
    .start (Prod.eta _).symm
  have apart : LinesApart DeviceConfig.nrf51 := ⟨by decide, by decide⟩
  have runs : InWindows firstPlace ⟨nrf51AtRest, #[], []⟩ :=
    .start DeviceConfig.nrf51 [0, 1, 2] {} apart
  have runs := runs.answer init rfl fun grew => absurd grew (by decide +kernel)
  have runs := runs.answer attach rfl fun grew => absurd grew (by decide +kernel)
  have runs := runs.answer start rfl fun _ => ⟨0, by decide +kernel⟩
  have atRest : Reachable Scheduling nrf51AtRest #[] := .start DeviceConfig.nrf51 [0, 1, 2] {}
  have reachable := ((atRest.answer init rfl).answer attach rfl).answer start rfl
  generalize before_eq : Array.push _ _ = before at reachable runs
  have seen (call : Call BoardRequest) (now : Ticks) (among : (call, now) ∈ [(step, 5), (jump, 10)]) :
      (outcome (execute silentClient ⟨3, 1⟩ (.call call)) (.single started before)).1.toOption =
          some (.number 1) ∧
        (outcome (execute silentClient ⟨3, 1⟩ (.call call))
            (.single started before)).2.boards[0]?.map
          (fun board => (board.portAt firstPlace).timer.channels.read.compare) = some now := by
    subst before_eq
    rcases List.mem_pair.1 among with same | same
    · obtain ⟨rfl, rfl⟩ := Prod.mk.inj same
      decide +kernel
    · obtain ⟨rfl, rfl⟩ := Prod.mk.inj same
      decide +kernel
  obtain ⟨answers, captured⟩ := seen step 5 (by simp)
  obtain ⟨answers', captured'⟩ := seen jump 10 (by simp)
  obtain ⟨stepped, history, ran, -⟩ := reachable.replied silentClient ⟨3, 1⟩ step
    (silentClient_makes _) rfl answers
  obtain ⟨jumped, history', ran', -⟩ := reachable.replied silentClient ⟨3, 1⟩ jump
    (silentClient_makes _) rfl answers'
  rw [ran] at captured
  rw [ran'] at captured'
  exact ⟨by decide +kernel, before, stepped, history, jumped, history', runs, ran, ran',
    Option.some.inj captured, Option.some.inj captured'⟩

end DeadlineTimers.Simulated
