import DeadlineTimers.Proofs.Reachable
import DeadlineTimers.Proofs.StillPorts

/-!
# One pass of the handler

What a handler comes to when captures do not move the counter and callbacks make no calls. It folds a
latched overflow, and then all its readings return the same tick. So its loop takes exactly what one
draining of the queue by that tick takes, calls the callbacks in that order, and arms the compare for the
head that is left.
-/

namespace DeadlineTimers

namespace Port

open Simulated

variable {port : SimPort}

/-- A port after an interrupt of a running device was acknowledged. -/
def acknowledged (port : SimPort) : SimPort :=
  let cleared := port.modifyTimer fun timer => TimerPeripheral.clearEvent timer .interrupt
  cleared.consumeOverflow.2.modifyDevice fun device => { device with isrs := device.isrs + 1 }

theorem acknowledge_of_enabled (enabled : port.device.enabled = true) :
    port.acknowledge = (true, port.acknowledged) := by
  have runs : port.acknowledged.device.enabled = true := by
    unfold acknowledged consumeOverflow
    dsimp only
    split
    · exact enabled
    · exact enabled
  exact if_pos runs

/-- Acknowledging leaves the tick as it is, whether or not there was an overflow to fold. -/
theorem tick_acknowledged (port : SimPort) : port.acknowledged.tick = port.tick := by
  unfold acknowledged consumeOverflow
  dsimp only
  split
  · next found =>
    obtain ⟨narrow, latched⟩ := Bool.and_eq_true_iff.1 found
    change port.device.width.isNarrow = true at narrow
    change port.timer.channels.overflow.event = true at latched
    rw [tick, tick, if_pos narrow, latched, if_pos rfl]
    change (if port.device.width.isNarrow = true then
      port.device.tally + port.device.width.epochSpan + (if false = true then
        port.device.width.epochSpan else 0) + port.timer.counter else port.timer.counter) = _
    rw [if_pos narrow, if_neg Bool.false_ne_true, UInt32.add_zero]
  · rfl

theorem still_acknowledged (unmoved : port.timer.autoAdvance = 0) : port.acknowledged.Still := by
  unfold acknowledged consumeOverflow
  dsimp only
  split
  · exact ⟨unmoved, fun _ => rfl⟩
  · next none =>
    refine ⟨unmoved, fun narrow => ?_⟩
    rw [Bool.and_eq_true, not_and, Bool.not_eq_true] at none
    exact none narrow

/-- What else acknowledging does to a device that runs. -/
theorem acknowledged_device (port : SimPort) :
    port.acknowledged.device = { port.device with
      tally := port.acknowledged.device.tally
      isrs := port.device.isrs + 1 } ∧
    port.acknowledged.controller = port.controller ∧
    port.acknowledged.timer.channels.interrupt =
      { port.timer.channels.interrupt with event := false } := by
  unfold acknowledged consumeOverflow
  dsimp only
  split
  · exact ⟨rfl, rfl, rfl⟩
  · exact ⟨rfl, rfl, rfl⟩

theorem running_acknowledged (running : port.Running) (enabled : port.device.enabled = true) :
    port.acknowledged.Running := by
  have running := running.events port.ticks_acknowledge
  rw [acknowledge_of_enabled enabled] at running
  exact running

def drainedBy (port : SimPort) (now : Ticks) : SimPort :=
  port.taken.withQueue (port.device.queue.drainExpired now).2

def drained (port : SimPort) : SimPort :=
  port.taken.withQueue (port.device.queue.drainExpired port.tick).2

theorem Still.takeDue_eq (still : port.Still) :
    port.takeDue =
      ((port.device.queue.popExpired port.reading).1.map fun entry => (entry, port.reading),
        port.taken.withQueue (port.device.queue.popExpired port.reading).2) := by
  have taken := takeDue_fst port
  have left := takeDue_snd port
  rw [still.read_eq_reading] at taken left
  exact Prod.ext taken left

end Port

namespace Simulated

open Port Run

variable {scheduler : SimScheduler} {place : Fin maxDevices} {device : Device} {id : DeviceId}

def unlink (timers : TimerTable) (timer : TimerId) : TimerTable :=
  timers.set timer { timers.get timer with linked := false }

def calledFor (timers : TimerTable) (id : DeviceId) (now : Ticks) (entry : QueueEntry) :
    Event BoardRequest :=
  .fired ⟨0, id, entry.timer, entry.expiry, now, (timers.get entry.timer).callback.getD 0,
    (timers.get entry.timer).arg⟩

/-- Unlinking a timer changes nothing else that is remembered of it. -/
theorem get_unlink (timers : TimerTable) (timer other : TimerId) :
    (unlink timers timer).get other = { timers.get other with
      linked := if other = timer then false else (timers.get other).linked } := by
  unfold unlink
  rw [TimerTable.get_set]
  split
  · next same => rw [same]
  · rfl

theorem get_foldl_unlink (unlinked : List TimerId) (timers : TimerTable) (timer : TimerId) :
    (unlinked.foldl unlink timers).get timer = { timers.get timer with
      linked := if timer ∈ unlinked then false else (timers.get timer).linked } := by
  induction unlinked generalizing timers with
  | nil => rfl
  | cons first rest ih =>
    rw [List.foldl_cons, ih, get_unlink]
    by_cases among : timer ∈ rest
    · rw [if_pos among, if_pos (List.mem_cons_of_mem _ among)]
    · rw [if_neg among]
      simp only [List.mem_cons, among, or_false]

theorem calledFor_unlink (timers : TimerTable) (timer : TimerId) (now : Ticks)
    (entry : QueueEntry) :
    calledFor (unlink timers timer) id now entry = calledFor timers id now entry := by
  unfold calledFor
  rw [get_unlink]

/-! ## Operations on a registered device -/

theorem onPort_of_located {α : Type} (located : Located scheduler.board id place device)
    (operation : SimPort → α × SimPort) :
    scheduler.onPort id operation = (.ok (operation (scheduler.board.port place device)).1,
      { scheduler with
        board := scheduler.board.putPort place
          (operation (scheduler.board.port place device)).2 }) := by
  have found := (Board.locate_eq_ok_iff scheduler.board id place device).2
    ⟨located.id, located.device⟩
  unfold Scheduler.onPort Board.onPort
  rw [found]

theorem acknowledge_of_located (located : Located scheduler.board id place device)
    (enabled : device.enabled = true) :
    scheduler.acknowledge id = (true, { scheduler with
      board := scheduler.board.putPort place
        (scheduler.board.port place device).acknowledged }) := by
  have acknowledges := @acknowledge_of_enabled (scheduler.board.port place device) enabled
  unfold Scheduler.acknowledge
  rw [onPort_of_located located, acknowledges]

/-- Nothing is taken before the head has fallen due. -/
theorem takeDue_of_none (located : Located scheduler.board id place device)
    (still : (scheduler.board.port place device).Still)
    (none : (device.queue.popExpired (scheduler.board.port place device).reading).1 = none) :
    scheduler.takeDue id = (.none, { scheduler with
      board := scheduler.board.putPort place (scheduler.board.port place device).taken }) := by
  have queue := DeadlineQueue.popExpired_of_none none
  have takes := still.takeDue_eq
  change (scheduler.board.port place device).takeDue =
    ((device.queue.popExpired (scheduler.board.port place device).reading).1.map _,
      withQueue _ (device.queue.popExpired (scheduler.board.port place device).reading).2) at takes
  rw [none, queue] at takes
  unfold Scheduler.takeDue
  rw [onPort_of_located located, takes]
  rfl

/-- What a scheduler comes to when the head of the queue of a device is taken. -/
def SimScheduler.headTaken (scheduler : SimScheduler) (place : Fin maxDevices) (port : SimPort)
    (entry : QueueEntry) (rest : List QueueEntry) : SimScheduler :=
  { scheduler with
    board := scheduler.board.putPort place (port.taken.withQueue ⟨rest⟩)
    timers := unlink scheduler.timers entry.timer }

theorem takeDue_of_some (located : Located scheduler.board id place device)
    (still : (scheduler.board.port place device).Still) {entry : QueueEntry}
    {rest : List QueueEntry} (entries : device.queue.entries = entry :: rest)
    (due : Tick.reached (scheduler.board.port place device).reading entry.expiry = true) :
    scheduler.takeDue id =
      (some (remembered scheduler.timers entry (scheduler.board.port place device).reading),
        scheduler.headTaken place (scheduler.board.port place device) entry rest) := by
  have pops : device.queue.popExpired (scheduler.board.port place device).reading =
      (some entry, ⟨rest⟩) := by
    unfold DeadlineQueue.popExpired
    rw [entries]
    exact if_pos due
  have takes := still.takeDue_eq
  change (scheduler.board.port place device).takeDue =
    ((device.queue.popExpired (scheduler.board.port place device).reading).1.map _,
      withQueue _ (device.queue.popExpired (scheduler.board.port place device).reading).2) at takes
  rw [pops] at takes
  unfold Scheduler.takeDue
  rw [onPort_of_located located, takes]
  rfl

theorem finish_of_located (located : Located scheduler.board place place device) (fired : Nat) :
    (scheduler.finish place fired).timers = scheduler.timers ∧
      (scheduler.finish place fired).board =
        scheduler.board.putPort place (scheduler.board.port place device).rearm.2 := by
  rcases finish_cases scheduler place fired with ⟨⟨error, missing⟩, -⟩ |
    ⟨found, device', located', timers, board⟩
  · rw [(Board.locate_eq_ok_iff _ _ _ _).2 ⟨located.id, located.device⟩] at missing
    cases missing
  · obtain rfl : found = place := Fin.ext located'.id
    obtain rfl := Option.some.inj (located'.device.symm.trans located.device)
    exact ⟨timers, board⟩

/-! ## Draining -/

def SimScheduler.drainedBy (scheduler : SimScheduler) (place : Fin maxDevices) (port : SimPort)
    (now : Ticks) : SimScheduler :=
  { scheduler with
    board := scheduler.board.putPort place (port.drainedBy now)
    timers := ((port.device.queue.drainExpired now).1.map (·.timer)).foldl unlink
      scheduler.timers }

def SimScheduler.drained (scheduler : SimScheduler) (place : Fin maxDevices) (port : SimPort) :
    SimScheduler :=
  { scheduler with
    board := scheduler.board.putPort place port.drained
    timers := ((port.device.queue.drainExpired port.tick).1.map (·.timer)).foldl unlink
      scheduler.timers }

theorem putPort_putPort (board : SimBoard) (place : Fin maxDevices) (port port' : SimPort) :
    (board.putPort place port).putPort place port' = board.putPort place port' := by
  simp [Board.putPort]

theorem drainedBy_of_none {port : SimPort} {now : Ticks}
    (none : (port.device.queue.popExpired now).1 = none) :
    (port.device.queue.drainExpired now).1 = [] ∧ port.drainedBy now = port.taken := by
  have split := DeadlineQueue.drainExpired_of_none none
  unfold Port.drainedBy
  rw [split]
  exact ⟨rfl, rfl⟩

/-- Taking the head first does not change what is taken in all. -/
theorem drainedBy_of_some {port : SimPort} (still : port.Still) {entry : QueueEntry}
    {rest : List QueueEntry} (entries : port.device.queue.entries = entry :: rest)
    (due : Tick.reached port.reading entry.expiry = true) :
    let left := port.taken.withQueue ⟨rest⟩
    left.Still ∧ left.reading = port.reading ∧
      left.drainedBy port.reading = port.drainedBy port.reading ∧
      (port.device.queue.drainExpired port.reading).1 =
        entry :: (left.device.queue.drainExpired port.reading).1 := by
  intro left
  have stillLeft : left.Still := ⟨still.taken.unmoved, still.taken.folded⟩
  have again : left.taken = port.taken.taken.withQueue ⟨rest⟩ := rfl
  have pops := DeadlineQueue.drainExpired_of_cons entries due
  refine ⟨stillLeft, reading_taken still.unmoved, ?_, ?_⟩
  · unfold Port.drainedBy
    rw [again, taken_taken still.unmoved, pops]
    rfl
  · rw [pops]
    rfl

theorem SimScheduler.drainedBy_headTaken {port : SimPort} (still : port.Still) {entry : QueueEntry}
    {rest : List QueueEntry} (entries : port.device.queue.entries = entry :: rest)
    (due : Tick.reached port.reading entry.expiry = true) :
    (scheduler.headTaken place port entry rest).drainedBy place (port.taken.withQueue ⟨rest⟩)
      port.reading = scheduler.drainedBy place port port.reading := by
  obtain ⟨-, -, drained, pops⟩ := drainedBy_of_some still entries due
  unfold SimScheduler.drainedBy SimScheduler.headTaken
  rw [drained, pops, List.map_cons, List.foldl_cons, putPort_putPort]

theorem fire_silent (limit depth : Nat) (firing : Firing) (history : History BoardRequest) :
    outcome (Run.fire silentClient limit (depth + 1) firing) (.single scheduler history) =
      (.ok (), .single scheduler (history.push (.fired firing))) := by
  rw [outcome_fire]
  rfl

theorem dispatch_of_none {fire : Firing → SimRun Unit} {passes : Nat}
    {history : History BoardRequest} (located : Located scheduler.board place place device)
    (still : (scheduler.board.port place device).Still)
    (none : (device.queue.popExpired (scheduler.board.port place device).reading).1 = none) :
    let port := scheduler.board.port place device
    let now := port.reading
    let due := (device.queue.drainExpired now).1
    outcome (dispatch fire 0 place (passes + 1)) (.single scheduler history) =
      (.ok due.length, .single (scheduler.drainedBy place port now)
        (history ++ due.map (calledFor scheduler.timers place now))) := by
  intro port now due
  obtain ⟨nothing, left⟩ := @drainedBy_of_none port now none
  have empty : due = [] := nothing
  have drained : scheduler.drainedBy place port now =
      { scheduler with board := scheduler.board.putPort place port.taken } := by
    unfold SimScheduler.drainedBy
    rw [nothing, left]
    rfl
  rw [dispatch, outcome_bind_of_ok (outcome_onBoard_of_eq (takeDue_of_none located still none)),
    empty, drained, List.map_nil, Array.appendList_nil]
  rfl

/-- A callback that makes no calls is one event, and the dispatch goes on from there. -/
theorem dispatch_of_some (limit depth : Nat) {passes count : Nat} {history : History BoardRequest}
    {machine : Machine Timer Nvic Clock BoardRequest}
    (located : Located scheduler.board place place device)
    (still : (scheduler.board.port place device).Still) {entry : QueueEntry}
    {rest : List QueueEntry} (entries : device.queue.entries = entry :: rest)
    (callable : (scheduler.timers.get entry.timer).callback.isSome = true) :
    let port := scheduler.board.port place device
    let now := port.reading
    Tick.reached now entry.expiry = true →
    outcome (dispatch (Run.fire silentClient limit (depth + 1)) 0 place passes)
        (.single (scheduler.headTaken place port entry rest)
          (history.push (calledFor scheduler.timers place now entry))) = (.ok count, machine) →
    outcome (dispatch (Run.fire silentClient limit (depth + 1)) 0 place (passes + 1))
        (.single scheduler history) = (.ok (count + 1), machine) := by
  intro port now reached ran
  obtain ⟨callback, remembers⟩ := Option.isSome_iff_exists.1 callable
  have takes := takeDue_of_some located still entries reached
  rw [remembered, remembers, Option.map_some] at takes
  have called : calledFor scheduler.timers place now entry = .fired ⟨0, place, entry.timer,
      entry.expiry, now, callback, (scheduler.timers.get entry.timer).arg⟩ := by
    rw [calledFor, remembers]
    rfl
  rw [called] at ran
  rw [dispatch, outcome_bind_of_ok (outcome_onBoard_of_eq takes)]
  change outcome (Run.fire silentClient limit (depth + 1) _ >>= _) _ = _
  rw [outcome_bind_of_ok (fire_silent _ _ _ _), outcome_bind_of_ok ran]
  rfl

/-- With callbacks that make no calls, a dispatch takes what one draining of the queue takes, and calls
the callbacks in that order. -/
theorem dispatch_silent (limit depth : Nat) {passes : Nat} {history : History BoardRequest}
    (located : Located scheduler.board place place device)
    (still : (scheduler.board.port place device).Still) :
    let port := scheduler.board.port place device
    let now := port.reading
    let due := (device.queue.drainExpired now).1
    (∀ entry ∈ due, (scheduler.timers.get entry.timer).callback.isSome = true) →
    due.length < passes →
    outcome (dispatch (Run.fire silentClient limit (depth + 1)) 0 place passes)
        (.single scheduler history) =
      (.ok due.length, .single (scheduler.drainedBy place port now)
        (history ++ due.map (calledFor scheduler.timers place now))) := by
  intro port now due callable enough
  obtain ⟨passes, rfl⟩ := Nat.exists_eq_add_one_of_ne_zero (Nat.ne_zero_of_lt enough)
  generalize entries_eq : device.queue.entries = entries
  induction entries generalizing scheduler device history passes with
  | nil =>
    refine dispatch_of_none located still ?_
    unfold DeadlineQueue.popExpired
    rw [entries_eq]
  | cons entry rest ih =>
    cases reached : Tick.reached port.reading entry.expiry with
    | false =>
      refine dispatch_of_none located still ?_
      unfold DeadlineQueue.popExpired
      rw [entries_eq]
      exact congrArg Prod.fst (if_neg (Bool.eq_false_iff.1 reached))
    | true =>
      obtain ⟨stillLeft, reading, -, pops⟩ := drainedBy_of_some still entries_eq reached
      let left := port.taken.withQueue ⟨rest⟩
      let next := scheduler.headTaken place port entry rest
      let later := (left.device.queue.drainExpired now).1
      have due_eq : due = entry :: later := pops
      rw [due_eq, List.length_cons] at enough
      rw [due_eq] at callable ⊢
      have located' : Located next.board place place left.device :=
        ⟨rfl, by simp [next, SimScheduler.headTaken, Board.putPort, left]⟩
      have same : next.board.port place left.device = left := Board.port_putPort_self _ _ _
      have callableLater : ∀ entry ∈ later,
          (next.timers.get entry.timer).callback.isSome = true := by
        intro other among
        change ((unlink scheduler.timers entry.timer).get other.timer).callback.isSome = true
        rw [get_unlink]
        exact callable other (List.mem_cons_of_mem _ among)
      have calls : calledFor next.timers place now = calledFor scheduler.timers place now := by
        funext other
        exact calledFor_unlink _ _ _ _
      obtain ⟨passes, rfl⟩ := Nat.exists_eq_add_one_of_ne_zero
        (Nat.ne_zero_of_lt (Nat.lt_of_add_lt_add_right enough))
      have dispatched := @ih next left.device
        (history.push (calledFor scheduler.timers place now entry)) located'
      rw [same] at dispatched
      dsimp only at dispatched
      rw [show left.reading = now from reading] at dispatched
      have ran := dispatched stillLeft callableLater passes (Nat.lt_of_add_lt_add_right enough) rfl
      rw [SimScheduler.drainedBy_headTaken still entries_eq reached, calls] at ran
      have goes := dispatch_of_some limit depth located still entries_eq
        (callable entry List.mem_cons_self) reached ran
      rw [goes, List.map_cons, Array.appendList_cons]
      rfl

/-- With callbacks that make no calls, one pass of the handler of an enabled device is to acknowledge the
interrupt, to drain the queue by what a reading then returns, and to arm the compare for what is left. -/
theorem interrupt_drains (limit depth : Nat) {passes : Nat} {history : History BoardRequest}
    (located : Located scheduler.board place place device) (enabled : device.enabled = true)
    (unmoved : (scheduler.board.port place device).timer.autoAdvance = 0) :
    let acknowledged := (scheduler.board.port place device).acknowledged
    let now := acknowledged.reading
    let due := (device.queue.drainExpired now).1
    (∀ entry ∈ due, (scheduler.timers.get entry.timer).callback.isSome = true) →
    due.length < passes →
    outcome (interrupt (Run.fire silentClient limit (depth + 1)) passes 0 place)
        (.single scheduler history) =
      (.ok due.length,
        .single ((scheduler.drainedBy place acknowledged now).finish place due.length)
          (history ++ due.map (calledFor scheduler.timers place now))) := by
  intro acknowledged now due callable enough
  let entered : SimScheduler := { scheduler with
    board := scheduler.board.putPort place acknowledged }
  have queue : acknowledged.device.queue = device.queue := by
    rw [(scheduler.board.port place device).acknowledged_device.1]
    rfl
  have here : Located entered.board place place acknowledged.device :=
    ⟨rfl, by simp [entered, Board.putPort]⟩
  have same : entered.board.port place acknowledged.device = acknowledged :=
    Board.port_putPort_self _ _ _
  have dispatched := @dispatch_silent entered place acknowledged.device limit depth passes history here
  rw [same] at dispatched
  dsimp only at dispatched
  rw [queue] at dispatched
  have ran := dispatched (still_acknowledged unmoved) callable enough
  have drained : entered.drainedBy place acknowledged now = scheduler.drainedBy place acknowledged now := by
    unfold SimScheduler.drainedBy
    rw [putPort_putPort]
  rw [interrupt, outcome_bind_of_ok (outcome_onBoard_of_eq (acknowledge_of_located located enabled))]
  change outcome (dispatch _ 0 place passes >>= _) _ = _
  rw [outcome_bind_of_ok ran, outcome_bind_of_ok (outcome_onBoard _ _ _), drained]
  rfl

/-- With callbacks that make no calls, one pass of the handler of a running device is to acknowledge the
interrupt, to drain the queue by the tick, and to arm the compare for what is left. -/
theorem interrupt_silent (limit depth : Nat) {passes : Nat} {history : History BoardRequest}
    (located : Located scheduler.board place place device) (enabled : device.enabled = true)
    (running : (scheduler.board.port place device).Running)
    (unmoved : (scheduler.board.port place device).timer.autoAdvance = 0) :
    let port := scheduler.board.port place device
    let due := (device.queue.drainExpired port.tick).1
    (∀ entry ∈ due, (scheduler.timers.get entry.timer).callback.isSome = true) →
    due.length < passes →
    outcome (interrupt (Run.fire silentClient limit (depth + 1)) passes 0 place)
        (.single scheduler history) =
      (.ok due.length,
        .single ((scheduler.drained place port.acknowledged).finish place due.length)
          (history ++ due.map (calledFor scheduler.timers place port.tick))) := by
  intro port due callable enough
  have tallied := (running_acknowledged running enabled).tallied
  have reading : port.acknowledged.reading = port.tick :=
    ((still_acknowledged unmoved).reading_eq_tick tallied).trans port.tick_acknowledged
  have drained : scheduler.drainedBy place port.acknowledged port.acknowledged.tick =
      scheduler.drained place port.acknowledged := rfl
  have drains := @interrupt_drains scheduler place device limit depth passes history located enabled unmoved
  dsimp only at drains
  rw [reading, ← port.tick_acknowledged, drained, port.tick_acknowledged] at drains
  exact drains callable enough

end Simulated

end DeadlineTimers
