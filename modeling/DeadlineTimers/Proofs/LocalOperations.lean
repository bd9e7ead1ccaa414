import DeadlineTimers.Proofs.LinkedTimers
import DeadlineTimers.Proofs.LocalEffects
import DeadlineTimers.Proofs.Service

/-!
# The operations of a device act within its scope

Each scheduling operation is looked at once more, now for what it depends on. A lookup finds the device of
the scope, a check asks the device or a timer of the scope, and the work is done on the port, which never
asks the controller. The handler with callbacks that make no calls is made of such operations.
-/

namespace DeadlineTimers.Simulated

open Port Run

variable {scope : Scope} {view : View} {before after : SimScheduler} {timer : TimerId}

namespace Acts

/-! ## Devices -/

theorem tryRead (fits : view.Fits scope) :
    Acts scope view (·.tryRead scope.place) fun answer after =>
      (∃ now, answer = .ok now) ∧ after.slots = view.slots := by
  have device := read_device view.port scope.line
  have reads : OwnMarks scope.line view.port fun port => (port.read scope.line).2 :=
    ownMarks_read view.port scope.line
  refine of_port (.ok (view.port.read scope.line).1) reads (edits_id scope view) ?_ ?_
    (fun after _ slots => ⟨⟨_, rfl⟩, slots⟩) fun before shows => ?_
  · rw [device]
    exact fits.line
  · rw [device]
    exact fits.queued
  · have line : (before.board.port scope.place view.device).device.config.line = scope.line :=
      fits.line
    rw [Scheduler.tryRead, onPort_of_located shows.located, line, shows.port,
      read_fst_withController]
    exact ⟨rfl, rfl, rfl⟩

theorem deinit (fits : view.Fits scope) :
    Acts scope view (·.deinit scope.place) fun _ _ => True := by
  have stops : OwnMarks scope.line view.port shutDown := .of_blind fun _ => rfl
  refine of_port (.ok ()) stops (edits_id scope view) fits.line fits.queued (fun _ _ _ => trivial)
    fun before shows => ?_
  unfold Scheduler.deinit
  rw [shows.locate, ← shows.port]
  dsimp only
  split
  · exact ⟨rfl, rfl, rfl⟩
  · exact ⟨rfl, rfl, rfl⟩

/-- A start on a line that exists does not end in a fault, and makes one request of the clock unless it is
rejected. -/
theorem init (fits : view.Fits scope) (inside : scope.line < lineCount) (frequency : Nat) :
    Acts scope view (·.init scope.place frequency) fun answer _ => ∃ given, answer = .ok given := by
  cases enabled : view.device.enabled with
  | true =>
    refine of_idle fits (.ok (.error (.invalid .alreadyEnabled))) ⟨_, rfl⟩ fun before shows => ?_
    simp only [Scheduler.init, shows.locate, enabled, ↓reduceIte]
    exact ⟨trivial, .refl _⟩
  | false =>
    cases selected : Prescaler.select view.device.config.maxFrequency frequency with
    | error error =>
      refine of_idle fits (.ok (.error error)) ⟨_, rfl⟩ fun before shows => ?_
      simp only [Scheduler.init, shows.locate, enabled, selected, Bool.false_eq_true, ↓reduceIte]
      exact ⟨trivial, .refl _⟩
    | ok prescaler =>
      have own := ownMarks_launched view.port prescaler scope.place
      have rearmed (controller : Nvic) := ticks_rearm (view.port.launched prescaler controller)
      rw [show view.port.device.config.line = scope.line from fits.line] at own
      refine of_port_asking (.ok (.ok ())) 1 own (edits_id scope view) ?_ ?_ (fun _ _ _ => ⟨_, rfl⟩)
        fun before shows => ?_
      · rw [config_eq_of_ticks (rearmed _)]
        exact fits.line
      · rw [rearm_queue]
        exact fits.queued
      · obtain ⟨installed, install, enable⟩ := Nvic.install_enable inside before.board.controller
          view.device.config.priority scope.place
        rw [← fits.line] at install enable
        have done : (before.init scope.place frequency).1 = .ok (.ok ()) := by
          simp only [Scheduler.init, shows.locate, enabled, selected, Bool.false_eq_true, ↓reduceIte]
          split
          · next stalled => cases stalled
          · next crystalStarted clock ready =>
            obtain ⟨rfl, rfl⟩ := Prod.mk.inj (Option.some.inj ready)
            simp only [Bool.false_eq_true, ↓reduceIte]
            split
            · next missing => cases install.symm.trans missing
            · next installed' install' =>
              obtain rfl := Option.some.inj (install.symm.trans install')
              split
              · next missing => cases enable.symm.trans missing
              · rfl
        rcases init_cases (Prod.ext done rfl) with ⟨_, failed, -⟩ |
          ⟨place, device, prescaler', installed', controller, located, -, -, selected', install',
            enable', timers, board⟩
        · cases failed
        · obtain ⟨rfl, rfl⟩ := shows.located_unique located
          obtain rfl := Except.ok.inj (selected.symm.trans selected')
          obtain rfl := Option.some.inj (install.symm.trans install')
          obtain rfl := Option.some.inj (enable.symm.trans enable')
          rw [shows.port] at board
          rw [fits.line] at board
          exact ⟨done, timers, board⟩

/-! ## Timers -/

/-- A start at a deadline of a timer that is attached to the device of the scope, or to none. -/
theorem startAt (fits : view.Fits scope) (inside : scope.timers timer)
    (mine : (view.slots timer).device = none ∨ (view.slots timer).device = some scope.place.val)
    (expiry : Ticks) : Acts scope view (·.startAt timer expiry) fun _ _ => True := by
  have rejects (error : TimerError)
      (failed : ∀ before, Shows scope view before →
        (before.startAt timer expiry).1 = .error error) :
      Acts scope view (·.startAt timer expiry) fun _ _ => True := by
    refine of_idle fits (.error error) trivial fun before shows => ⟨failed before shows, ?_⟩
    rcases startAt_cases (Prod.ext (failed before shows) rfl) with ⟨_, -, same⟩ |
      ⟨_, _, _, _, _, _, -, -, -, -, -, ok, -⟩
    · exact same
    · cases ok
  cases linked : (view.slots timer).linked with
  | true =>
    refine rejects (.invalid .timerPending) fun before shows => ?_
    simp only [Scheduler.startAt, shows.slots timer inside, linked, ↓reduceIte]
  | false =>
    cases attached : (view.slots timer).callback with
    | none =>
      refine rejects (.invalid .noCallback) fun before shows => ?_
      simp [Scheduler.startAt, shows.slots timer inside, linked, attached]
    | some callback =>
      rcases mine with none | owner
      · refine rejects (.invalid .notAttached) fun before shows => ?_
        simp [Scheduler.startAt, shows.slots timer inside, linked, attached, none]
      · cases inserted : view.device.queue.insert timer expiry with
        | error error =>
          refine rejects error fun before shows => ?_
          simp [Scheduler.startAt, shows.slots timer inside, linked, attached, owner, shows.locate,
            inserted]
        | ok result =>
          obtain ⟨isHead, queue⟩ := result
          have own : OwnMarks scope.line view.port (·.enqueued expiry isHead queue) :=
            fits.line ▸ ownMarks_enqueued view.port expiry isHead queue
          have queued := enqueued_queue view.port expiry isHead queue
          have config := config_eq_of_ticks (view.port.ticks_enqueued expiry isHead queue)
          refine of_port (.ok ()) own
            (edits_modify inside fun slot => { slot with expiry, linked := true }) ?_ ?_
            (fun _ _ _ => trivial) fun before shows => ?_
          · rw [config]
            exact fits.line
          · rw [queued]
            intro entry waits
            rcases (DeadlineQueue.mem_insert_iff inserted).1 waits with rfl | waits
            · exact inside
            · exact fits.queued entry waits
          · have slot := shows.slots timer inside
            have done : (before.startAt timer expiry).1 = .ok () := by
              simp only [Scheduler.startAt, slot, linked, attached, owner, shows.locate, inserted]
              simp
              split <;> rfl
            rcases startAt_cases (Prod.ext done rfl) with ⟨_, failed, -⟩ |
              ⟨id, _, place, device, isHead', queue', -, -, owner', located, inserted', -, timers,
                board⟩
            · cases failed
            · rw [slot, owner] at owner'
              obtain rfl := Option.some.inj owner'
              obtain ⟨rfl, rfl⟩ := shows.located_unique located
              obtain ⟨rfl, rfl⟩ := Prod.mk.inj (Except.ok.inj (inserted.symm.trans inserted'))
              rw [shows.port] at board
              exact ⟨done, timers, board⟩

/-- A start after a number of ticks reads the tick and starts at a deadline. -/
theorem start (fits : view.Fits scope) (inside : scope.timers timer)
    (mine : (view.slots timer).device = none ∨ (view.slots timer).device = some scope.place.val)
    (ticks : Ticks) : Acts scope view (·.start timer ticks) fun _ _ => True := by
  by_cases zero : ticks = 0
  · refine of_idle fits (.error (.invalid .zeroTicks)) trivial fun before shows => ?_
    simp only [Scheduler.start, zero, ↓reduceIte]
    exact ⟨trivial, .refl _⟩
  rcases mine with none | owner
  · refine of_idle fits (.error (.invalid .notAttached)) trivial fun before shows => ?_
    simp only [Scheduler.start, zero, shows.slots timer inside, none, ↓reduceIte]
    exact ⟨trivial, .refl _⟩
  · let rest : Except TimerError Ticks → SimScheduler → Except TimerError Unit × SimScheduler
      | .error error, scheduler => (.error error, scheduler)
      | .ok now, scheduler => scheduler.startAt timer (now + ticks)
    have both : Acts scope view (fun scheduler =>
        rest (scheduler.tryRead scope.place).1 (scheduler.tryRead scope.place).2) fun _ _ => True := by
      refine (tryRead fits).andThen fun answer after fits' read => ?_
      obtain ⟨⟨now, rfl⟩, slots⟩ := read
      exact startAt fits' inside (.inr (slots ▸ owner)) _
    refine both.congr fun before shows => ?_
    simp only [Scheduler.start, zero, shows.slots timer inside, owner, ↓reduceIte, rest]
    split
    · next missing => rw [missing]
    · next read => rw [read]

/-- A stop of a timer that does not wait, or waits on the device of the scope. -/
theorem stop (fits : view.Fits scope) (inside : scope.timers timer)
    (owner : (view.slots timer).linked = true →
      (view.slots timer).device = some scope.place.val) :
    Acts scope view (·.stop timer) fun answer _ => answer = .ok () := by
  cases linked : (view.slots timer).linked with
  | false =>
    refine of_idle fits (.ok ()) rfl fun before shows => ?_
    simp only [Scheduler.stop, shows.slots timer inside, linked, Bool.not_false, ↓reduceIte]
    exact ⟨trivial, .refl _⟩
  | true =>
    have own : OwnMarks scope.line view.port (·.dequeued timer) :=
      fits.line ▸ ownMarks_dequeued view.port timer
    refine of_port (.ok ()) own (edits_modify inside fun slot => { slot with linked := false })
      ?_ ?_ (fun _ _ _ => rfl) fun before shows => ?_
    · rw [config_eq_of_ticks (view.port.ticks_dequeued timer)]
      exact fits.line
    · rw [dequeued_queue]
      exact fun entry waits => fits.queued entry (List.mem_of_mem_eraseP waits)
    · have slot := shows.slots timer inside
      rcases stop_cases (Prod.eta (before.stop timer)).symm with ⟨unlinked, -⟩ |
        ⟨error, -, failed, -⟩ | ⟨id, place, device, -, owner', located, done, timers, board⟩
      · rw [slot, linked] at unlinked
        cases unlinked
      · obtain ⟨-, missing⟩ := missing_of_stop_error (Prod.ext failed rfl)
        rw [slot, owner linked] at missing
        exact absurd shows.locate (missing _ rfl _)
      · rw [slot, owner linked] at owner'
        obtain rfl := Option.some.inj owner'
        obtain ⟨rfl, rfl⟩ := shows.located_unique located
        rw [shows.port] at board
        exact ⟨done, timers, board⟩

/-- A change to a timer of the scope alone. -/
theorem modify (fits : view.Fits scope) (inside : scope.timers timer)
    (change : TimerSlot → TimerSlot) :
    Acts scope view
      (fun scheduler => ((), { scheduler with timers := scheduler.timers.modify timer change }))
      fun _ _ => True := by
  have nothing : OwnMarks scope.line view.port id := .of_blind fun _ => rfl
  refine of_port () nothing (edits_modify inside change) fits.line fits.queued
    (fun _ _ _ => trivial) fun before shows => ⟨rfl, rfl, ?_⟩
  rw [id, ← shows.port]
  exact shows.located.putPort_self.symm

/-- An attachment stops the timer and then changes what it remembers. -/
theorem attach (fits : view.Fits scope) (inside : scope.timers timer)
    (owner : (view.slots timer).linked = true →
      (view.slots timer).device = some scope.place.val) (callback : CallbackId) (arg : Nat) :
    Acts scope view (·.attach scope.place timer callback arg) fun _ _ => True := by
  let change (slot : TimerSlot) : TimerSlot := { slot with
    callback := some callback, arg, device := some scope.place.val, linked := false }
  let rest : Except TimerError Unit → SimScheduler → Except TimerError Unit × SimScheduler
    | .error error, scheduler => (.error error, scheduler)
    | .ok (), scheduler =>
      (.ok (), { scheduler with timers := scheduler.timers.modify timer change })
  have both : Acts scope view (fun scheduler =>
      rest (scheduler.stop timer).1 (scheduler.stop timer).2) fun _ _ => True := by
    refine (stop fits inside owner).andThen fun answer after fits' stopped => ?_
    subst stopped
    obtain ⟨⟨⟩, changed, requests, fits'', -, modifies⟩ := modify fits' inside change
    exact ⟨.ok (), changed, requests, fits'', trivial, fun before shows =>
      ⟨rfl, (modifies before shows).2⟩⟩
  refine both.congr fun before shows => ?_
  simp only [Scheduler.attach, shows.locate, rest]
  split
  · next failed => rw [failed]
  · next stopped => rw [stopped]

/-! ## Steps of the handler -/

theorem acknowledge (fits : view.Fits scope) :
    Acts scope view (·.acknowledge scope.place) fun _ after =>
      after.device.queue = view.device.queue := by
  have own : OwnMarks scope.line view.port fun port => port.acknowledge.2 :=
    fits.line ▸ ownMarks_acknowledge view.port
  have queue := acknowledge_queue view.port
  refine of_port view.device.enabled own (edits_id scope view) ?_ ?_ (fun after device _ => ?_)
    fun before shows => ?_
  · rw [config_eq_of_ticks view.port.ticks_acknowledge]
    exact fits.line
  · rw [queue]
    exact fits.queued
  · rw [device, queue]
    rfl
  · rw [Scheduler.acknowledge, onPort_of_located shows.located, shows.port]
    exact ⟨acknowledge_fst _, rfl, rfl⟩

/-- A due timer leaves the queue, and it is one of the scope. -/
theorem takeDue (fits : view.Fits scope) :
    Acts scope view (·.takeDue scope.place) fun due after => due.isSome = true →
      after.device.queue.length < view.device.queue.length := by
  have own : OwnMarks scope.line view.port fun port => port.takeDue.2 :=
    fits.line ▸ ownMarks_takeDue view.port
  have line : view.port.takeDue.2.device.config.line = scope.line := by
    rw [config_eq_of_ticks view.port.ticks_takeDue]
    exact fits.line
  have taken := takeDue_fst view.port
  have left := congrArg (·.device.queue) (takeDue_snd view.port)
  dsimp only at taken left
  generalize (view.port.read view.port.device.config.line).1 = now at taken left
  change _ = (view.port.device.queue.popExpired now).2 at left
  have found {before : SimScheduler} (shows : Shows scope view before) :
      (before.takeDue scope.place).2.board = before.board.putPort scope.place
          (Port.takeDue { view.port with controller := before.board.controller }).2 ∧
        ((view.port.takeDue.1 = none ∧ (before.takeDue scope.place).1 = none ∧
            (before.takeDue scope.place).2.timers = before.timers) ∨
          ∃ entry now, view.port.takeDue.1 = some (entry, now) ∧
            (before.takeDue scope.place).1 = some (remembered before.timers entry now) ∧
            (before.takeDue scope.place).2.timers = unlink before.timers entry.timer) := by
    rcases takeDue_cases (Prod.eta (before.takeDue scope.place)).symm with
      ⟨⟨error, missing⟩, -⟩ | ⟨place, device, located, board, taken⟩
    · cases shows.locate.symm.trans missing
    · obtain ⟨rfl, rfl⟩ := shows.located_unique located
      rw [shows.port] at board taken
      rw [takeDue_fst_withController] at taken
      exact ⟨board, taken⟩
  cases due : (view.port.device.queue.popExpired now).1 with
  | none =>
    rw [due, Option.map_none] at taken
    rw [DeadlineQueue.popExpired_of_none due] at left
    refine of_port none own (edits_id scope view) line (left ▸ fits.queued)
      (fun _ _ _ some => by cases some) fun before shows => ?_
    obtain ⟨board, ⟨-, answered, timers⟩ | ⟨entry, now, some, -⟩⟩ := found shows
    · exact ⟨answered, timers, board⟩
    · cases taken.symm.trans some
  | some entry =>
    rw [due, Option.map_some] at taken
    obtain ⟨entries, -⟩ := DeadlineQueue.popExpired_of_some due
    rw [← left] at entries
    have inside : scope.timers entry.timer := by
      refine fits.queued entry ?_
      change entry ∈ view.port.device.queue.entries
      rw [entries]
      exact List.mem_cons_self
    refine of_port (some ⟨entry, now, (view.slots entry.timer).callback.map fun callback =>
        (callback, (view.slots entry.timer).arg)⟩) own
      (edits_modify inside fun slot => { slot with linked := false }) line (fun other waits => ?_)
      (fun after device _ _ => ?_) fun before shows => ?_
    · refine fits.queued other ?_
      change other ∈ view.port.device.queue.entries
      rw [entries]
      exact List.mem_cons_of_mem _ waits
    · rw [device]
      change _ < view.port.device.queue.entries.length
      rw [entries]
      exact Nat.lt_succ_self _
    · obtain ⟨board, ⟨none, -⟩ | ⟨entry', now', some, answered, timers⟩⟩ := found shows
      · cases taken.symm.trans none
      · obtain ⟨rfl, rfl⟩ := Prod.mk.inj (Option.some.inj (taken.symm.trans some))
        rw [remembered, shows.slots _ inside] at answered
        exact ⟨answered, timers, board⟩

theorem finish (fits : view.Fits scope) (fired : Nat) :
    Acts scope view (fun scheduler => ((), scheduler.finish scope.place fired))
      fun _ _ => True := by
  have own : OwnMarks scope.line view.port fun port => port.rearm.2 :=
    fits.line ▸ ownMarks_rearm view.port
  refine of_port () own (edits_id scope view) ?_ ?_ (fun _ _ _ => trivial) fun before shows => ?_
  · rw [config_eq_of_ticks (ticks_rearm view.port)]
    exact fits.line
  · rw [rearm_queue]
    exact fits.queued
  · rcases finish_cases before scope.place fired with ⟨⟨error, missing⟩, -⟩ |
      ⟨place, device, located, timers, board⟩
    · cases shows.locate.symm.trans missing
    · obtain ⟨rfl, rfl⟩ := shows.located_unique located
      rw [shows.port] at board
      exact ⟨rfl, timers, board⟩

/-! ## The hardware timer -/

theorem modifyPeripheral {α : Type} (fits : view.Fits scope) (operation : Timer → α × Timer) :
    Acts scope view (SimScheduler.modifyPeripheral scope.place operation) fun _ _ => True := by
  have own : OwnMarks scope.line view.port (·.modifyTimer fun timer => (operation timer).2) :=
    .of_blind fun _ => rfl
  refine of_port (operation view.timer).1 own (edits_id scope view) fits.line fits.queued
    (fun _ _ _ => trivial) fun before shows => ?_
  unfold SimScheduler.modifyPeripheral
  rw [shows.peripheral]
  refine ⟨rfl, rfl, ?_⟩
  have puts := shows.located.putPort_port (operation view.timer).2
  rw [shows.port] at puts
  exact puts.symm

end Acts

/-! ## Handlers and calls -/

def subject? (request : Request BoardRequest) : Option TimerId :=
  (starts? request).or (unlinks? request)

/-- A request is about a device, its hardware timer, or a software timer that is attached to the device
or to none. -/
inductive Addressed (slots : TimerId → TimerSlot) (id : DeviceId) : Request BoardRequest → Prop where
  | init (frequency : Nat) : Addressed slots id (.init id frequency)
  | deinit : Addressed slots id (.deinit id)
  | tryRead : Addressed slots id (.tryRead id)
  | interrupt : Addressed slots id (.interrupt id)
  | access (access : TimerAccess) : Addressed slots id (.platform (.access id access))
  | start {timer : TimerId} (mine : (slots timer).device = none ∨ (slots timer).device = some id)
      (ticks : Ticks) : Addressed slots id (.start timer ticks)
  | startAt {timer : TimerId} (mine : (slots timer).device = none ∨ (slots timer).device = some id)
      (expiry : Ticks) : Addressed slots id (.startAt timer expiry)
  | stop {timer : TimerId} (mine : (slots timer).device = none ∨ (slots timer).device = some id) :
      Addressed slots id (.stop timer)
  | attach {timer : TimerId} (mine : (slots timer).device = none ∨ (slots timer).device = some id)
      (callback : CallbackId) (arg : Nat) : Addressed slots id (.attach id timer callback arg)

namespace RunActs

variable (limit depth : Nat)

/-- Every pass but the last takes a timer off the queue. -/
theorem dispatch (fits : view.Fits scope) {passes : Nat}
    (enough : view.device.queue.length < passes) :
    RunActs scope view
      (Run.dispatch (Run.fire silentClient limit (depth + 1)) 0 scope.place passes)
      fun _ _ => True := by
  induction passes generalizing view with
  | zero => cases enough
  | succ passes ih =>
    rw [Run.dispatch]
    refine (onBoard (Acts.takeDue fits)).bind fun due after fits' shorter => ?_
    have fewer (taken : due.isSome = true) : after.device.queue.length < passes :=
      Nat.lt_of_lt_of_le (shorter taken) (Nat.le_of_lt_succ enough)
    obtain _ | ⟨entry, now, _ | ⟨callback, arg⟩⟩ := due
    · exact .pure fits' trivial
    · exact ih fits' (fewer rfl)
    · refine (fire_silent fits' limit depth _).bind fun _ _ _ same => ?_
      subst same
      exact (ih fits' (fewer rfl)).bind fun _ _ fits _ => .pure fits trivial

theorem interrupt (fits : view.Fits scope) (enough : view.device.queue.length < limit) :
    RunActs scope view (silentHandler limit depth 0 scope.place) fun _ _ => True := by
  refine (onBoard (Acts.acknowledge fits)).bind fun runs after fits' queue => ?_
  cases runs with
  | false => exact .pure fits' trivial
  | true =>
    refine (dispatch limit depth fits' (queue ▸ enough)).bind fun fired _ fits'' _ => ?_
    exact (onBoard (Acts.finish fits'' fired)).bind fun _ _ fits _ => .pure fits trivial

/-- A request that is addressed to a device acts within any scope of the device that has the timer that
the request is about. -/
theorem perform (fits : view.Fits scope) (inside : scope.line < lineCount)
    (enough : view.device.queue.length < limit)
    (attached : ∀ timer, (view.slots timer).linked = true → (view.slots timer).device ≠ none)
    {request : Request BoardRequest} (addressed : Addressed view.slots scope.place request)
    (among : ∀ timer, subject? request = some timer → scope.timers timer) :
    RunActs scope view
      (Run.perform (Run.fire silentClient limit (depth + 1)) limit ⟨0, request⟩)
      fun _ _ => True := by
  have waits {timer : TimerId} (mine : (view.slots timer).device = none ∨
      (view.slots timer).device = some scope.place.val) (linked : (view.slots timer).linked = true) :
      (view.slots timer).device = some scope.place.val :=
    mine.resolve_left (attached timer linked)
  have acts {α : Type} {operation : SimScheduler → α × SimScheduler} {post : α → View → Prop}
      (reply : α → Reply) (acts : Acts scope view operation post) :
      RunActs scope view (reply <$> Run.onBoard 0 operation) fun _ _ => True :=
    .map ((onBoard acts).weaken fun _ _ _ => trivial)
  cases addressed with
  | init frequency =>
    exact .map (onBoardOrFault (Acts.init fits inside frequency))
  | deinit => exact acts _ (.deinit fits)
  | tryRead => exact acts _ (.tryRead fits)
  | interrupt => exact .map (interrupt limit depth fits enough)
  | access access =>
    have found : findPeripheral scope.place.val = Pure.pure scope.place := dif_pos scope.place.isLt
    change RunActs scope view (findPeripheral scope.place.val >>= _) _
    rw [found, pure_bind]
    exact acts _ (.modifyPeripheral fits access.run)
  | start mine ticks => exact acts _ (.start fits (among _ rfl) mine ticks)
  | startAt mine expiry => exact acts _ (.startAt fits (among _ rfl) mine expiry)
  | stop mine => exact acts _ (.stop fits (among _ rfl) (waits mine))
  | attach mine callback arg => exact acts _ (.attach fits (among _ rfl) (waits mine) callback arg)

end RunActs

end DeadlineTimers.Simulated
