import DeadlineTimers.Proofs.Accounts
import DeadlineTimers.Proofs.Links
import DeadlineTimers.Proofs.QueueOrder
import DeadlineTimers.Proofs.WakeUp

/-!
# Queues in the order of starts

The history notes every start of a timer, so it tells which of two waiting timers was started earlier.
If all deadlines of a queue lie within half a turn whenever a timer goes into it, by whomever it is
started, then the queue is in order at all times, with equal deadlines in the order of their starts.
-/

namespace DeadlineTimers.Simulated

open Run

variable {history history' : History BoardRequest} {event : Event BoardRequest}
  {timer : TimerId} {index : Nat} {before after : SimScheduler} {place : Fin maxDevices}
  {request : Request BoardRequest} {reply : Reply} {queue queue' : DeadlineQueue queueDepth}

/-! ## Starts in the history -/

def started? : Event BoardRequest → Option TimerId
  | .answered _ ⟨0, request⟩ .done => starts? request
  | _ => none

structure LastStarted (history : History BoardRequest) (timer : TimerId) (index : Nat) : Prop where
  starts : history[index]?.bind started? = some timer
  last : ∀ later event, index < later → history[later]? = some event →
    started? event ≠ some timer

def StartedBefore (history : History BoardRequest) (first second : TimerId) : Prop :=
  ∃ earlier later, LastStarted history first earlier ∧ LastStarted history second later ∧
    earlier < later

theorem started?_eq_some {board : BoardId} {caller : Option Nat}
    (started : started? (.answered caller ⟨board, request⟩ reply) = some timer) :
    starts? request = some timer ∧ reply = .done := by
  unfold started? at started
  split at started
  · next same =>
    obtain ⟨-, sameCall, rfl⟩ := Event.answered.inj same
    obtain ⟨-, rfl⟩ := Call.mk.inj sameCall
    exact ⟨started, rfl⟩
  · cases started

theorem started?_eq_none (unstarted : starts? request = none) (board : BoardId)
    (caller : Option Nat) (reply : Reply) :
    started? (.answered caller ⟨board, request⟩ reply) = none := by
  refine Option.eq_none_iff_forall_ne_some.2 fun timer started => ?_
  rw [(started?_eq_some started).1] at unstarted
  cases unstarted

/-- A request that may run handlers starts no timer itself. -/
theorem starts?_eq_none_of_runsHandlers (runs : runsHandlers request = true) :
    starts? request = none := by
  cases request with
  | start => cases runs
  | startAt => cases runs
  | _ => rfl

theorem LastStarted.index_lt (started : LastStarted history timer index) : index < history.size := by
  obtain ⟨event, found, -⟩ := Option.bind_eq_some_iff.1 started.starts
  exact (Array.getElem?_eq_some_iff.1 found).1

theorem LastStarted.push (started : LastStarted history timer index)
    (other : started? event ≠ some timer) : LastStarted (history.push event) timer index where
  starts := by
    rw [getElem?_push_of_lt started.index_lt]
    exact started.starts
  last later event' after found := by
    rcases getElem?_push_cases found with ⟨-, found⟩ | ⟨-, rfl⟩
    · exact started.last later event' after found
    · exact other

theorem LastStarted.of_started (started : started? event = some timer) :
    LastStarted (history.push event) timer history.size where
  starts := by rw [Array.getElem?_push_size, Option.bind_some, started]
  last later event' after found := by
    have inside := (Array.getElem?_eq_some_iff.1 found).1
    rw [Array.size_push] at inside
    omega

/-! ## Queues in order -/

/-- Deadlines ascend, and equal ones stand in the order of their starts. -/
structure Lined (queue : DeadlineQueue queueDepth) (history : History BoardRequest) : Prop where
  started : ∀ entry ∈ queue.entries, ∃ index, LastStarted history entry.timer index
  ranked : queue.Ranked (StartedBefore history)

theorem Lined.of_sublist (lined : Lined queue history)
    (fewer : queue'.entries.Sublist queue.entries) : Lined queue' history where
  started entry waits := lined.started entry (fewer.subset waits)
  ranked := lined.ranked.of_sublist fewer fun _ _ _ _ => id

/-- A start of a timer that does not wait in the queue leaves the queue in order. -/
theorem Lined.push (lined : Lined queue history)
    (others : ∀ entry ∈ queue.entries, started? event ≠ some entry.timer) :
    Lined queue (history.push event) where
  started entry waits := (lined.started entry waits).imp fun _ started =>
    started.push (others entry waits)
  ranked := lined.ranked.of_sublist (List.Sublist.refl _) fun first waits second waits' before => by
    obtain ⟨earlier, later, started, started', lt⟩ := before
    exact ⟨earlier, later, started.push (others first waits), started'.push (others second waits'), lt⟩

theorem Lined.insert {expiry : Ticks} {isHead : Bool} (lined : Lined queue history)
    (inserted : queue.insert timer expiry = .ok (isHead, queue')) (window : queue'.InWindow)
    (starts : started? event = some timer) : Lined queue' (history.push event) := by
  have absent := (DeadlineQueue.insert_eq_ok_iff.1 inserted).1
  have kept : Lined queue (history.push event) := lined.push fun entry waits same => by
    rw [starts, Option.some_inj] at same
    exact DeadlineQueue.ne_of_not_contains absent waits same.symm
  have newest : LastStarted (history.push event) timer history.size := .of_started starts
  constructor
  · intro entry waits
    rcases (DeadlineQueue.mem_insert_iff inserted).1 waits with rfl | waits
    · exact ⟨_, newest⟩
    · exact kept.started entry waits
  · refine kept.ranked.insert inserted window fun entry waits => ?_
    obtain ⟨index, started⟩ := lined.started entry waits
    obtain ⟨index', started'⟩ := kept.started entry waits
    refine ⟨index, history.size, started.push ?_, newest, started.index_lt⟩
    intro same
    rw [starts, Option.some_inj] at same
    exact DeadlineQueue.ne_of_not_contains absent waits same.symm

/-! ## What does not start a timer -/

theorem Unlinks.sublist (unlinks : Unlinks before timer after) :
    (after.board.queueAt place).entries.Sublist (before.board.queueAt place).entries := by
  cases unlinks with
  | idle unlinked same => rw [same.queues]
  | waiting other linked owner removed timers =>
    by_cases here : place = other
    · subst here
      rw [removed.here]
      exact List.eraseP_sublist
    · rw [removed.elsewhere place here]

theorem Books.sublist (books : Books before request reply after) (unstarted : starts? request = none) :
    (after.board.queueAt place).entries.Sublist (before.board.queueAt place).entries := by
  cases books with
  | keep same => rw [same.queues]
  | start starts =>
    rw [unstarted] at starts
    cases starts
  | stop stops done unlinks => exact unlinks.sublist
  | attach attaches done unlinks queues =>
    rw [queues]
    exact unlinks.sublist

theorem takeDue_sublist {id : DeviceId} {due : Option Scheduler.DueTimer}
    (did : before.takeDue id = (due, after)) :
    (after.board.queueAt place).entries.Sublist (before.board.queueAt place).entries := by
  rcases pops_of_takeDue did with ⟨-, same⟩ | ⟨other, entry, now, -, -, -, pops⟩
  · rw [same.queues]
  · obtain ⟨queue, entries, requeues⟩ := pops.popped
    by_cases here : place = other
    · subst here
      rw [requeues.here, entries]
      exact List.sublist_cons_self _ _
    · rw [requeues.elsewhere place here]

/-- A start that puts a timer into some queue leaves every queue in order. -/
theorem Lined.books {caller : Option Nat} (lined : Lined (before.board.queueAt place) history)
    (coherent : Coherent before) (books : Books before request reply after)
    (starts : starts? request = some timer)
    (window : (before.board.queueAt place).length < (after.board.queueAt place).length →
      (after.board.queueAt place).InWindow) :
    Lined (after.board.queueAt place) (history.push (.answered caller ⟨0, request⟩ reply)) := by
  cases books with
  | keep same idle =>
    rw [same.queues]
    refine lined.push fun entry waits started => ?_
    obtain ⟨starts, done⟩ := started?_eq_some started
    rw [(idle done).1] at starts
    cases starts
  | @start timer expiry other starts done enqueues =>
    obtain ⟨isHead, queue, inserted, requeues⟩ := enqueues.inserted
    subst done
    by_cases here : place = other
    · subst here
      rw [requeues.here] at window ⊢
      exact lined.insert inserted (window (DeadlineQueue.length_lt_of_insert inserted)) starts
    · rw [requeues.elsewhere place here]
      refine lined.push fun entry waits started => ?_
      have same := Option.some.inj (starts.symm.trans (started?_eq_some started).1)
      exact coherent.ne_of_unlinked enqueues.unlinked waits same.symm
  | stop stops => cases stops ▸ starts
  | attach attaches => cases attaches ▸ starts

theorem Lined.move {allowed : Request BoardRequest → Prop} {moment moment' : Moment}
    (lined : Lined (moment.scheduler.board.queueAt place) moment.history)
    (coherent : Coherent moment.scheduler) (move : Move allowed moment moment')
    (window : (moment.scheduler.board.queueAt place).length <
        (moment'.scheduler.board.queueAt place).length →
      (moment'.scheduler.board.queueAt place).InWindow) :
    Lined (moment'.scheduler.board.queueAt place) moment'.history := by
  have unnoted {history : History BoardRequest} {event : Event BoardRequest}
      {queue : DeadlineQueue queueDepth} (lined : Lined queue history)
      (none : started? event = none) : Lined queue (history.push event) :=
    lined.push fun _ _ same => by
      rw [none] at same
      cases same
  cases move with
  | @answer _ _ _ _ _ request _ calls permitted answers =>
    cases starts : starts? request with
    | none =>
      exact unnoted (lined.of_sublist (answers.books.sublist starts))
        (started?_eq_none starts _ _ _)
    | some timer => exact lined.books coherent answers.books starts window
  | report call reply calls permitted runs =>
    exact unnoted lined (started?_eq_none (starts?_eq_none_of_runsHandlers runs) _ _ _)
  | advance calls permitted serves advances =>
    rw [(SameBooks.modifyPeripheral advances).queues]
    exact lined
  | quiet calls permitted serves inactive =>
    rw [(SameBooks.takeActive inactive).queues]
    exact lined
  | enter calls summons acknowledges =>
    rw [(SameBooks.acknowledge acknowledges).queues, (SameBooks.summons summons).queues]
    exact lined
  | dismiss calls summons acknowledges =>
    rw [(SameBooks.acknowledge acknowledges).queues, (SameBooks.summons summons).queues]
    exact lined
  | skip takes => exact lined.of_sublist (takeDue_sublist takes)
  | fire takes => exact unnoted (lined.of_sublist (takeDue_sublist takes)) rfl
  | resume => exact lined
  | @leave _ after _ _ id fired takes =>
    rw [(SameBooks.finish after id fired).queues]
    exact lined.of_sublist (takeDue_sublist takes)

/-! ## Runs in windows -/

/-- The lines that a layout states are there, and no two are the same. -/
structure LinesApart (layout : Vector DeviceConfig maxDevices) : Prop where
  below : ∀ place : Fin maxDevices, (layout.get place).line < lineCount
  distinct : ∀ place other : Fin maxDevices,
    (layout.get place).line = (layout.get other).line → place = other

/-- The moments of all runs on a board whose devices have lines of their own, in which all deadlines of
a certain device lie within half a turn whenever its queue has grown. -/
inductive InWindows (place : Fin maxDevices) : Moment → Prop where
  | start (layout : Vector DeviceConfig maxDevices) (ids : List DeviceId) (logger : Log.Logger)
      (apart : LinesApart layout) :
      InWindows place ⟨⟨(boardOfLayout layout).registering ids, {}, logger⟩, #[], []⟩
  | move {moment moment' : Moment} (earlier : InWindows place moment)
      (move : Move (schedules · = true) moment moment')
      (window : (moment.scheduler.board.queueAt place).length <
          (moment'.scheduler.board.queueAt place).length →
        (moment'.scheduler.board.queueAt place).InWindow) :
      InWindows place moment'

/-- The devices of a board are those of its layout, which have lines of their own. -/
structure FitsLayout (board : SimBoard) : Prop where
  apart : LinesApart board.layout
  configs : ∀ (place : Fin maxDevices) (device : Device), board.devices.get place = some device →
    device.config = board.layout.get place

theorem FitsLayout.ownsLine {board : SimBoard} (fits : FitsLayout board) (id : DeviceId) :
    OwnsLine board id := by
  refine ownsLine_of_distinct (fun place device registered => ?_) fits.apart.below
    fits.apart.distinct id
  rw [fits.configs place device registered]

theorem FitsLayout.sameWiring {board board' : SimBoard} (fits : FitsLayout board)
    (wiring : SameWiring board board') : FitsLayout board' where
  apart := wiring.layout ▸ fits.apart
  configs place device registered := by
    have config := wiring.configs place
    rw [registered, Option.map_some, eq_comm, Option.map_eq_some_iff] at config
    obtain ⟨device', registered', same⟩ := config
    rw [wiring.layout, ← same]
    exact fits.configs place device' registered'

theorem fitsLayout_boardOfLayout {layout : Vector DeviceConfig maxDevices} (apart : LinesApart layout)
    (ids : List DeviceId) : FitsLayout ((boardOfLayout layout).registering ids) where
  apart := apart
  configs place device registered := by
    simp only [Board.registering, boardOfLayout, Board.ofLayout, get_place,
      Vector.getElem_mapFinIdx] at registered
    split at registered
    · obtain rfl := Option.some.inj registered
      rfl
    · cases registered

namespace InWindows

variable {moment : Moment}

/-- A request of the user that runs no handler leads on. -/
theorem answer (runs : InWindows place ⟨before, history, []⟩)
    (answers : Answers before request reply after) (permitted : schedules request = true)
    (window : (before.board.queueAt place).length < (after.board.queueAt place).length →
      (after.board.queueAt place).InWindow) :
    InWindows place ⟨after, history.push (.answered none ⟨0, request⟩ reply), []⟩ :=
  runs.move (.answer .user permitted answers) window

theorem fitsLayout (runs : InWindows place moment) : FitsLayout moment.scheduler.board := by
  induction runs with
  | start layout ids logger apart => exact fitsLayout_boardOfLayout apart ids
  | move earlier move window ih => exact ih.sameWiring (move.ports fun _ => id).wiring

theorem passed (runs : InWindows place moment) : Passed Serving moment := by
  induction runs with
  | start layout ids logger apart => exact .start layout ids logger
  | move earlier move window ih =>
    have serving : ∀ request, schedules request = true → Serving _ request :=
      fun request permitted => ⟨permitted, fun id _ => earlier.fitsLayout.ownsLine id⟩
    exact ih.progress (.move (.refl _) (move.mono serving))

/-- At all times the queue is in order. -/
theorem lined (runs : InWindows place moment) :
    Lined (moment.scheduler.board.queueAt place) moment.history := by
  induction runs with
  | start layout ids logger apart =>
    rw [queueAt_boardOfLayout]
    refine ⟨fun entry waits => ?_, List.Pairwise.nil⟩
    cases waits
  | move earlier move window ih => exact ih.move earlier.passed.coherent move window

end InWindows

end DeadlineTimers.Simulated
