import DeadlineTimers.Proofs.StableQueue

/-!
# The entries of a queue, whatever their deadlines

Over the whole range of ticks one tick being before another is not an order, so the place that an inserted
deadline gets can be any. What the operations do to the list of entries does not depend on it: each of them
puts in or takes out the entries that it answers and leaves the others in the order they were in, and no
run of operations has a timer in the queue twice or more entries in it than fit.
-/

namespace DeadlineTimers.DeadlineQueue

variable {capacity : Nat} {queue queue' : DeadlineQueue capacity} {timer : TimerId}
  {expiry now : Ticks} {isHead : Bool}

/-! ## Putting in and taking out -/

/-- A timer is turned away because it is queued, or else because the queue is full. -/
theorem insert_eq_error_iff {error : TimerError} :
    queue.insert timer expiry = .error error ↔
      queue.contains timer = true ∧ error = .invalid .timerPending ∨
        queue.contains timer = false ∧ capacity ≤ queue.length ∧ error = .queueFull := by
  unfold insert
  cases queued : queue.contains timer with
  | true => simp [eq_comm]
  | false =>
    by_cases full : capacity ≤ queue.length
    · simp [full, eq_comm]
    · simp [full]

/-- Taking a timer out right after it was put in undoes the insertion, wherever it went. -/
theorem remove_of_insert (inserted : queue.insert timer expiry = .ok (isHead, queue')) :
    queue'.remove timer = (some ⟨timer, expiry⟩, queue) := by
  obtain ⟨absent, -, -, entries⟩ := insert_eq_ok_iff.1 inserted
  have others : ∀ entry ∈ queue.ahead expiry, ¬(entry.timer == timer) = true := by
    intro entry found
    have waits : entry ∈ queue.entries := (List.takeWhile_sublist _).subset found
    simpa using ne_of_not_contains absent waits
  have answered : queue'.entries.find? (·.timer == timer) = some ⟨timer, expiry⟩ := by
    rw [entries, List.find?_append, List.find?_eq_none.2 others, Option.none_or]
    exact List.find?_cons_of_pos (p := fun entry : QueueEntry => entry.timer == timer)
      (beq_self_eq_true timer)
  have left : queue'.entries.eraseP (·.timer == timer) = queue.entries := by
    rw [entries, List.eraseP_append_right _ others]
    have front : (⟨timer, expiry⟩ :: queue.behind expiry).eraseP (·.timer == timer) =
      queue.behind expiry := List.eraseP_cons_of_pos (beq_self_eq_true timer)
    rw [front, ahead_append_behind]
  rw [remove, answered, left]

theorem Distinct.entries_remove (distinct : queue.Distinct) (timer : TimerId) :
    (queue.remove timer).2.entries = queue.entries.filter (·.timer != timer) := by
  have kept : (queue.remove timer).2.entries.filter (·.timer != timer) =
      (queue.remove timer).2.entries :=
    List.filter_eq_self.2 fun entry left => bne_iff_ne.2 (distinct.mem_remove_iff.1 left).2
  rw [← kept]
  rcases List.exists_or_eq_self_of_eraseP (·.timer == timer) queue.entries with
    same | ⟨found, front, back, -, is_timer, split, left⟩
  · exact congrArg (List.filter (·.timer != timer)) same
  · have removed : (queue.remove timer).2.entries = front ++ back := left
    have dropped : (found.timer != timer) = false := by simpa using is_timer
    rw [removed, split, List.filter_append, List.filter_append, List.filter_cons, dropped]
    rfl

theorem Distinct.remove_eq_some_iff (distinct : queue.Distinct) {entry : QueueEntry} :
    (queue.remove timer).1 = some entry ↔ entry ∈ queue.entries ∧ entry.timer = timer := by
  constructor
  · intro found
    exact ⟨List.mem_of_find?_eq_some found, by simpa using List.find?_some found⟩
  · rintro ⟨waits, rfl⟩
    exact distinct.remove_eq waits

/-! ## Taking off what is due -/

theorem popExpired_append (queue : DeadlineQueue capacity) (now : Ticks) :
    (queue.popExpired now).1.toList ++ (queue.popExpired now).2.entries = queue.entries := by
  cases popped : (queue.popExpired now).1 with
  | none => rw [popExpired_of_none popped, Option.toList_none, List.nil_append]
  | some head => exact (popExpired_of_some popped).1.symm

theorem popExpired_fst (queue : DeadlineQueue capacity) (now : Ticks) :
    (queue.popExpired now).1 = queue.peekEarliest.filter fun head => Tick.reached now head.expiry := by
  obtain ⟨entries⟩ := queue
  cases entries with
  | nil => rfl
  | cons head rest =>
    by_cases reached : Tick.reached now head.expiry = true
    · simp [popExpired, peekEarliest, reached, Option.filter]
    · simp [popExpired, peekEarliest, reached, Option.filter]

/-- Draining is taking the head off for as long as it is due. -/
theorem drainExpired_eq_pops (queue : DeadlineQueue capacity) (now : Ticks) :
    queue.drainExpired now =
      match queue.popExpired now with
      | (none, _) => ([], queue)
      | (some head, rest) => (head :: (rest.drainExpired now).1, (rest.drainExpired now).2) := by
  cases popped : queue.popExpired now with
  | mk due rest =>
    cases due with
    | none => exact drainExpired_of_none (congrArg Prod.fst popped)
    | some head =>
      obtain ⟨entries, reached⟩ := popExpired_of_some (congrArg Prod.fst popped)
      rw [popped] at entries
      exact drainExpired_of_cons entries reached

/-- What is drained is the longest run of due entries at the front. -/
theorem prefix_drainExpired {front : List QueueEntry} (isFront : front <+: queue.entries)
    (due : ∀ entry ∈ front, Tick.reached now entry.expiry = true) :
    front <+: (queue.drainExpired now).1 := by
  obtain ⟨back, split⟩ := isFront
  have drained : (queue.drainExpired now).1 =
      queue.entries.takeWhile fun entry => Tick.reached now entry.expiry := rfl
  rw [drained, ← split, List.takeWhile_append_of_pos due]
  exact List.prefix_append _ _

/-! ## What every operation keeps -/

structure WellFormed (queue : DeadlineQueue capacity) : Prop where
  distinct : queue.Distinct
  fits : queue.length ≤ capacity

namespace WellFormed

theorem fewer (wellFormed : queue.WellFormed) (fewer : queue'.entries.Sublist queue.entries) :
    queue'.WellFormed where
  distinct := wellFormed.distinct.sublist (fewer.map _)
  fits := fewer.length_le.trans wellFormed.fits

theorem insert (wellFormed : queue.WellFormed)
    (inserted : queue.insert timer expiry = .ok (isHead, queue')) : queue'.WellFormed where
  distinct := wellFormed.distinct.insert inserted
  fits := by
    rw [length_insert inserted]
    exact (insert_eq_ok_iff.1 inserted).2.1

theorem after {traced : Traced capacity} (wellFormed : traced.queue.WellFormed)
    (operation : Operation) : (traced.after operation).queue.WellFormed := by
  cases operation with
  | insert timer expiry =>
    simp only [Traced.after]
    split
    · next inserted => exact wellFormed.insert inserted
    · exact wellFormed
  | remove timer => exact wellFormed.fewer List.eraseP_sublist
  | peekEarliest => exact wellFormed
  | popExpired now =>
    refine wellFormed.fewer ?_
    rw [← traced.queue.popExpired_append now]
    exact List.sublist_append_right _ _
  | drainExpired now => exact wellFormed.fewer (List.dropWhile_sublist _)

theorem run {traced : Traced capacity} (wellFormed : traced.queue.WellFormed)
    (operations : List Operation) : (traced.run operations).queue.WellFormed := by
  induction operations generalizing traced with
  | nil => exact wellFormed
  | cons first rest ih => exact ih (wellFormed.after first)

end WellFormed

/-! ## The laws of a queue -/

/-- What the operations do to the entries of a queue. -/
structure AccountsForEntries (queue : DeadlineQueue capacity) : Prop where
  distinct : queue.Distinct
  fits : queue.length ≤ capacity
  rejects : ∀ timer expiry error, queue.insert timer expiry = .error error ↔
    queue.contains timer = true ∧ error = .invalid .timerPending ∨
      queue.contains timer = false ∧ queue.length = capacity ∧ error = .queueFull
  /-- A timer that is turned away leaves the queue as it was. -/
  unchanged : ∀ timer expiry error, queue.insert timer expiry = .error error →
    ∀ inserted, (Traced.after ⟨queue, inserted⟩ (.insert timer expiry)).queue = queue
  /-- An entry goes in somewhere between the others, and taking it out again restores the queue. -/
  inserts : ∀ timer expiry isHead queue', queue.insert timer expiry = .ok (isHead, queue') →
    (∃ front back, queue.entries = front ++ back ∧
      queue'.entries = front ++ ⟨timer, expiry⟩ :: back ∧ isHead = front.isEmpty) ∧
      queue'.remove timer = (some ⟨timer, expiry⟩, queue)
  removes : ∀ timer,
    (queue.remove timer).2.entries = queue.entries.filter (·.timer != timer) ∧
      ∀ entry, (queue.remove timer).1 = some entry ↔ entry ∈ queue.entries ∧ entry.timer = timer
  /-- At most the head is taken off, and it is exactly if it is due. -/
  pops : ∀ now, (queue.popExpired now).1.toList ++ (queue.popExpired now).2.entries = queue.entries ∧
    (queue.popExpired now).1 = queue.peekEarliest.filter fun head => Tick.reached now head.expiry
  /-- The longest run of due entries at the front is drained, one head after another. -/
  drains : ∀ now,
    let drained := (queue.drainExpired now).1
    let left := (queue.drainExpired now).2
    drained ++ left.entries = queue.entries ∧
      (∀ entry ∈ drained, Tick.reached now entry.expiry = true) ∧
      (∀ head, left.peekEarliest = some head → Tick.reached now head.expiry = false) ∧
      (∀ front, front <+: queue.entries → (∀ entry ∈ front, Tick.reached now entry.expiry = true) →
        front <+: drained) ∧
      (drained, left) =
        match queue.popExpired now with
        | (none, _) => ([], queue)
        | (some head, rest) => (head :: (rest.drainExpired now).1, (rest.drainExpired now).2)

/-- After any operations on a queue that starts empty, whatever the deadlines and the present ticks are, an
operation accounts for every entry. -/
theorem accounts_for_entries (operations : List Operation) :
    (({} : Traced capacity).run operations).queue.AccountsForEntries := by
  have start : ({} : Traced capacity).queue.WellFormed := ⟨List.nodup_nil, Nat.zero_le _⟩
  have wellFormed := start.run operations
  generalize (({} : Traced capacity).run operations).queue = queue at wellFormed
  obtain ⟨distinct, fits⟩ := wellFormed
  constructor
  case distinct => exact distinct
  case fits => exact fits
  case rejects =>
    intro timer expiry error
    rw [insert_eq_error_iff, ← fits.ge_iff_eq]
  case unchanged =>
    intro timer expiry error refused inserted
    simp only [Traced.after, refused]
  case inserts =>
    intro timer expiry isHead queue' inserted
    obtain ⟨-, -, head, entries⟩ := insert_eq_ok_iff.1 inserted
    exact ⟨⟨queue.ahead expiry, queue.behind expiry, (queue.ahead_append_behind expiry).symm, entries,
      head⟩, remove_of_insert inserted⟩
  case removes =>
    exact fun timer => ⟨distinct.entries_remove timer, fun entry => distinct.remove_eq_some_iff⟩
  case pops => exact fun now => ⟨queue.popExpired_append now, queue.popExpired_fst now⟩
  case drains =>
    intro now drained left
    refine ⟨queue.drainExpired_append now, fun entry found => ?_, fun head first => ?_,
      fun front => prefix_drainExpired, queue.drainExpired_eq_pops now⟩
    · exact @List.mem_takeWhile_imp _ _ queue.entries _ found
    · have next : left.nextExpiry = some head.expiry := by rw [nextExpiry, first, Option.map_some]
      exact ahead_of_drained next

/-- Three deadlines a third of a turn apart go around in a circle, and an insertion keeps what it finds. -/
example : (({} : Traced 4).run [.insert 0 0, .insert 1 0x55555555, .insert 2 0xAAAAAAAA]).queue.entries =
    [⟨2, 0xAAAAAAAA⟩, ⟨0, 0⟩, ⟨1, 0x55555555⟩] := by
  decide

end DeadlineTimers.DeadlineQueue
