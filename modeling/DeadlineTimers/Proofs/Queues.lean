import DeadlineTimers.Queue
import Mathlib.Data.List.Nodup

/-!
# What the queue operations do

Each operation on a deadline queue as an equation on its list of entries, and what it does to the
earliest deadline.
-/

namespace DeadlineTimers.DeadlineQueue

variable {capacity : Nat} {queue queue' : DeadlineQueue capacity} {timer : TimerId}
  {expiry : Ticks} {isHead : Bool}

theorem nextExpiry_eq (queue : DeadlineQueue capacity) :
    queue.nextExpiry = queue.entries.head?.map (·.expiry) := rfl

/-- The entries that an inserted deadline goes behind. -/
def ahead (queue : DeadlineQueue capacity) (expiry : Ticks) : List QueueEntry :=
  queue.entries.takeWhile fun entry => !Tick.before expiry entry.expiry

/-- The entries that an inserted deadline goes in front of. -/
def behind (queue : DeadlineQueue capacity) (expiry : Ticks) : List QueueEntry :=
  queue.entries.dropWhile fun entry => !Tick.before expiry entry.expiry

theorem ahead_append_behind (queue : DeadlineQueue capacity) (expiry : Ticks) :
    queue.ahead expiry ++ queue.behind expiry = queue.entries :=
  List.takeWhile_append_dropWhile

/-- A timer is inserted exactly if it is not queued and there is room. -/
theorem insert_eq_ok_iff :
    queue.insert timer expiry = .ok (isHead, queue') ↔
      queue.contains timer = false ∧ queue.length < capacity ∧
        isHead = (queue.ahead expiry).isEmpty ∧
        queue'.entries = queue.ahead expiry ++ ⟨timer, expiry⟩ :: queue.behind expiry := by
  obtain ⟨entries⟩ := queue'
  unfold insert
  cases queued : queue.contains timer with
  | true => simp
  | false =>
    by_cases full : capacity ≤ queue.length
    · simp [full, Nat.not_lt.2 full]
    · simp only [Bool.false_eq_true, ↓reduceIte, full, Except.ok.injEq, Prod.mk.injEq,
        DeadlineQueue.mk.injEq, true_and, Nat.not_le.1 full]
      exact and_congr eq_comm eq_comm

theorem nextExpiry_of_insert_head (inserted : queue.insert timer expiry = .ok (true, queue')) :
    queue'.nextExpiry = some expiry := by
  obtain ⟨-, -, head, entries⟩ := insert_eq_ok_iff.1 inserted
  rw [nextExpiry_eq, entries, List.isEmpty_iff.1 head.symm]
  rfl

theorem nextExpiry_of_insert_behind (inserted : queue.insert timer expiry = .ok (false, queue')) :
    queue'.nextExpiry = queue.nextExpiry := by
  obtain ⟨-, -, head, entries⟩ := insert_eq_ok_iff.1 inserted
  have split := queue.ahead_append_behind expiry
  rw [nextExpiry_eq, nextExpiry_eq, entries, ← split]
  cases found : queue.ahead expiry with
  | nil => simp [found] at head
  | cons first rest => rfl

theorem nextExpiry_of_remove_behind (behind : queue.isHead timer = false) :
    (queue.remove timer).2.nextExpiry = queue.nextExpiry := by
  obtain ⟨entries⟩ := queue
  cases entries with
  | nil => rfl
  | cons first rest =>
    have other : (first.timer == timer) = false := behind
    change ((first :: rest).eraseP (·.timer == timer)).head?.map _ = _
    rw [List.eraseP_cons_of_neg (by simp [other])]
    rfl

theorem mem_insert_iff (inserted : queue.insert timer expiry = .ok (isHead, queue'))
    {entry : QueueEntry} : entry ∈ queue'.entries ↔ entry = ⟨timer, expiry⟩ ∨ entry ∈ queue.entries := by
  obtain ⟨-, -, -, entries⟩ := insert_eq_ok_iff.1 inserted
  rw [entries, List.mem_append, List.mem_cons, ← queue.ahead_append_behind expiry, List.mem_append]
  exact or_left_comm

theorem mem_insert {entry : QueueEntry}
    (inserted : queue.insert timer expiry = .ok (isHead, queue')) (waits : entry ∈ queue.entries) :
    entry ∈ queue'.entries := (mem_insert_iff inserted).2 (.inr waits)

theorem length_insert (inserted : queue.insert timer expiry = .ok (isHead, queue')) :
    queue'.length = queue.length + 1 := by
  obtain ⟨-, -, -, entries⟩ := insert_eq_ok_iff.1 inserted
  rw [length, length, entries, ← queue.ahead_append_behind expiry]
  simp [Nat.add_assoc]

theorem length_lt_of_insert (inserted : queue.insert timer expiry = .ok (isHead, queue')) :
    queue.length < queue'.length := by
  rw [length_insert inserted]
  exact Nat.lt_succ_self _

theorem mem_remove {entry : QueueEntry} (waits : entry ∈ queue.entries) :
    entry ∈ (queue.remove timer).2.entries ∨ entry.timer = timer := by
  by_cases same : entry.timer = timer
  · exact .inr same
  · exact .inl ((List.mem_eraseP_of_neg (by simpa using same)).2 waits)

/-! ## Timers of a queue -/

def Distinct (queue : DeadlineQueue capacity) : Prop := (queue.entries.map (·.timer)).Nodup

theorem ne_of_not_contains (absent : queue.contains timer = false) {entry : QueueEntry}
    (waits : entry ∈ queue.entries) : entry.timer ≠ timer := by
  rw [contains, List.any_eq_false] at absent
  simpa using absent entry waits

theorem not_contains_insert {other : TimerId}
    (inserted : queue.insert timer expiry = .ok (isHead, queue'))
    (absent : queue.contains other = false) (apart : timer ≠ other) :
    queue'.contains other = false := by
  rw [contains, List.any_eq_false]
  intro entry waits
  rcases (mem_insert_iff inserted).1 waits with rfl | waits
  · simpa using apart
  · simpa using ne_of_not_contains absent waits

theorem Distinct.insert (distinct : queue.Distinct)
    (inserted : queue.insert timer expiry = .ok (isHead, queue')) : queue'.Distinct := by
  obtain ⟨absent, -, -, entries⟩ := insert_eq_ok_iff.1 inserted
  have fresh : timer ∉ queue.entries.map (·.timer) := by
    intro among
    obtain ⟨entry, waits, same⟩ := List.mem_map.1 among
    exact ne_of_not_contains absent waits same
  rw [← queue.ahead_append_behind expiry, List.map_append] at fresh
  rw [Distinct, ← queue.ahead_append_behind expiry, List.map_append] at distinct
  rw [Distinct, entries, List.map_append, List.map_cons]
  exact List.nodup_middle.2 (List.nodup_cons.2 ⟨fresh, distinct⟩)

theorem Distinct.remove (distinct : queue.Distinct) (timer : TimerId) :
    (queue.remove timer).2.Distinct :=
  distinct.sublist (List.eraseP_sublist.map _)

theorem Distinct.mem_remove_iff (distinct : queue.Distinct) {entry : QueueEntry} :
    entry ∈ (queue.remove timer).2.entries ↔ entry ∈ queue.entries ∧ entry.timer ≠ timer := by
  constructor
  · intro left
    have waits : entry ∈ queue.entries := List.eraseP_sublist.subset left
    refine ⟨waits, ?_⟩
    rintro rfl
    -- The entry that was taken out is the only one of its timer.
    obtain ⟨first, head, tail, -, found, split, rest⟩ := List.exists_of_eraseP waits
      (p := fun other => other.timer == entry.timer) (beq_self_eq_true _)
    have erased : (queue.remove entry.timer).2.entries = head ++ tail := rest
    rw [erased, List.mem_append] at left
    rw [Distinct, split, List.map_append, List.map_cons, List.nodup_middle, List.nodup_cons,
      ← List.map_append] at distinct
    rw [beq_iff_eq] at found
    exact distinct.1 (found ▸ List.mem_map_of_mem (List.mem_append.2 left))
  · rintro ⟨waits, other⟩
    exact (mem_remove waits).resolve_right other

/-- The entries of a queued timer are one entry. -/
theorem Distinct.filter_eq (distinct : queue.Distinct) {entry : QueueEntry}
    (waits : entry ∈ queue.entries) :
    queue.entries.filter (·.timer == entry.timer) = [entry] := by
  obtain ⟨entries⟩ := queue
  change (entries.map (·.timer)).Nodup at distinct
  change entry ∈ entries at waits
  change entries.filter (·.timer == entry.timer) = [entry]
  induction entries with
  | nil => cases waits
  | cons head rest ih =>
    obtain ⟨fresh, distinct⟩ := List.nodup_cons.1 distinct
    rcases List.mem_cons.1 waits with rfl | waits
    · have none : rest.filter (·.timer == entry.timer) = [] := by
        rw [List.filter_eq_nil_iff]
        intro other among same
        exact fresh (List.mem_map.2 ⟨other, among, beq_iff_eq.1 same⟩)
      rw [List.filter_cons_of_pos (by simp), none]
    · have different : head.timer ≠ entry.timer := by
        intro same
        exact fresh (List.mem_map.2 ⟨entry, waits, same.symm⟩)
      rw [List.filter_cons_of_neg (by simpa using different)]
      exact ih distinct waits

theorem Distinct.remove_eq (distinct : queue.Distinct) {entry : QueueEntry}
    (waits : entry ∈ queue.entries) : (queue.remove entry.timer).1 = some entry := by
  change queue.entries.find? (·.timer == entry.timer) = _
  rw [← List.head?_filter, distinct.filter_eq waits]
  rfl

theorem popExpired_of_none {now : Ticks} (none : (queue.popExpired now).1 = none) :
    (queue.popExpired now).2 = queue := by
  unfold popExpired at none ⊢
  split
  · rfl
  · next head rest entries =>
    simp only [entries] at none
    split
    · next reached =>
      rw [if_pos reached] at none
      cases none
    · rfl

theorem popExpired_of_some {now : Ticks} {entry : QueueEntry}
    (some : (queue.popExpired now).1 = some entry) :
    queue.entries = entry :: (queue.popExpired now).2.entries ∧
      Tick.reached now entry.expiry = true := by
  unfold popExpired at some ⊢
  split
  · next empty =>
    simp only [empty] at some
    cases some
  · next head rest entries =>
    simp only [entries] at some
    split
    · next reached =>
      rw [if_pos reached] at some
      obtain rfl := Option.some.inj some
      exact ⟨entries, reached⟩
    · next ahead =>
      rw [if_neg ahead] at some
      cases some

theorem popExpired_isSome_iff {now : Ticks} : (queue.popExpired now).1.isSome = true ↔
    ∃ head, queue.peekEarliest = some head ∧ Tick.reached now head.expiry = true := by
  obtain ⟨entries⟩ := queue
  cases entries with
  | nil => simp [popExpired, peekEarliest]
  | cons head rest =>
    by_cases reached : Tick.reached now head.expiry = true
    · simp [popExpired, peekEarliest, reached]
    · simp [popExpired, peekEarliest, reached]

theorem drainExpired_append (queue : DeadlineQueue capacity) (now : Ticks) :
    (queue.drainExpired now).1 ++ (queue.drainExpired now).2.entries = queue.entries :=
  List.takeWhile_append_dropWhile

theorem drainExpired_of_none {now : Ticks} (none : (queue.popExpired now).1 = none) :
    queue.drainExpired now = ([], queue) := by
  obtain ⟨entries⟩ := queue
  cases entries with
  | nil => rfl
  | cons head rest =>
    by_cases reached : Tick.reached now head.expiry = true
    · simp [popExpired, reached] at none
    · simp [drainExpired, reached]

/-- The head that a draining leaves lies ahead. -/
theorem ahead_of_drained {now expiry : Ticks}
    (head : (queue.drainExpired now).2.nextExpiry = some expiry) :
    Tick.reached now expiry = false := by
  obtain ⟨entry, first, rfl⟩ := Option.map_eq_some_iff.1 head
  have stops := List.head?_dropWhile_not (fun entry => Tick.reached now entry.expiry) queue.entries
  change (queue.entries.dropWhile _).head? = some entry at first
  rw [first] at stops
  exact stops

/-- Draining by the same tick again takes nothing. -/
theorem drainExpired_drained (queue : DeadlineQueue capacity) (now : Ticks) :
    (queue.drainExpired now).2.drainExpired now = ([], (queue.drainExpired now).2) := by
  apply drainExpired_of_none
  rw [← Option.not_isSome_iff_eq_none, popExpired_isSome_iff]
  rintro ⟨head, first, reached⟩
  have next : (queue.drainExpired now).2.nextExpiry = some head.expiry := by
    rw [nextExpiry, first, Option.map_some]
  cases (ahead_of_drained next).symm.trans reached

theorem drainExpired_of_cons {now : Ticks} {head : QueueEntry} {rest : List QueueEntry}
    (entries : queue.entries = head :: rest) (reached : Tick.reached now head.expiry = true) :
    queue.drainExpired now =
      let later := (⟨rest⟩ : DeadlineQueue capacity).drainExpired now
      (head :: later.1, later.2) := by
  simp [drainExpired, entries, reached]

end DeadlineTimers.DeadlineQueue
