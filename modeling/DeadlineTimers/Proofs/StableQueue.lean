import DeadlineTimers.Proofs.QueueOrder
import Mathlib.Data.List.Sort

/-!
# Queues as stable priority queues

Ticks wrap, so that one tick being before another is not an order. As long as everything a queue is asked
about lies within half a turn of one base, the distance from that base is one, and the queue keeps its
entries by it: a queue that starts empty stays in order over any run of operations, and among equal
deadlines the one that was put in first goes first.
-/

namespace DeadlineTimers

def Tick.key (base tick : Ticks) : Nat := (tick - base).toNat

namespace DeadlineQueue

variable {capacity : Nat}

inductive Operation where
  | insert (timer : TimerId) (expiry : Ticks)
  | remove (timer : TimerId)
  | peekEarliest
  | popExpired (now : Ticks)
  | drainExpired (now : Ticks)

/-- The deadline or the present tick that an operation brings in. -/
def Operation.tick? : Operation → Option Ticks
  | insert _ tick | popExpired tick | drainExpired tick => some tick
  | remove _ | peekEarliest => none

def Operation.queueing (entry : QueueEntry) : Operation := .insert entry.timer entry.expiry

/-- A queue together with the timers that went into it, the latest one first. -/
structure Traced (capacity : Nat) where
  queue : DeadlineQueue capacity := .empty
  inserted : List TimerId := []
  deriving DecidableEq

/-- One timer went in earlier than another, by the last time that each of them did. -/
def InsertedBefore (inserted : List TimerId) (first second : TimerId) : Prop :=
  inserted.idxOf second < inserted.idxOf first

namespace Traced

/-- The queue after an operation. A timer that is turned away was never in. -/
def after (traced : Traced capacity) : Operation → Traced capacity
  | .insert timer expiry =>
    match traced.queue.insert timer expiry with
    | .ok (_, queue) => ⟨queue, timer :: traced.inserted⟩
    | .error _ => traced
  | .remove timer => { traced with queue := (traced.queue.remove timer).2 }
  | .peekEarliest => traced
  | .popExpired now => { traced with queue := (traced.queue.popExpired now).2 }
  | .drainExpired now => { traced with queue := (traced.queue.drainExpired now).2 }

def run (traced : Traced capacity) (operations : List Operation) : Traced capacity :=
  operations.foldl after traced

end Traced

/-! ## Entries in order -/

theorem ascending_of_pairwise {entries : List QueueEntry}
    (ascending : entries.Pairwise fun first second => Tick.before second.expiry first.expiry = false) :
    DeadlineQueue.ascending entries = true := by
  fun_induction DeadlineQueue.ascending entries with
  | case1 first second rest ih =>
    obtain ⟨head, tail⟩ := List.pairwise_cons.1 ascending
    rw [head second List.mem_cons_self, ih tail]
    rfl
  | case2 => rfl

abbrev byKey (base : Ticks) (entries : List QueueEntry) (entry : QueueEntry) : List QueueEntry :=
  entries.orderedInsert (fun first second => Tick.key base first.expiry < Tick.key base second.expiry)
    entry

theorem byKey_comm {base : Ticks} {first second : QueueEntry}
    (apart : Tick.key base first.expiry ≠ Tick.key base second.expiry) (entries : List QueueEntry) :
    byKey base (byKey base entries first) second = byKey base (byKey base entries second) first := by
  -- Where neither key is less than that of the head, both entries go further and the induction applies.
  induction entries with
  | nil => grind
  | cons head rest ih => grind

theorem byKey_eq {base : Ticks} {entry : QueueEntry} {entries : List QueueEntry}
    {stays : QueueEntry → Bool}
    (stays_iff : ∀ other ∈ entries,
      stays other = true ↔ ¬Tick.key base entry.expiry < Tick.key base other.expiry) :
    entries.takeWhile stays ++ entry :: entries.dropWhile stays = byKey base entries entry := by
  induction entries with
  | nil => rfl
  | cons head rest ih =>
    have ih := ih fun other among => stays_iff other (List.mem_cons_of_mem _ among)
    have first := stays_iff head List.mem_cons_self
    rw [byKey, List.orderedInsert_cons, List.takeWhile_cons, List.dropWhile_cons]
    by_cases earlier : Tick.key base entry.expiry < Tick.key base head.expiry
    · rw [if_pos earlier, if_neg fun stays => first.1 stays earlier,
        if_neg fun stays => first.1 stays earlier]
      rfl
    · rw [if_neg earlier, if_pos (first.2 earlier), if_pos (first.2 earlier), List.cons_append, ih]

theorem foldl_byKey_perm (base : Ticks) (entries start : List QueueEntry) :
    (entries.foldl (byKey base) start).Perm (start ++ entries) := by
  induction entries generalizing start with
  | nil => rw [List.foldl_nil, List.append_nil]
  | cons head rest ih =>
    calc ((head :: rest).foldl (byKey base) start).Perm (byKey base start head ++ rest) := ih _
      List.Perm _ (head :: start ++ rest) := (List.perm_orderedInsert _ head start).append_right rest
      List.Perm _ (start ++ head :: rest) := List.perm_middle.symm

/-- Entries with keys of their own come to lie in the same places in whatever order they go in. -/
theorem foldl_byKey_eq_of_perm {base : Ticks} {first second : List QueueEntry}
    (perm : first.Perm second) (apart : (first.map fun entry => Tick.key base entry.expiry).Nodup)
    (entries : List QueueEntry) :
    first.foldl (byKey base) entries = second.foldl (byKey base) entries := by
  refine perm.foldl_eq' (fun entry among other among' entries => ?_) entries
  by_cases same : entry = other
  · rw [same]
  · refine byKey_comm (fun tie => same ?_) entries
    exact List.inj_on_of_nodup_map apart among among' tie

/-! ## What every operation keeps -/

theorem insertedBefore_cons {inserted : List TimerId} {timer first second : TimerId}
    (otherFirst : first ≠ timer) (otherSecond : second ≠ timer) :
    InsertedBefore (timer :: inserted) first second ↔ InsertedBefore inserted first second := by
  rw [InsertedBefore, List.idxOf_cons_ne _ otherFirst.symm, List.idxOf_cons_ne _ otherSecond.symm,
    Nat.succ_lt_succ_iff, InsertedBefore]

theorem insertedBefore_latest {inserted : List TimerId} {timer first : TimerId}
    (other : first ≠ timer) : InsertedBefore (timer :: inserted) first timer := by
  rw [InsertedBefore, List.idxOf_cons_self, List.idxOf_cons_ne _ other.symm]
  exact Nat.succ_pos _

/-- A queue in a window whose entries are ranked by their deadlines and the times they went in. -/
structure InOrder (base : Ticks) (traced : Traced capacity) : Prop where
  inside : ∀ entry ∈ traced.queue.entries, (entry.expiry - base).toNat < 2 ^ 31
  ranked : traced.queue.Ranked (InsertedBefore traced.inserted)
  recorded : ∀ entry ∈ traced.queue.entries, entry.timer ∈ traced.inserted

namespace InOrder

variable {base : Ticks} {traced : Traced capacity} {timer : TimerId} {expiry : Ticks} {isHead : Bool}
  {queue : DeadlineQueue capacity}

theorem start (base : Ticks) : InOrder base ({} : Traced capacity) :=
  ⟨fun _ => nofun, List.Pairwise.nil, fun _ => nofun⟩

theorem fewer (inOrder : InOrder base traced) (fewer : queue.entries.Sublist traced.queue.entries) :
    InOrder base { traced with queue } where
  inside entry waits := inOrder.inside entry (fewer.subset waits)
  ranked := inOrder.ranked.of_sublist fewer fun _ _ _ _ => id
  recorded entry waits := inOrder.recorded entry (fewer.subset waits)

theorem insert (inOrder : InOrder base traced)
    (inserted : traced.queue.insert timer expiry = .ok (isHead, queue))
    (near : (expiry - base).toNat < 2 ^ 31) : InOrder base ⟨queue, timer :: traced.inserted⟩ := by
  obtain ⟨absent, -⟩ := insert_eq_ok_iff.1 inserted
  have other {entry : QueueEntry} (waits : entry ∈ traced.queue.entries) : entry.timer ≠ timer :=
    ne_of_not_contains absent waits
  have inside : ∀ entry ∈ queue.entries, (entry.expiry - base).toNat < 2 ^ 31 := by
    intro entry waits
    rcases (mem_insert_iff inserted).1 waits with rfl | waits
    · exact near
    · exact inOrder.inside entry waits
  have ranked : traced.queue.Ranked (InsertedBefore (timer :: traced.inserted)) := by
    refine inOrder.ranked.of_sublist (List.Sublist.refl _) fun first waits second waits' => ?_
    exact (insertedBefore_cons (other waits) (other waits')).2
  refine ⟨inside, ?_, fun entry waits => ?_⟩
  · exact ranked.insert inserted ⟨base, inside⟩ fun entry waits =>
      insertedBefore_latest (other waits)
  · rcases (mem_insert_iff inserted).1 waits with rfl | waits
    · exact List.mem_cons_self
    · exact List.mem_cons_of_mem _ (inOrder.recorded entry waits)

theorem after (inOrder : InOrder base traced) {operation : Operation}
    (near : ∀ tick ∈ operation.tick?, (tick - base).toNat < 2 ^ 31) :
    InOrder base (traced.after operation) := by
  cases operation with
  | insert timer expiry =>
    simp only [Traced.after]
    split
    · next inserted => exact inOrder.insert inserted (near expiry rfl)
    · exact inOrder
  | remove timer => exact inOrder.fewer List.eraseP_sublist
  | peekEarliest => exact inOrder
  | popExpired now =>
    refine inOrder.fewer ?_
    cases popped : (traced.queue.popExpired now).1 with
    | none => rw [popExpired_of_none popped]
    | some head =>
      rw [(popExpired_of_some popped).1]
      exact List.sublist_cons_self _ _
  | drainExpired now => exact inOrder.fewer (List.dropWhile_sublist _)

theorem run (inOrder : InOrder base traced) {operations : List Operation}
    (near : ∀ operation ∈ operations, ∀ tick ∈ operation.tick?, (tick - base).toNat < 2 ^ 31) :
    InOrder base (traced.run operations) := by
  induction operations generalizing traced with
  | nil => exact inOrder
  | cons first rest ih =>
    refine ih (inOrder.after (near first List.mem_cons_self)) fun operation among => ?_
    exact near operation (List.mem_cons_of_mem _ among)

/-! ## What an ordered queue answers -/

theorem isSorted (inOrder : InOrder base traced) : traced.queue.isSorted = true :=
  ascending_of_pairwise (inOrder.ranked.imp fun ahead => ahead.ascending)

/-- In a window an entry goes ahead of another by its key, and of an equal one if it went in earlier. -/
theorem keys (inOrder : InOrder base traced) : traced.queue.entries.Pairwise fun first second =>
    Tick.key base first.expiry < Tick.key base second.expiry ∨
      Tick.key base first.expiry = Tick.key base second.expiry ∧
        InsertedBefore traced.inserted first.timer second.timer := by
  refine inOrder.ranked.imp_of_mem fun {first second} waits waits' ahead => ?_
  have ascending := ahead.ascending
  rw [← Bool.not_eq_true,
    Tick.before_iff_of_window (inOrder.inside second waits') (inOrder.inside first waits),
    Nat.not_lt] at ascending
  refine ascending.lt_or_eq.imp id fun tie => ⟨tie, ahead.ties ?_⟩
  rw [← UInt32.sub_add_cancel first.expiry base, UInt32.toNat_inj.1 tie, UInt32.sub_add_cancel]

/-- An inserted deadline stays behind nothing exactly if it is strictly the earliest. -/
theorem ahead_isEmpty_iff (inOrder : InOrder base traced) (near : (expiry - base).toNat < 2 ^ 31) :
    (traced.queue.ahead expiry).isEmpty = true ↔
      ∀ entry ∈ traced.queue.entries, Tick.key base expiry < Tick.key base entry.expiry := by
  rw [List.isEmpty_iff]
  constructor
  · intro first entry waits
    have behind : entry ∈ traced.queue.behind expiry := by
      rwa [← traced.queue.ahead_append_behind expiry, first] at waits
    have before := before_of_mem_behind inOrder.ranked inOrder.inside near behind
    exact (Tick.before_iff_of_window near (inOrder.inside entry waits)).1 before
  · intro earliest
    refine List.eq_nil_iff_forall_not_mem.2 fun entry found => ?_
    have waits : entry ∈ traced.queue.entries := (List.takeWhile_sublist _).subset found
    have stays := List.mem_takeWhile_imp found
    rw [(Tick.before_iff_of_window near (inOrder.inside entry waits)).2 (earliest entry waits)] at stays
    cases stays

theorem drains (inOrder : InOrder base traced) {now : Ticks} (near : (now - base).toNat < 2 ^ 31) :
    (traced.queue.drainExpired now).1 = traced.queue.entries.filter (fun entry =>
        Tick.key base entry.expiry ≤ Tick.key base now) ∧
      (traced.queue.drainExpired now).2.entries = traced.queue.entries.filter fun entry =>
        !decide (Tick.key base entry.expiry ≤ Tick.key base now) := by
  obtain ⟨within, beyond⟩ := inOrder.ranked.drainExpired_of_window inOrder.inside near
  rw [← traced.queue.drainExpired_append now]
  let test (entry : QueueEntry) : Bool := decide (Tick.key base entry.expiry ≤ Tick.key base now)
  have due : ∀ entry ∈ (traced.queue.drainExpired now).1, test entry = true :=
    fun entry found => decide_eq_true (within entry found)
  have left : ∀ entry ∈ (traced.queue.drainExpired now).2.entries, test entry = false :=
    fun entry found => decide_eq_false (Nat.not_le.2 (beyond entry found))
  obtain ⟨taken, kept⟩ := filter_append_of_divides due left
  exact ⟨taken.symm, kept.symm⟩

theorem entries_insert (inOrder : InOrder base traced)
    (inserted : traced.queue.insert timer expiry = .ok (isHead, queue))
    (near : (expiry - base).toNat < 2 ^ 31) :
    queue.entries = byKey base traced.queue.entries ⟨timer, expiry⟩ := by
  obtain ⟨-, -, -, entries⟩ := insert_eq_ok_iff.1 inserted
  rw [entries]
  refine byKey_eq fun other waits => ?_
  have before := Tick.before_iff_of_window near (inOrder.inside other waits)
  rw [Bool.not_eq_true', ← Bool.not_eq_true]
  exact not_congr before

/-- Entries that are apart in their timers, of which none is queued, and that fit are all put in, each
where its key belongs. -/
theorem entries_run_queueing (inOrder : InOrder base traced) {entries : List QueueEntry}
    (near : ∀ entry ∈ entries, (entry.expiry - base).toNat < 2 ^ 31)
    (distinct : (entries.map (·.timer)).Nodup)
    (fresh : ∀ entry ∈ entries, traced.queue.contains entry.timer = false)
    (fits : traced.queue.length + entries.length ≤ capacity) :
    (traced.run (entries.map Operation.queueing)).queue.entries =
      entries.foldl (byKey base) traced.queue.entries := by
  induction entries generalizing traced with
  | nil => rfl
  | cons head rest ih =>
    obtain ⟨apart, distinct⟩ := List.nodup_cons.1 distinct
    rw [List.length_cons] at fits
    have accepted : ∃ isHead queue, traced.queue.insert head.timer head.expiry = .ok (isHead, queue) :=
      ⟨_, ⟨_⟩, insert_eq_ok_iff.2 ⟨fresh head List.mem_cons_self, by omega, rfl, rfl⟩⟩
    obtain ⟨isHead, queue, inserted⟩ := accepted
    have after : traced.after (.queueing head) = ⟨queue, head.timer :: traced.inserted⟩ := by
      simp only [Operation.queueing, Traced.after, inserted]
    have placed := inOrder.entries_insert inserted (near head List.mem_cons_self)
    rw [List.map_cons, Traced.run, List.foldl_cons, after, List.foldl_cons, ← placed]
    refine ih (inOrder.insert inserted (near head List.mem_cons_self)) ?_ distinct ?_ ?_
    · exact fun entry among => near entry (List.mem_cons_of_mem _ among)
    · intro entry among
      refine not_contains_insert inserted (fresh entry (List.mem_cons_of_mem _ among)) ?_
      intro same
      exact apart (List.mem_map.2 ⟨entry, among, same.symm⟩)
    · change queue.length + rest.length ≤ capacity
      rw [length_insert inserted]
      omega

end InOrder

/-! ## The queue as a priority queue -/

/-- What can be relied on in a queue with all its deadlines in a window. -/
structure IsStablePriorityQueue (base : Ticks) (traced : Traced capacity) : Prop where
  /-- Entries ascend by key, and those with equal keys stand in the order they went in. -/
  ordered : traced.queue.entries.Pairwise fun first second =>
    Tick.key base first.expiry < Tick.key base second.expiry ∨
      Tick.key base first.expiry = Tick.key base second.expiry ∧
        InsertedBefore traced.inserted first.timer second.timer
  recorded : ∀ entry ∈ traced.queue.entries, entry.timer ∈ traced.inserted
  isSorted : traced.queue.isSorted = true
  peeks : traced.queue.peekEarliest = none ∧ traced.queue.entries = [] ∨
    ∃ head ∈ traced.queue.entries, traced.queue.peekEarliest = some head ∧
      ∀ entry ∈ traced.queue.entries, Tick.key base head.expiry ≤ Tick.key base entry.expiry
  /-- A timer that is not queued goes in while there is room, and no other does. -/
  accepts : ∀ timer expiry, (∃ isHead queue, traced.queue.insert timer expiry = .ok (isHead, queue)) ↔
    traced.queue.contains timer = false ∧ traced.queue.length < capacity
  /-- Of those it becomes the head exactly if its key is less than all others. -/
  inserts : ∀ timer expiry, Tick.key base expiry < 2 ^ 31 →
    ((∃ queue, traced.queue.insert timer expiry = .ok (true, queue)) ↔
      traced.queue.contains timer = false ∧ traced.queue.length < capacity ∧
        ∀ entry ∈ traced.queue.entries, Tick.key base expiry < Tick.key base entry.expiry)
  drains : ∀ now, Tick.key base now < 2 ^ 31 →
    (traced.queue.drainExpired now).1 = traced.queue.entries.filter (fun entry =>
        Tick.key base entry.expiry ≤ Tick.key base now) ∧
      (traced.queue.drainExpired now).2.entries = traced.queue.entries.filter fun entry =>
        !decide (Tick.key base entry.expiry ≤ Tick.key base now)
  /-- A set of entries that are accepted leaves the same queue in whatever order they go in. -/
  anyOrder : ∀ entries : List QueueEntry,
    (∀ entry ∈ entries, Tick.key base entry.expiry < 2 ^ 31) →
    (entries.map fun entry => Tick.key base entry.expiry).Nodup →
    (entries.map (·.timer)).Nodup →
    (∀ entry ∈ entries, traced.queue.contains entry.timer = false) →
    traced.queue.length + entries.length ≤ capacity →
    ∃ filled : DeadlineQueue capacity, filled.entries.Perm (traced.queue.entries ++ entries) ∧
      ∀ order : List QueueEntry, order.Perm entries →
        (traced.run (order.map Operation.queueing)).queue = filled

/-- A queue that starts empty is a stable priority queue after any operations, as long as all deadlines
and all present ticks lie in a window. -/
theorem stable_priority (base : Ticks) (operations : List Operation)
    (near : ∀ operation ∈ operations, ∀ tick ∈ operation.tick?, Tick.key base tick < 2 ^ 31) :
    IsStablePriorityQueue base (({} : Traced capacity).run operations) := by
  have inOrder : InOrder base (({} : Traced capacity).run operations) := (InOrder.start base).run near
  generalize ({} : Traced capacity).run operations = traced at inOrder
  constructor
  case ordered => exact inOrder.keys
  case recorded => exact inOrder.recorded
  case isSorted => exact inOrder.isSorted
  case peeks =>
    have keys := inOrder.keys
    rw [peekEarliest]
    cases entries : traced.queue.entries with
    | nil => exact .inl ⟨rfl, rfl⟩
    | cons head rest =>
      rw [entries, List.pairwise_cons] at keys
      refine .inr ⟨head, List.mem_cons_self, rfl, fun entry waits => ?_⟩
      rcases List.mem_cons.1 waits with rfl | later
      · exact le_rfl
      · exact (keys.1 entry later).elim le_of_lt fun tie => tie.1.le
  case accepts =>
    intro timer expiry
    constructor
    · rintro ⟨isHead, queue, inserted⟩
      obtain ⟨absent, room, -⟩ := insert_eq_ok_iff.1 inserted
      exact ⟨absent, room⟩
    · rintro ⟨absent, room⟩
      exact ⟨_, ⟨_⟩, insert_eq_ok_iff.2 ⟨absent, room, rfl, rfl⟩⟩
  case inserts =>
    intro timer expiry near
    rw [← inOrder.ahead_isEmpty_iff near]
    constructor
    · rintro ⟨queue, inserted⟩
      obtain ⟨absent, room, head, -⟩ := insert_eq_ok_iff.1 inserted
      exact ⟨absent, room, head.symm⟩
    · rintro ⟨absent, room, head⟩
      exact ⟨⟨_⟩, insert_eq_ok_iff.2 ⟨absent, room, head.symm, rfl⟩⟩
  case drains => exact fun now near => inOrder.drains near
  case anyOrder =>
    intro entries near apart distinct fresh fits
    refine ⟨⟨entries.foldl (byKey base) traced.queue.entries⟩, ?_, fun order perm => ?_⟩
    · exact foldl_byKey_perm base entries traced.queue.entries
    · have filled := inOrder.entries_run_queueing
        (fun entry (among : entry ∈ order) => near entry (perm.subset among))
        ((perm.map _).nodup_iff.2 distinct) (fun entry among => fresh entry (perm.subset among))
        (perm.length_eq ▸ fits)
      rw [foldl_byKey_eq_of_perm perm ((perm.map _).nodup_iff.2 apart)] at filled
      exact congrArg DeadlineQueue.mk filled

theorem stable_priority_across_wrap :
    let base : Ticks := 0xFFFFFFF0
    let operations : List Operation :=
      [.insert 0 16, .insert 1 0xFFFFFFF8, .insert 2 16, .popExpired 0xFFFFFFF8, .insert 3 4]
    (∀ operation ∈ operations, ∀ tick ∈ operation.tick?, Tick.key base tick < 2 ^ 31) ∧
      (({} : Traced 4).run operations).queue.entries = [⟨3, 4⟩, ⟨0, 16⟩, ⟨2, 16⟩] ∧
      IsStablePriorityQueue base (({} : Traced 4).run operations) := by
  intro base operations
  have near : ∀ operation ∈ operations, ∀ tick ∈ operation.tick?, Tick.key base tick < 2 ^ 31 := by
    simp only [operations, List.forall_mem_cons, Operation.tick?, Option.mem_some_iff, forall_eq']
    decide
  exact ⟨near, by decide, stable_priority base operations near⟩

/-- A full queue turns away even the earliest deadline, and then the order of two timers decides which of
them is in. -/
theorem full_turns_earliest_away :
    let traced := ({} : Traced 1).run [.insert 0 20]
    ¬((∃ queue, traced.queue.insert 1 10 = .ok (true, queue)) ↔
        ∀ entry ∈ traced.queue.entries, Tick.key 0 10 < Tick.key 0 entry.expiry) ∧
      (({} : Traced 1).run [.insert 0 20, .insert 1 10]).queue ≠
        (({} : Traced 1).run [.insert 1 10, .insert 0 20]).queue := by
  intro traced
  have earliest : ∀ entry ∈ traced.queue.entries, Tick.key 0 10 < Tick.key 0 entry.expiry := by decide
  have refused : traced.queue.insert 1 10 = .error .queueFull := rfl
  refine ⟨fun same => ?_, by decide⟩
  obtain ⟨queue, inserted⟩ := same.2 earliest
  cases refused.symm.trans inserted

end DeadlineQueue

end DeadlineTimers
