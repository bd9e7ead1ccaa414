import DeadlineTimers.Proofs.Epochs
import DeadlineTimers.Proofs.Queues
import Mathlib.Data.List.TakeWhile

/-!
# The order of a queue

Wrapping differences order deadlines only if these lie within half a turn of each other. A queue of which
that was true whenever a timer went in is in order: deadlines ascend, and among equal ones the timer that
was started earlier goes first.
-/

namespace DeadlineTimers

/-- Within half a turn of a base, ticks are ordered by how far they lie from it. -/
theorem Tick.before_iff_of_window {base first second : Ticks} (near : (first - base).toNat < 2 ^ 31)
    (near' : (second - base).toNat < 2 ^ 31) :
    before first second = true ↔ (first - base).toNat < (second - base).toNat := by
  have bound := base.toNat_lt
  have firstBound := first.toNat_lt
  have secondBound := second.toNat_lt
  rw [UInt32.toNat_sub] at near near' ⊢
  rw [before_iff_toNat, UInt32.toNat_sub]
  omega

theorem Tick.reached_iff_of_window {base now expiry : Ticks} (near : (now - base).toNat < 2 ^ 31)
    (near' : (expiry - base).toNat < 2 ^ 31) :
    reached now expiry = true ↔ (expiry - base).toNat ≤ (now - base).toNat := by
  rw [reached_eq_not_before, Bool.not_eq_true', ← Bool.not_eq_true, before_iff_of_window near near',
    Nat.not_lt]

theorem Tick.sub_add_toNat {now ticks expiry : Ticks} (within : ticks.toNat ≤ (expiry - now).toNat) :
    (expiry - (now + ticks)).toNat = (expiry - now).toNat - ticks.toNat := by
  have nowBound := now.toNat_lt
  have expiryBound := expiry.toNat_lt
  rw [UInt32.toNat_sub] at within ⊢
  rw [UInt32.toNat_add, UInt32.toNat_sub]
  omega

theorem Tick.eq_add_one {now expiry : Ticks} (ahead : 0 < (expiry - now).toNat)
    (within : (expiry - now).toNat ≤ 1) : expiry = now + 1 := by
  have one : expiry - now = 1 := by
    apply UInt32.toNat_inj.1
    rw [UInt32.toNat_one]
    omega
  rw [← one, UInt32.add_comm, UInt32.sub_add_cancel]

namespace DeadlineQueue

variable {capacity : Nat} {queue queue' : DeadlineQueue capacity} {timer : TimerId}
  {expiry : Ticks} {isHead : Bool} {earlier earlier' : TimerId → TimerId → Prop}

def InWindow (queue : DeadlineQueue capacity) : Prop :=
  ∃ base : Ticks, ∀ entry ∈ queue.entries, (entry.expiry - base).toNat < 2 ^ 31

/-- One entry goes ahead of another: its deadline does not lie behind, and if the two are equal, its timer
is the earlier one. -/
structure GoesAhead (earlier : TimerId → TimerId → Prop) (first second : QueueEntry) : Prop where
  ascending : Tick.before second.expiry first.expiry = false
  ties : first.expiry = second.expiry → earlier first.timer second.timer

def Ranked (queue : DeadlineQueue capacity) (earlier : TimerId → TimerId → Prop) : Prop :=
  queue.entries.Pairwise (GoesAhead earlier)

theorem Ranked.of_sublist (ranked : queue.Ranked earlier)
    (fewer : queue'.entries.Sublist queue.entries)
    (kept : ∀ first ∈ queue'.entries, ∀ second ∈ queue'.entries,
      earlier first.timer second.timer → earlier' first.timer second.timer) :
    queue'.Ranked earlier' := by
  refine (List.Pairwise.sublist fewer ranked).imp_of_mem fun {first second} waits waits' ahead => ?_
  exact ⟨ahead.ascending, fun tie => kept first waits second waits' (ahead.ties tie)⟩

/-- If a test that fails for an entry fails for all behind it, what is left after the entries at the front
that pass it fails it. -/
theorem eq_false_of_mem_dropWhile {relation : QueueEntry → QueueEntry → Prop}
    {test : QueueEntry → Bool} {entries : List QueueEntry} (sorted : entries.Pairwise relation)
    (closed : ∀ first ∈ entries, ∀ second ∈ entries, relation first second → test second = true →
      test first = true) {entry : QueueEntry} (left : entry ∈ entries.dropWhile test) :
    test entry = false := by
  induction entries with
  | nil => cases left
  | cons head rest ih =>
    obtain ⟨first, sorted⟩ := List.pairwise_cons.1 sorted
    rw [List.dropWhile_cons] at left
    split at left
    · refine ih sorted (fun first waits second waits' => ?_) left
      exact closed first (List.mem_cons_of_mem _ waits) second (List.mem_cons_of_mem _ waits')
    · next stops =>
      rw [← Bool.not_eq_true]
      intro passes
      rcases List.mem_cons.1 left with rfl | later
      · exact stops passes
      · exact stops (closed head List.mem_cons_self entry left (first entry later) passes)

/-- A test that passes for all at the front and fails for all behind divides a list where these meet. -/
theorem filter_append_of_divides {test : QueueEntry → Bool} {front back : List QueueEntry}
    (passes : ∀ entry ∈ front, test entry = true) (fails : ∀ entry ∈ back, test entry = false) :
    (front ++ back).filter test = front ∧
      ((front ++ back).filter fun entry => !test entry) = back := by
  rw [List.filter_append, List.filter_append]
  constructor
  · rw [List.filter_eq_self.2 passes, List.filter_eq_nil_iff.2, List.append_nil]
    intro entry found
    rw [fails entry found]
    exact Bool.false_ne_true
  · rw [List.filter_eq_nil_iff.2, List.nil_append, List.filter_eq_self.2]
    · intro entry found
      rw [fails entry found]
      rfl
    · intro entry found
      rw [passes entry found]
      exact Bool.false_ne_true

section Window

variable {base now : Ticks} (ranked : queue.Ranked earlier)
  (inside : ∀ entry ∈ queue.entries, (entry.expiry - base).toNat < 2 ^ 31)

include ranked inside

/-- In a window everything that a deadline is put in front of lies strictly behind it. -/
theorem before_of_mem_behind (near : (expiry - base).toNat < 2 ^ 31) {entry : QueueEntry}
    (found : entry ∈ queue.behind expiry) : Tick.before expiry entry.expiry = true := by
  have stops := eq_false_of_mem_dropWhile ranked ?_ found
  · simpa using stops
  · intro first waits second waits' ahead stays
    have ascending := ahead.ascending
    rw [Bool.not_eq_true', ← Bool.not_eq_true,
      Tick.before_iff_of_window near (inside second waits')] at stays
    rw [← Bool.not_eq_true,
      Tick.before_iff_of_window (inside second waits') (inside first waits)] at ascending
    rw [Bool.not_eq_true', ← Bool.not_eq_true,
      Tick.before_iff_of_window near (inside first waits)]
    omega

/-- In a window, what is due is no further from the base than the tick, and what is left is further. -/
theorem Ranked.drainExpired_of_window (near : (now - base).toNat < 2 ^ 31) :
    (∀ entry ∈ (queue.drainExpired now).1, (entry.expiry - base).toNat ≤ (now - base).toNat) ∧
      ∀ entry ∈ (queue.drainExpired now).2.entries,
        (now - base).toNat < (entry.expiry - base).toNat := by
  have reached_iff {entry : QueueEntry} (waits : entry ∈ queue.entries) :=
    Tick.reached_iff_of_window near (inside entry waits)
  constructor
  · intro entry due
    simp only [drainExpired] at due
    have waits : entry ∈ queue.entries := (List.takeWhile_sublist _).subset due
    have reached := List.mem_takeWhile_imp due
    exact (reached_iff waits).1 reached
  · intro entry left
    have waits : entry ∈ queue.entries := (List.dropWhile_sublist _).subset left
    have ahead : Tick.reached now entry.expiry = false := by
      refine eq_false_of_mem_dropWhile ranked (fun first waits second waits' ahead => ?_) left
      have ascending := ahead.ascending
      rw [← Bool.not_eq_true,
        Tick.before_iff_of_window (inside second waits') (inside first waits)] at ascending
      rw [reached_iff waits, reached_iff waits']
      omega
    rw [← Bool.not_eq_true, reached_iff waits] at ahead
    omega

/-- In a window, draining takes exactly the deadlines that the tick has reached. -/
theorem Ranked.drainExpired_eq_filter (near : (now - base).toNat < 2 ^ 31) :
    (queue.drainExpired now).1 = queue.entries.filter (fun entry => Tick.reached now entry.expiry) ∧
      (queue.drainExpired now).2.entries =
        queue.entries.filter fun entry => !Tick.reached now entry.expiry := by
  obtain ⟨within, beyond⟩ := ranked.drainExpired_of_window inside near
  have split := queue.drainExpired_append now
  have due : ∀ entry ∈ (queue.drainExpired now).1, Tick.reached now entry.expiry = true := by
    intro entry found
    have waits : entry ∈ queue.entries := split ▸ List.mem_append_left _ found
    exact (Tick.reached_iff_of_window near (inside entry waits)).2 (within entry found)
  have ahead : ∀ entry ∈ (queue.drainExpired now).2.entries,
      Tick.reached now entry.expiry = false := by
    intro entry found
    have waits : entry ∈ queue.entries := split ▸ List.mem_append_right _ found
    have beyond := beyond entry found
    rw [← Bool.not_eq_true, Tick.reached_iff_of_window near (inside entry waits)]
    omega
  obtain ⟨taken, left⟩ := filter_append_of_divides due ahead
  rw [split] at taken left
  exact ⟨taken.symm, left.symm⟩

end Window

/-- Queueing the latest timer keeps the entries ranked, as long as all deadlines lie in a window. -/
theorem Ranked.insert (ranked : queue.Ranked earlier)
    (inserted : queue.insert timer expiry = .ok (isHead, queue')) (window : queue'.InWindow)
    (latest : ∀ entry ∈ queue.entries, earlier entry.timer timer) : queue'.Ranked earlier := by
  obtain ⟨base, inside⟩ := window
  have near := inside _ ((mem_insert_iff inserted).2 (.inl rfl))
  have inside' := fun entry waits => inside entry (mem_insert inserted waits)
  have behind {entry : QueueEntry} (found : entry ∈ queue.behind expiry) :
      Tick.before expiry entry.expiry = true := before_of_mem_behind ranked inside' near found
  have split := queue.ahead_append_behind expiry
  obtain ⟨-, -, -, entries⟩ := insert_eq_ok_iff.1 inserted
  rw [Ranked, ← split, List.pairwise_append] at ranked
  obtain ⟨first, last, across⟩ := ranked
  rw [Ranked, entries, List.pairwise_append]
  refine ⟨first, List.pairwise_cons.2 ⟨fun entry found => ?_, last⟩, fun entry found other => ?_⟩
  · have later := behind found
    have waits : entry ∈ queue.entries := split ▸ List.mem_append_right _ found
    rw [Tick.before_iff_of_window near (inside' entry waits)] at later
    constructor
    · rw [← Bool.not_eq_true, Tick.before_iff_of_window (inside' entry waits) near]
      omega
    · intro same
      change expiry = entry.expiry at same
      rw [same] at later
      exact absurd later (lt_irrefl _)
  · intro among
    rcases List.mem_cons.1 among with rfl | among
    · have stays := List.mem_takeWhile_imp found
      have waits : entry ∈ queue.entries := split ▸ List.mem_append_left _ found
      exact ⟨by simpa using stays, fun _ => latest entry waits⟩
    · exact across entry found other among

/-! ## Ticks that go by -/

/-- While a number of ticks go by, exactly some entries at the front fall due. -/
structure FallsDue (queue : DeadlineQueue capacity) (now : Ticks) (elapsed : Nat)
    (due : List QueueEntry) (left : DeadlineQueue capacity) : Prop where
  split : queue.entries = due ++ left.entries
  within : ∀ entry ∈ due, (entry.expiry - now).toNat ≤ elapsed
  beyond : ∀ entry ∈ left.entries, elapsed < (entry.expiry - now).toNat

namespace FallsDue

variable {now : Ticks} {elapsed elapsed' : Nat} {due due' : List QueueEntry}
  {left left' : DeadlineQueue capacity}

theorem trans (first : queue.FallsDue now elapsed due left)
    (second : left.FallsDue (now + UInt32.ofNat elapsed) elapsed' due' left')
    (short : elapsed + elapsed' < 2 ^ 32) :
    queue.FallsDue now (elapsed + elapsed') (due ++ due') left' := by
  have whole : (UInt32.ofNat elapsed).toNat = elapsed :=
    UInt32.toNat_ofNat_of_lt' (Nat.lt_of_le_of_lt (Nat.le_add_right _ _) short)
  have further {entry : QueueEntry} (waits : entry ∈ left.entries) :
      (entry.expiry - (now + UInt32.ofNat elapsed)).toNat + elapsed =
        (entry.expiry - now).toNat := by
    have beyond := first.beyond entry waits
    rw [Tick.sub_add_toNat (by omega), whole]
    omega
  constructor
  · rw [first.split, second.split, List.append_assoc]
  · intro entry among
    rcases List.mem_append.1 among with early | late
    · have within := first.within entry early
      omega
    · have within := second.within entry late
      have further := further (second.split ▸ List.mem_append_left _ late)
      omega
  · intro entry waits
    have beyond := second.beyond entry waits
    have further := further (second.split ▸ List.mem_append_right _ waits)
    omega

theorem length_le (falls : queue.FallsDue now elapsed due left) : left.length ≤ queue.length := by
  have lengths := congrArg List.length falls.split
  rw [List.length_append] at lengths
  change left.entries.length ≤ queue.entries.length
  omega

/-- What falls due, without reference to how it was taken. -/
theorem filters (falls : queue.FallsDue now elapsed due left) :
    let isDue (entry : QueueEntry) : Bool := (entry.expiry - now).toNat ≤ elapsed
    queue.entries.filter isDue = due ∧
      (queue.entries.filter fun entry => !isDue entry) = left.entries := by
  intro isDue
  have within : ∀ entry ∈ due, isDue entry = true := fun entry among =>
    decide_eq_true (falls.within entry among)
  have beyond : ∀ entry ∈ left.entries, isDue entry = false := fun entry waits =>
    decide_eq_false (Nat.not_le.2 (falls.beyond entry waits))
  rw [falls.split]
  exact filter_append_of_divides within beyond

end FallsDue

/-- A draining by a later tick takes what has fallen due by then. -/
theorem Ranked.fallsDue {now ticks : Ticks} (ranked : queue.Ranked earlier)
    (near : ∀ entry ∈ queue.entries, (entry.expiry - now).toNat < 2 ^ 31)
    (short : ticks.toNat < 2 ^ 31) :
    queue.FallsDue now ticks.toNat (queue.drainExpired (now + ticks)).1
      (queue.drainExpired (now + ticks)).2 := by
  have elapsed : now + ticks - now = ticks := by
    rw [UInt32.add_comm, UInt32.add_sub_cancel]
  obtain ⟨within, beyond⟩ :=
    ranked.drainExpired_of_window near (show (now + ticks - now).toNat < 2 ^ 31 by rwa [elapsed])
  rw [elapsed] at within beyond
  exact ⟨(queue.drainExpired_append _).symm, within, beyond⟩

end DeadlineQueue

end DeadlineTimers
