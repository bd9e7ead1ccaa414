import DeadlineTimers.Log.Logger
import Mathlib.Data.List.DropRight

/-!
# The newest lines

Whatever is written to a logger, handed out by it and changed about its filter, the ring holds the last
sixteen of the lines accepted since it was drained. An account that runs beside the logger remembers every
line. It tells by the level in force which lines are accepted, and by what the ring held before and after
which of them were given up. No line goes another way than out of a drain or over the edge of the ring.
-/

namespace DeadlineTimers.Log

/-! ## The end of a list -/

section Rtake

variable {α : Type} (lines : List α) (line : α) (count : Nat)

theorem length_rtake : (lines.rtake count).length = min count lines.length := by
  rw [List.rtake, List.length_drop]
  omega

/-- What falls off the front of the end of a list does not come back. -/
theorem rtake_rtake_append :
    (lines.rtake count ++ [line]).rtake count = (lines ++ [line]).rtake count := by
  simp only [List.rtake, ← List.drop_append_of_le_length (Nat.sub_le lines.length count),
    List.drop_drop]
  congr 1
  simp only [List.length_drop, List.length_append, List.length_singleton]
  omega

end Rtake

/-! ## The ring -/

/-- The lines that a ring gives up for another one: those that it holds no more afterwards. -/
def lost (before : Buffer) (line : String) (after : Buffer) : List String :=
  (before.lines ++ [line]).take (before.length + 1 - after.length)

namespace Buffer

variable {buffer : Buffer}

theorem lines_push (fits : buffer.length ≤ bufferCapacity) (line : String) :
    (buffer.push line).lines = (buffer.lines ++ [line]).rtake bufferCapacity := by
  have positive : 1 ≤ bufferCapacity := by decide
  rw [List.rtake, List.length_append, List.length_singleton, ← length]
  unfold push
  split_ifs with full
  · have one : buffer.length + 1 - bufferCapacity = 1 := by omega
    rw [one, List.drop_append_of_le_length (positive.trans full)]
  · have none : buffer.length + 1 - bufferCapacity = 0 := by omega
    rw [none, List.drop_zero]

/-- A line is given up from the front, and only when there is no room for all. -/
theorem lost_append_push (fits : buffer.length ≤ bufferCapacity) (line : String) :
    lost buffer line (buffer.push line) ++ (buffer.push line).lines = buffer.lines ++ [line] := by
  have kept := lines_push fits line
  have count : buffer.length + 1 - (buffer.push line).length =
      (buffer.lines ++ [line]).length - bufferCapacity := by
    rw [length, length, kept, length_rtake, List.length_append, List.length_singleton]
    omega
  rw [lost, count, kept, List.rtake, List.take_append_drop]

theorem dropped_push (fits : buffer.length ≤ bufferCapacity) (line : String) :
    (buffer.push line).dropped =
      buffer.dropped + UInt32.ofNat (lost buffer line (buffer.push line)).length := by
  have balance := congrArg List.length (lost_append_push fits line)
  rw [List.length_append, List.length_append, List.length_singleton, lines_push fits, length_rtake,
    List.length_append, List.length_singleton, ← length] at balance
  unfold push at balance ⊢
  split_ifs at balance ⊢ with full
  · have one : (lost buffer line ⟨buffer.lines.drop 1 ++ [line], buffer.dropped + 1⟩).length = 1 := by
      omega
    rw [one]
    rfl
  · have none : (lost buffer line ⟨buffer.lines ++ [line], buffer.dropped⟩).length = 0 := by omega
    rw [none]
    exact (UInt32.add_zero _).symm

end Buffer

/-! ## The account -/

/-- Place of a filter on the scale of levels, below all of them if it admits none. -/
def LevelFilter.detail : LevelFilter → Nat
  | .off => 0
  | .upTo most => most.detail

theorem admits_iff (filter : LevelFilter) (level : Level) :
    filter.admits level = true ↔ level.detail ≤ filter.detail := by
  cases filter with
  | off => cases level <;> simp [LevelFilter.admits, LevelFilter.detail, Level.detail]
  | upTo most => exact decide_eq_true_iff

/-- What can be done to a logger, or to its ring without asking the filter. -/
inductive LogOperation where
  | record (level : Level) (pieces : List String)
  | setFilter (filter : LevelFilter)
  | push (line : String)
  | pushRecord (level : Level) (pieces : List String)
  | drain

/-- A logger with the filter that was set last, all lines accepted so far and those of them that came
since the ring was drained, those handed out and those given up. -/
structure Account where
  logger : Logger
  inForce : LevelFilter
  accepted : List String := []
  recent : List String := []
  drained : List String := []
  evicted : List String := []

namespace Account

variable {account : Account}

def opened (filter : LevelFilter) : Account := { logger := { filter }, inForce := filter }

def accept (account : Account) (line : String) (logger : Logger) : Account :=
  { account with
    logger
    accepted := account.accepted ++ [line]
    recent := account.recent ++ [line]
    evicted := account.evicted ++ lost account.logger.buffer line logger.buffer }

def after (account : Account) : LogOperation → Account
  | .record level pieces =>
    let logger := account.logger.record level pieces
    if level.detail ≤ account.inForce.detail then account.accept (recordLine level pieces) logger
    else { account with logger }
  | .setFilter filter =>
    { account with logger := account.logger.setFilter filter, inForce := filter }
  | .push line =>
    account.accept line { account.logger with buffer := account.logger.buffer.push line }
  | .pushRecord level pieces =>
    account.accept (recordLine level pieces)
      { account.logger with buffer := account.logger.buffer.pushRecord level pieces }
  | .drain =>
    let (lines, logger) := account.logger.drain
    { account with logger, recent := [], drained := account.drained ++ lines }

def run (account : Account) (operations : List LogOperation) : Account := operations.foldl after account

structure Balanced (account : Account) : Prop where
  inForce : account.logger.filter = account.inForce
  newest : account.logger.buffer.lines = account.recent.rtake bufferCapacity
  accounted : (account.drained ++ account.evicted ++ account.logger.buffer.lines).Perm account.accepted
  counted : account.logger.buffer.dropped = UInt32.ofNat account.evicted.length

namespace Balanced

theorem opened (filter : LevelFilter) : (opened filter).Balanced := ⟨rfl, rfl, .refl _, rfl⟩

theorem length_eq (balanced : account.Balanced) :
    account.logger.buffer.length = min bufferCapacity account.recent.length := by
  rw [Buffer.length, balanced.newest, length_rtake]

theorem push (balanced : account.Balanced) (line : String) :
    (account.accept line
      { account.logger with buffer := account.logger.buffer.push line }).Balanced := by
  have fits : account.logger.buffer.length ≤ bufferCapacity :=
    balanced.length_eq.trans_le (Nat.min_le_left _ _)
  constructor
  case inForce => exact balanced.inForce
  case newest =>
    calc (account.logger.buffer.push line).lines
        = (account.recent.rtake bufferCapacity ++ [line]).rtake bufferCapacity := by
          rw [Buffer.lines_push fits, balanced.newest]
      _ = (account.recent ++ [line]).rtake bufferCapacity := rtake_rtake_append _ _ _
  case accounted =>
    have moved := Buffer.lost_append_push fits line
    simp only [accept, List.append_assoc, moved]
    simpa only [List.append_assoc] using balanced.accounted.append_right [line]
  case counted =>
    simp only [accept, List.length_append, UInt32.ofNat_add, ← balanced.counted]
    exact Buffer.dropped_push fits line

theorem after (balanced : account.Balanced) (operation : LogOperation) :
    (account.after operation).Balanced := by
  cases operation with
  | record level pieces =>
    have accepts : account.logger.accepts level = true ↔ level.detail ≤ account.inForce.detail := by
      rw [← admits_iff, ← balanced.inForce]
      rfl
    simp only [Account.after, Logger.record, accepts]
    split_ifs
    · exact balanced.push _
    · exact balanced
  | setFilter filter => exact ⟨rfl, balanced.newest, balanced.accounted, balanced.counted⟩
  | push line => exact balanced.push line
  | pushRecord level pieces => exact balanced.push _
  | drain =>
    refine ⟨balanced.inForce, rfl, ?_, balanced.counted⟩
    have swapped : (account.logger.buffer.lines ++ account.evicted).Perm
        (account.evicted ++ account.logger.buffer.lines) := List.perm_append_comm
    have accounted := balanced.accounted
    rw [List.append_assoc] at accounted
    simp only [Account.after, Logger.drain, Buffer.drain, List.append_nil, List.append_assoc]
    exact (swapped.append_left account.drained).trans accounted

theorem run (balanced : account.Balanced) (operations : List LogOperation) :
    (account.run operations).Balanced := by
  induction operations generalizing account with
  | nil => exact balanced
  | cons first rest ih => exact ih (balanced.after first)

end Balanced

end Account

/-- After any operations on a new logger its ring holds the last sixteen lines that were accepted since it
was drained, and a drain hands out just these and empties it. A record is accepted if its level is at or
below the one in force. Every line accepted has been handed out or given up or is still there, and the
logger has counted those given up. -/
theorem keeps_newest (filter : LevelFilter) (operations : List LogOperation) :
    let account := (Account.opened filter).run operations
    let ring := account.logger.buffer
    ring.lines = account.recent.rtake 16 ∧
      ring.length = min 16 account.recent.length ∧
      (∀ level, account.logger.accepts level = true ↔ level.detail ≤ account.inForce.detail) ∧
      account.logger.drain =
        (account.recent.rtake 16, { account.logger with buffer := ⟨[], ring.dropped⟩ }) ∧
      account.accepted.length = account.drained.length + account.evicted.length + ring.length ∧
      account.accepted.Perm (account.drained ++ account.evicted ++ ring.lines) ∧
      ring.dropped = UInt32.ofNat account.evicted.length := by
  intro account ring
  have balanced : account.Balanced := (Account.Balanced.opened filter).run operations
  refine ⟨balanced.newest, balanced.length_eq, fun level => ?_, ?_, ?_, balanced.accounted.symm,
    balanced.counted⟩
  · rw [← admits_iff, ← balanced.inForce]
    rfl
  · exact congrArg (·, { account.logger with buffer := ⟨[], ring.dropped⟩ }) balanced.newest
  · rw [← balanced.accounted.length_eq, List.length_append, List.length_append]
    rfl

/-- Only what the level in force admits is stored, and eighteen lines push two out. -/
example :
    let account := (Account.opened (.upTo .warn)).run
      (.record .info ["a"] :: .setFilter (.upTo .info) :: .record .info ["b"] ::
        List.replicate 17 (.record .error ["c"]))
    account.logger.buffer = ⟨List.replicate 16 "[ERROR] c", 2⟩ := by
  decide +kernel

end DeadlineTimers.Log
