/-!
# Counter widths

A hardware counter holds 8, 16, 24 or 32 bits. A counter with fewer than 32 bits is narrow: it
supplies the low bits of the tick, and software supplies the rest by counting how often the
counter wrapped. One round of the counter is an epoch.
-/

namespace DeadlineTimers

/-- The sizes a hardware counter can be set to. -/
inductive CounterWidth where
  | bits8
  | bits16
  | bits24
  | bits32
  deriving DecidableEq, Inhabited

namespace CounterWidth

def bits : CounterWidth → Nat
  | bits8 => 8
  | bits16 => 16
  | bits24 => 24
  | bits32 => 32

def ofBits? : Nat → Option CounterWidth
  | 8 => some bits8
  | 16 => some bits16
  | 24 => some bits24
  | 32 => some bits32
  | _ => none

/-- A narrow counter needs its wraps counted in software. -/
def isNarrow : CounterWidth → Bool
  | bits32 => false
  | _ => true

/-- Number of states of the counter, the ticks in one epoch. -/
def states (width : CounterWidth) : Nat := 1 <<< width.bits

/-- The tick bits that the counter supplies. -/
def counterMask : CounterWidth → UInt32
  | bits8 => 0xFF
  | bits16 => 0xFFFF
  | bits24 => 0xFFFFFF
  | bits32 => 0xFFFFFFFF

/-- The tick bits that the overflow tally supplies. -/
def epochMask (width : CounterWidth) : UInt32 := ~~~width.counterMask

/-- Ticks that one overflow adds to the tally: zero for a 32-bit counter, which needs no tally. -/
def epochSpan (width : CounterWidth) : UInt32 := width.counterMask + 1

@[simp] theorem ofBits?_bits (width : CounterWidth) : ofBits? width.bits = some width := by
  cases width <;> rfl

theorem counterMask_toNat (width : CounterWidth) : width.counterMask.toNat = width.states - 1 := by
  cases width <;> decide

theorem states_pos (width : CounterWidth) : 0 < width.states := by
  cases width <;> decide

/-- Masking a word with the counter's mask is taking it modulo the states of the counter. -/
theorem and_counterMask_toNat (width : CounterWidth) (word : UInt32) :
    (word &&& width.counterMask).toNat = word.toNat % width.states := by
  rw [UInt32.toNat_and, counterMask_toNat, states, Nat.one_shiftLeft,
    Nat.and_two_pow_sub_one_eq_mod]

/-- A word splits into its epoch and its place in the epoch. -/
theorem epochMask_or_counterMask (width : CounterWidth) (word : UInt32) :
    (word &&& width.epochMask) ||| (word &&& width.counterMask) = word := by
  apply UInt32.toBitVec_inj.1
  ext bit inside
  simp [epochMask]
  cases word.toBitVec[bit] <;> simp

end CounterWidth

end DeadlineTimers
