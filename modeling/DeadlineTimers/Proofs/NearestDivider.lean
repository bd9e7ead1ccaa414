import DeadlineTimers.Prescaler
import Mathlib.Data.Nat.Log
import Mathlib.Data.Nat.Cast.Order.Ring
import Mathlib.Tactic.Ring

/-!
# How near the divider comes to the request

The prescaler compares powers of two with the quotient of source and request after its fraction is cut off.
Where the quotient falls halfway between two powers, the fraction decides which of them is nearer, and the
selection no longer has it: the lower power is taken although the higher one is nearer. Everywhere else
the selected divider is the nearest one, and it is never off by two requests more than another.
-/

namespace DeadlineTimers.Prescaler

variable {source request divisor exponent steps target k : Nat} {prescaler : Prescaler}

/-! ## The exponent of a whole divisor -/

/-- The search ends at the first exponent whose power is large enough. -/
theorem ceilExponent_eq (from_le : exponent ≤ target) (le_last : target ≤ exponent + steps)
    (enough : divisor ≤ 2 ^ target) (least : ∀ lower < target, 2 ^ lower < divisor) :
    ceilExponent divisor exponent steps = target := by
  induction steps generalizing exponent with
  | zero => exact Nat.le_antisymm from_le le_last
  | succ steps ih =>
    rw [ceilExponent, Nat.one_shiftLeft]
    by_cases here : exponent = target
    · rw [here, if_pos enough]
    · have short : ¬divisor ≤ 2 ^ exponent := Nat.not_le.2 (least exponent (by omega))
      rw [if_neg short]
      exact ih (by omega) (by omega)

/-- Of the two powers around a whole divisor the nearer one is taken, and the lower one if both are
equally near. -/
theorem nearestExponent_eq (lower : 2 ^ k ≤ divisor) (upper : divisor < 2 ^ (k + 1))
    (within : divisor ≤ 2 ^ maxPrescalerExponent) :
    nearestExponent divisor = if 2 * divisor ≤ 3 * 2 ^ k then k else k + 1 := by
  have smaller {low : Nat} (less : low < k) : 2 * 2 ^ low ≤ 2 ^ k := by
    rw [← Nat.pow_succ']
    exact Nat.pow_le_pow_right (by decide) less
  have positive (low : Nat) : 0 < 2 ^ low := Nat.two_pow_pos low
  have double : 2 ^ (k + 1) = 2 * 2 ^ k := Nat.pow_succ'
  simp only [nearestExponent, Nat.one_shiftLeft]
  by_cases one : divisor ≤ 1
  · have zero : k = 0 := by
      by_contra nonzero
      have := smaller (Nat.pos_of_ne_zero nonzero)
      omega
    subst zero
    rw [if_pos one, if_pos (by omega)]
  rw [if_neg one]
  rcases lower.eq_or_lt with exact | above
  · -- A power of two is its own upper one, and the lower one is further away.
    have last : k ≤ maxPrescalerExponent := (Nat.pow_le_pow_iff_right (by decide)).1 (exact ▸ within)
    have nonzero : k ≠ 0 := by
      rintro rfl
      omega
    have found : ceilExponent divisor 1 (maxPrescalerExponent - 1) = k := by
      refine ceilExponent_eq (Nat.pos_of_ne_zero nonzero) last exact.ge fun low less => ?_
      have := smaller less
      have := positive low
      omega
    have below := smaller (Nat.sub_lt (Nat.pos_of_ne_zero nonzero) Nat.one_pos)
    have := positive (k - 1)
    rw [found, if_neg (by omega), if_pos (by omega)]
  · have last : k < maxPrescalerExponent :=
      (Nat.pow_lt_pow_iff_right (by decide)).1 (above.trans_le within)
    have found : ceilExponent divisor 1 (maxPrescalerExponent - 1) = k + 1 := by
      refine ceilExponent_eq (Nat.le_add_left 1 k) last upper.le fun low less => ?_
      rcases Nat.lt_succ_iff_lt_or_eq.1 less with less | rfl
      · have := smaller less
        omega
      · exact above
    rw [found, Nat.add_sub_cancel]
    exact if_congr (by omega) rfl rfl

/-! ## The ideal divider -/

/-- By how much the source is missed when the request is multiplied by a divider. It is zero for the ideal
divider. -/
def distance (source request exponent : Nat) : Nat :=
  ((2 ^ exponent * request : Nat) - source : Int).natAbs

/-- What a successful selection went through. -/
theorem select_eq_ok (selected : select source request = .ok prescaler) :
    0 < request ∧ 0 < source / request ∧ source / request ≤ 2 ^ maxPrescalerExponent ∧
      prescaler.exponent = nearestExponent (source / request) := by
  simp only [select, Nat.one_shiftLeft] at selected
  split_ifs at selected with zero tooHigh tooLow nothing
  obtain rfl := Except.ok.inj selected
  exact ⟨Nat.pos_of_ne_zero zero, Nat.pos_of_ne_zero tooHigh, Nat.not_lt.1 tooLow, rfl⟩

/-- Around the source no multiple of the request by a power of two is nearer than the two next to it. -/
theorem le_distance (lower : 2 ^ k * request ≤ source) (upper : source ≤ 2 ^ (k + 1) * request)
    (other : Nat) :
    other ≤ k ∧ distance source request k ≤ distance source request other ∨
      k < other ∧ distance source request (k + 1) ≤ distance source request other := by
  rcases Nat.lt_or_ge k other with above | below
  · have further : 2 ^ (k + 1) * request ≤ 2 ^ other * request :=
      Nat.mul_le_mul_right _ (Nat.pow_le_pow_right (by decide) above)
    refine .inr ⟨above, ?_⟩
    rw [distance, distance]
    omega
  · have further : 2 ^ other * request ≤ 2 ^ k * request :=
      Nat.mul_le_mul_right _ (Nat.pow_le_pow_right (by decide) below)
    refine .inl ⟨below, ?_⟩
    rw [distance, distance]
    omega

theorem distance_le_succ_iff (lower : 2 ^ k * request ≤ source) (upper : source ≤ 2 ^ (k + 1) * request) :
    distance source request k ≤ distance source request (k + 1) ↔
      2 * source ≤ 3 * 2 ^ k * request := by
  rw [Nat.pow_succ', Nat.mul_assoc] at upper
  rw [distance, distance, Nat.pow_succ', Nat.mul_assoc, Nat.mul_assoc]
  omega

theorem succ_distance_le_iff (lower : 2 ^ k * request ≤ source) (upper : source ≤ 2 ^ (k + 1) * request) :
    distance source request (k + 1) ≤ distance source request k ↔
      3 * 2 ^ k * request ≤ 2 * source := by
  rw [Nat.pow_succ', Nat.mul_assoc] at upper
  rw [distance, distance, Nat.pow_succ', Nat.mul_assoc, Nat.mul_assoc]
  omega

/-- The powers that the quotient lies between, and which of them is selected. -/
theorem select_between (selected : select source request = .ok prescaler) :
    ∃ k, 2 ^ k ≤ source / request ∧ source / request < 2 ^ (k + 1) ∧
      2 ^ k * request ≤ source ∧ source ≤ 2 ^ (k + 1) * request ∧
      (prescaler.exponent = k ∧ 2 * (source / request) ≤ 3 * 2 ^ k ∨
        prescaler.exponent = k + 1 ∧ 3 * 2 ^ k < 2 * (source / request)) := by
  obtain ⟨positive, nonzero, within, chosen⟩ := select_eq_ok selected
  have low := Nat.pow_log_le_self 2 nonzero.ne'
  have high := Nat.lt_pow_succ_log_self Nat.one_lt_two (source / request)
  generalize Nat.log 2 (source / request) = k at low high
  rw [nearestExponent_eq low high within] at chosen
  refine ⟨k, low, high, (Nat.le_div_iff_mul_le positive).1 low,
    ((Nat.div_lt_iff_lt_mul positive).1 high).le, ?_⟩
  split_ifs at chosen with lower
  · exact .inl ⟨chosen, lower⟩
  · exact .inr ⟨chosen, Nat.not_le.1 lower⟩

/-- A quotient past the middle between two powers has the upper one as its nearest. -/
theorem le_distance_succ (lower : 2 ^ k * request ≤ source) (upper : source ≤ 2 ^ (k + 1) * request)
    (past : 3 * 2 ^ k < 2 * (source / request)) (other : Nat) :
    distance source request (k + 1) ≤ distance source request other := by
  have middle : 3 * 2 ^ k * request ≤ 2 * source :=
    calc 3 * 2 ^ k * request ≤ 2 * (source / request) * request := Nat.mul_le_mul_right _ past.le
      _ = 2 * (source / request * request) := Nat.mul_assoc _ _ _
      _ ≤ 2 * source := Nat.mul_le_mul_left _ (Nat.div_mul_le_self source request)
  rcases le_distance lower upper other with ⟨-, nearer⟩ | ⟨-, nearer⟩
  · exact ((succ_distance_le_iff lower upper).2 middle).trans nearer
  · exact nearer

/-- The divider that is selected is the nearest to the ideal one, unless the ideal one lies past the middle
between two powers and the whole quotient does not. -/
theorem nearest_iff (selected : select source request = .ok prescaler) :
    (∀ other ≤ maxPrescalerExponent,
        distance source request prescaler.exponent ≤ distance source request other) ↔
      ¬∃ k < maxPrescalerExponent,
        source / request = 3 * 2 ^ k / 2 ∧ 3 * 2 ^ k * request < 2 * source := by
  obtain ⟨k, low, high, lower, upper, chosen⟩ := select_between selected
  have next : 2 ^ (k + 1) = 2 * 2 ^ k := Nat.pow_succ'
  -- Three halves of a power lie between it and the next, so there is only one place for the exception.
  have place {j : Nat} (quotient : source / request = 3 * 2 ^ j / 2) : j = k := by
    have := Nat.two_pow_pos j
    have same := Nat.log_eq_of_pow_le_of_lt_pow low high
    rw [← same, quotient]
    refine (Nat.log_eq_of_pow_le_of_lt_pow (by omega) ?_).symm
    rw [Nat.pow_succ']
    omega
  rcases chosen with ⟨chosen, before⟩ | ⟨chosen, past⟩
  · rw [chosen]
    constructor
    · rintro nearest ⟨j, last, quotient, past⟩
      obtain rfl := place quotient
      have := (distance_le_succ_iff lower upper).1 (nearest (j + 1) last)
      omega
    · intro noException other last
      rcases le_distance lower upper other with ⟨-, nearer⟩ | ⟨above, nearer⟩
      · exact nearer
      · refine le_trans ((distance_le_succ_iff lower upper).2 ?_) nearer
        by_contra past
        refine noException ⟨k, above.trans_le last, Nat.le_antisymm (by omega) ?_, Nat.not_le.1 past⟩
        have half : 2 * (3 * 2 ^ k / 2 * request) ≤ 3 * 2 ^ k * request := by
          rw [← Nat.mul_assoc]
          exact Nat.mul_le_mul_right _ (Nat.mul_div_le _ 2)
        rw [Nat.le_div_iff_mul_le (select_eq_ok selected).1]
        omega
  · rw [chosen]
    constructor
    · rintro - ⟨j, -, quotient, -⟩
      obtain rfl := place quotient
      omega
    · exact fun _ other _ => le_distance_succ lower upper past other

theorem nearest_100_kHz :
    select 16000000 100000 = .ok ⟨7, 125000⟩ ∧
      ∀ other ≤ maxPrescalerExponent, distance 16000000 100000 7 ≤ distance 16000000 100000 other := by
  have selected : select 16000000 100000 = .ok ⟨7, 125000⟩ := rfl
  refine ⟨selected, (nearest_iff selected).2 ?_⟩
  decide

/-- A source of 16 MHz is not divided at all for 9 MHz, although half of it is nearer. -/
theorem not_nearest_9_MHz :
    select 16000000 9000000 = .ok ⟨0, 16000000⟩ ∧
      distance 16000000 9000000 1 < distance 16000000 9000000 0 := by
  decide

/-- Where the selected divider is not the nearest, it is worse by less than two requests: so much the
fraction that was cut off can make out. -/
theorem distance_lt (selected : select source request = .ok prescaler) (other : Nat) :
    distance source request prescaler.exponent < distance source request other + 2 * request := by
  have positive := (select_eq_ok selected).1
  obtain ⟨k, -, -, lower, upper, chosen⟩ := select_between selected
  rcases chosen with ⟨chosen, before⟩ | ⟨chosen, past⟩
  · have fraction := Nat.lt_div_mul_add positive (a := source)
    have middle : 2 * (source / request * request) ≤ 3 * 2 ^ k * request := by
      rw [← Nat.mul_assoc]
      exact Nat.mul_le_mul_right _ before
    have next : distance source request k < distance source request (k + 1) + 2 * request := by
      rw [Nat.pow_succ', Nat.mul_assoc] at upper
      rw [Nat.mul_assoc] at middle
      rw [distance, distance, Nat.pow_succ', Nat.mul_assoc]
      omega
    rw [chosen]
    rcases le_distance lower upper other with ⟨-, nearer⟩ | ⟨-, nearer⟩
    · omega
    · omega
  · have nearest := le_distance_succ lower upper past other
    rw [chosen]
    omega

end DeadlineTimers.Prescaler
