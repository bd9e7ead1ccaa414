import DeadlineTimers.Proofs.NearestDivider

/-!
# What the prescaler selects

The selection searches for the first power of two at or above the quotient of source and request, and then
steps down if the power below is at least as near. That is the nearest of all the powers of the prescaler,
and the lower one of two equally near ones. On the way no difference is taken of a number and a greater one,
and no power exceeds the largest divider.
-/

namespace DeadlineTimers.Prescaler

variable {source request divisor exponent target : Nat}

/-- The power of two with this exponent is the nearest to a whole divisor among those of the prescaler, and
it is the lowest of the nearest. -/
structure Nearest (divisor exponent : Nat) : Prop where
  le_max : exponent ≤ maxPrescalerExponent
  le_distance : ∀ other ≤ maxPrescalerExponent, distance divisor 1 exponent ≤ distance divisor 1 other
  lowest : ∀ other < exponent, distance divisor 1 exponent < distance divisor 1 other

theorem nearest_nearestExponent (positive : 0 < divisor) (within : divisor ≤ 2 ^ maxPrescalerExponent) :
    Nearest divisor (nearestExponent divisor) := by
  have low := Nat.pow_log_le_self 2 positive.ne'
  have high := Nat.lt_pow_succ_log_self Nat.one_lt_two divisor
  generalize Nat.log 2 divisor = k at low high
  rw [nearestExponent_eq low high within]
  have lower : 2 ^ k * 1 ≤ divisor := by rwa [Nat.mul_one]
  have upper : divisor ≤ 2 ^ (k + 1) * 1 := by
    rw [Nat.mul_one]
    exact high.le
  have next : 2 ^ (k + 1) = 2 * 2 ^ k := Nat.pow_succ'
  split_ifs with before
  · have nearer : distance divisor 1 k ≤ distance divisor 1 (k + 1) :=
      (distance_le_succ_iff lower upper).2 (by rwa [Nat.mul_one])
    refine ⟨(Nat.pow_le_pow_iff_right (by decide)).1 (low.trans within), fun other _ => ?_, ?_⟩
    · rcases le_distance lower upper other with ⟨-, near⟩ | ⟨-, near⟩
      · exact near
      · exact nearer.trans near
    · intro other less
      have smaller : 2 ^ other < 2 ^ k := Nat.pow_lt_pow_right (by decide) less
      rw [distance, distance]
      omega
  · have nearer : distance divisor 1 (k + 1) < distance divisor 1 k := by
      rw [← Nat.not_le, distance_le_succ_iff lower upper, Nat.mul_one]
      exact before
    have past : 2 ^ k < 2 ^ maxPrescalerExponent := by omega
    refine ⟨(Nat.pow_lt_pow_iff_right (by decide)).1 past, fun other _ => ?_, ?_⟩
    · rcases le_distance lower upper other with ⟨-, near⟩ | ⟨-, near⟩
      · exact nearer.le.trans near
      · exact near
    · intro other less
      rcases le_distance lower upper other with ⟨-, near⟩ | ⟨above, -⟩
      · exact nearer.trans_le near
      · omega

/-- No other exponent is the lowest of the nearest. -/
theorem Nearest.unique {other : Nat} (nearest : Nearest divisor exponent)
    (nearest' : Nearest divisor other) : exponent = other := by
  rcases Nat.lt_trichotomy exponent other with less | same | less
  · exact absurd (nearest'.lowest exponent less) (nearest.le_distance other nearest'.le_max).not_gt
  · exact same
  · exact absurd (nearest.lowest other less) (nearest'.le_distance exponent nearest.le_max).not_gt

/-- The search finds the powers that a divisor above one lies between. -/
theorem ceilExponent_between (above : 1 < divisor) (within : divisor ≤ 2 ^ maxPrescalerExponent) :
    let upper := ceilExponent divisor 1 (maxPrescalerExponent - 1)
    1 ≤ upper ∧ upper ≤ maxPrescalerExponent ∧ 2 ^ (upper - 1) ≤ divisor ∧
      divisor ≤ 2 ^ upper := by
  have enough := Nat.le_pow_clog Nat.one_lt_two divisor
  have positive := Nat.clog_pos Nat.one_lt_two above
  have last : Nat.clog 2 divisor ≤ maxPrescalerExponent := Nat.clog_le_of_le_pow within
  have least (lower : Nat) (less : lower < Nat.clog 2 divisor) : 2 ^ lower < divisor :=
    Nat.lt_clog_iff_pow_lt Nat.one_lt_two |>.1 less
  have found : ceilExponent divisor 1 (maxPrescalerExponent - 1) = Nat.clog 2 divisor :=
    ceilExponent_eq positive last enough least
  rw [found]
  exact ⟨positive, last, (least _ (Nat.sub_lt positive Nat.one_pos)).le, enough⟩

/-- What is asked of the selection for a source and a request. -/
structure Specified (source request : Nat) : Prop where
  zero : request = 0 → select source request = .error (.invalid .frequencyTooLow)
  tooHigh : request ≠ 0 → source / request = 0 →
    select source request = .error (.invalid .frequencyTooHigh)
  tooLow : request ≠ 0 → 2 ^ maxPrescalerExponent < source / request →
    select source request = .error (.invalid .frequencyTooLow)
  nearest : request ≠ 0 → source / request ≠ 0 → source / request ≤ 2 ^ maxPrescalerExponent →
    ∃ exponent, Nearest (source / request) exponent ∧
      (∀ other, Nearest (source / request) other → other = exponent) ∧
      select source request =
        if source >>> exponent = 0 then .error (.invalid .frequencyTooLow)
        else .ok ⟨exponent, source >>> exponent⟩
  /-- The differences that are compared are differences of numbers and smaller ones. -/
  differences : 1 < source / request → source / request ≤ 2 ^ maxPrescalerExponent →
    let upper := ceilExponent (source / request) 1 (maxPrescalerExponent - 1)
    1 ≤ upper ∧ upper ≤ maxPrescalerExponent ∧ 2 ^ (upper - 1) ≤ source / request ∧
      source / request ≤ 2 ^ upper

theorem specified (source request : Nat) : Specified source request where
  zero none := by rw [select, if_pos none]
  tooHigh some none := by rw [select, if_neg some, if_pos none]
  tooLow some beyond := by
    have nonzero : source / request ≠ 0 := (Nat.zero_lt_of_lt beyond).ne'
    rw [select, if_neg some, if_neg nonzero, Nat.one_shiftLeft, if_pos beyond]
  nearest some nonzero within := by
    have nearest := nearest_nearestExponent (Nat.pos_of_ne_zero nonzero) within
    refine ⟨_, nearest, fun other nearest' => nearest'.unique nearest, ?_⟩
    rw [select, if_neg some, if_neg nonzero, Nat.one_shiftLeft, if_neg (Nat.not_lt.2 within)]
  differences := ceilExponent_between

/-- A successful selection divides the source by its power, to a frequency above zero. -/
theorem frequency_of_select {prescaler : Prescaler} (selected : select source request = .ok prescaler) :
    prescaler.exponent ≤ maxPrescalerExponent ∧
      prescaler.frequency = source >>> prescaler.exponent ∧ 0 < prescaler.frequency := by
  obtain ⟨-, positive, within, chosen⟩ := select_eq_ok selected
  have nearest := nearest_nearestExponent positive within
  simp only [select] at selected
  split_ifs at selected with _ _ _ nothing
  obtain rfl := Except.ok.inj selected
  exact ⟨nearest.le_max, rfl, Nat.pos_of_ne_zero nothing⟩

end DeadlineTimers.Prescaler
