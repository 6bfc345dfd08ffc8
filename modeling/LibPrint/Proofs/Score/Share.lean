import LibPrint.Proofs.Score.Rounding

/-!
# Shares of small counts

A count below 2 ^ 24 is a score itself, so a share of such counts is rounded only once. The scores
below one half lie so close that a share of fewer than half of them cannot be rounded up to it, and
those below one so close that a share of less than everything cannot. Nothing but no share at all is
rounded to zero, so the three values of a share that matter are told exactly.
-/

namespace LibPrint.Score

variable {count total : Nat}

/-! ## Small counts -/

/-- A small count is far from being rounded to infinity. -/
theorem finite_ofNat {number : Nat} (small : number < 2 ^ 24) :
    (ofNat number).magnitude ≠ infinite := by
  have top := log2_le_of_lt small
  have raised : number * twoTo (min 149 (23 - number.log2)) ≤ 2 ^ 24 := by
    by_cases occupied : number = 0
    · subst occupied
      rw [Nat.zero_mul]
      exact Nat.zero_le _
    · have raise : min 149 (23 - number.log2) = 23 - number.log2 := by omega
      have power : 2 ^ 24 = 2 ^ (number.log2 + 1) * 2 ^ (23 - number.log2) := by
        rw [← Nat.pow_add]
        congr 1
        omega
      rw [raise, twoTo_eq, power]
      exact Nat.mul_le_mul_right _ (Nat.le_of_lt Nat.lt_log2_self)
  have bound : infinite = 255 * 2 ^ 23 := by decide
  rw [ofNat, magnitude_ofSign false (nearestScaled_le _ _), nearestScaled]
  simp only [if_pos top, twoTo_eq] at raised ⊢
  split
  · decide
  · omega

/-- A small count is not rounded. -/
theorem units_ofNat_of_small {number : Nat} (small : number < 2 ^ 24) :
    units (ofNat number).magnitude = number * 2 ^ 149 := by
  by_cases occupied : number = 0
  · subst occupied
    decide
  · rw [units_ofNat occupied (finite_ofNat small), rounded_of_small (log2_le_of_lt small)]

theorem magnitude_ofNat_eq_zero_iff {number : Nat} (small : number < 2 ^ 24) :
    (ofNat number).magnitude = 0 ↔ number = 0 := by
  constructor
  · intro zero
    have units := units_ofNat_of_small small
    rw [zero] at units
    have none : Score.units 0 = 0 := by decide
    omega
  · rintro rfl
    decide

/-- A share of small counts is the quotient rounded once. -/
theorem ratio_of_small (countSmall : count < 2 ^ 24) (totalSmall : total < 2 ^ 24)
    (occupied : total ≠ 0) :
    ratio count total = ofSign false (nearest (count * 2 ^ 149) total) := by
  have finiteCount := finite_ofNat countSmall
  have finiteTotal := finite_ofNat totalSmall
  have nonzero := (magnitude_ofNat_eq_zero_iff totalSmall).not.mpr occupied
  rw [ratio, div]
  simp only [isNaN_ofNat, isNegative_ofNat, Bool.or_self, Bool.false_eq_true, if_false,
    bne_self_eq_false, if_neg finiteCount, if_neg finiteTotal, if_neg nonzero,
    units_ofNat_of_small countSmall, units_ofNat_of_small totalSmall]
  rw [twoTo_eq, nearest_mul_right (Nat.two_pow_pos 149)]

/-! ## Less than half -/

/-- Less than half of a small total is rounded to less than one half. -/
theorem nearest_lt_half (small : total < 2 ^ 24) (less : 2 * count < total) :
    nearest (count * 2 ^ 149) total < 126 * 2 ^ 23 := by
  have positive : 0 < total := by omega
  -- Right below one half the scores are 2 ^ -25 apart, which is less than what is missing.
  have missing : count * 2 ^ 149 ≤ (2 ^ 24 - 1) * (total * 2 ^ 124) := by omega
  exact nearest_lt positive missing

/-- A share of small counts is below one half exactly when the count is below half the total. -/
theorem ratio_lt_half_iff (countSmall : count < 2 ^ 24) (totalSmall : total < 2 ^ 24)
    (occupied : total ≠ 0) :
    (ratio count total).lt (ratio 1 2) = true ↔ 2 * count < total := by
  constructor
  · intro below
    by_contra half
    rw [ratio_not_lt_half occupied (finite_ofNat totalSmall) (Nat.le_of_not_lt half)] at below
    cases below
  · intro less
    have magnitude := nearest_lt_half totalSmall less
    have number : (ratio 1 2).isNaN = false := by decide +kernel
    have key : (ratio 1 2).key = 126 * 2 ^ 23 := by decide +kernel
    have cut := nearest_le (count * 2 ^ 149) total
    rw [ratio_of_small countSmall totalSmall occupied, lt_iff]
    refine ⟨?_, number, ?_⟩
    · rw [isNaN, magnitude_ofSign false cut]
      exact decide_eq_false (Nat.not_lt.mpr cut)
    · rw [key, Score.key, isNegative_ofSign false cut, if_neg Bool.false_ne_true,
        magnitude_ofSign false cut]
      omega

/-! ## Between zero and one -/

theorem zero_eq_ofSign : zero = ofSign false 0 :=
  rfl

theorem one_eq_ofSign : one = ofSign false (127 * 2 ^ 23) := by
  decide

/-- Scores without a sign are ordered as their magnitudes. -/
theorem ofSign_le_ofSign_iff {lower upper : Nat} (lowerSmall : lower ≤ infinite)
    (upperSmall : upper ≤ infinite) : ofSign false lower ≤ ofSign false upper ↔ lower ≤ upper := by
  have number {magnitude : Nat} (small : magnitude ≤ infinite) :
      (ofSign false magnitude).isNaN = false := by
    rw [isNaN, magnitude_ofSign false small]
    exact decide_eq_false (Nat.not_lt.mpr small)
  have key {magnitude : Nat} (small : magnitude ≤ infinite) :
      (ofSign false magnitude).key = magnitude := by
    rw [Score.key, isNegative_ofSign false small, if_neg Bool.false_ne_true,
      magnitude_ofSign false small]
  constructor
  · rintro ⟨-, -, ordered⟩
    rw [key lowerSmall, key upperSmall] at ordered
    exact Int.ofNat_le.mp ordered
  · intro ordered
    refine ⟨number lowerSmall, number upperSmall, ?_⟩
    rw [key lowerSmall, key upperSmall]
    exact Int.ofNat_le.mpr ordered

theorem ofSign_inj {left right : Nat} (leftSmall : left ≤ infinite) (rightSmall : right ≤ infinite) :
    ofSign false left = ofSign false right ↔ left = right := by
  constructor
  · intro same
    rw [← magnitude_ofSign false leftSmall, same, magnitude_ofSign false rightSmall]
  · exact congrArg (ofSign false)

theorem nearest_self (positive : 0 < total) : nearest (total * 2 ^ 149) total = 127 * 2 ^ 23 :=
  calc
    nearest (total * 2 ^ 149) total = nearest (2 ^ 149 * total) (1 * total) := by
      rw [Nat.mul_comm, Nat.one_mul]
    _ = nearest (2 ^ 149) 1 := nearest_mul_right positive _ _
    _ = 127 * 2 ^ 23 := by decide +kernel

/-- Less than everything of a small total is rounded to less than one. -/
theorem nearest_lt_one (small : total < 2 ^ 24) (less : count < total) :
    nearest (count * 2 ^ 149) total < 127 * 2 ^ 23 := by
  have positive : 0 < total := by omega
  have missing : count * 2 ^ 149 ≤ (2 ^ 24 - 1) * (total * 2 ^ 125) := by omega
  exact nearest_lt positive missing

section Ratio

variable {other : Nat} (small : total < 2 ^ 24) (occupied : total ≠ 0)
include small occupied

theorem ratio_eq_zero_iff (within : count ≤ total) : ratio count total = zero ↔ count = 0 := by
  rw [ratio_of_small (Nat.lt_of_le_of_lt within small) small occupied, zero_eq_ofSign,
    ofSign_inj (nearest_le _ _) (Nat.zero_le _)]
  constructor
  · intro nothing
    by_contra some
    have whole : 0 < count * 2 ^ 149 / total := Nat.div_pos (by omega) (by omega)
    exact Nat.ne_of_gt (nearest_pos whole) nothing
  · rintro rfl
    simp [nearest, roundQuotient]

theorem ratio_eq_one_iff (within : count ≤ total) : ratio count total = one ↔ count = total := by
  have bound : 127 * 2 ^ 23 ≤ infinite := by decide
  rw [ratio_of_small (Nat.lt_of_le_of_lt within small) small occupied, one_eq_ofSign,
    ofSign_inj (nearest_le _ _) bound]
  constructor
  · intro everything
    by_contra apart
    have less : count < total := Nat.lt_of_le_of_ne within apart
    exact Nat.ne_of_lt (nearest_lt_one small less) everything
  · rintro rfl
    exact nearest_self (Nat.pos_of_ne_zero occupied)

theorem isNegative_ratio (within : count ≤ total) : (ratio count total).isNegative = false := by
  rw [ratio_of_small (Nat.lt_of_le_of_lt within small) small occupied]
  exact isNegative_ofSign false (nearest_le _ _)

/-- A share that counts more is not rounded to less. -/
theorem ratio_le_ratio (ordered : count ≤ other) (within : other ≤ total) :
    ratio count total ≤ ratio other total := by
  rw [ratio_of_small (by omega) small occupied, ratio_of_small (by omega) small occupied,
    ofSign_le_ofSign_iff (nearest_le _ _) (nearest_le _ _)]
  exact nearest_mono (Nat.pos_of_ne_zero occupied) (Nat.mul_le_mul_right _ ordered)

/-- The lowest and the highest share are scores themselves, and all others lie between them. -/
theorem ratio_bounds (within : count ≤ total) :
    zero ≤ ratio count total ∧ ratio count total ≤ one := by
  have nothing := (ratio_eq_zero_iff small occupied (Nat.zero_le total)).mpr rfl
  have everything := (ratio_eq_one_iff small occupied (Nat.le_refl total)).mpr rfl
  constructor
  · rw [← nothing]
    exact ratio_le_ratio small occupied (Nat.zero_le count) within
  · rw [← everything]
    exact ratio_le_ratio small occupied within (Nat.le_refl total)

end Ratio

end LibPrint.Score
