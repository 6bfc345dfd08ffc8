import LibPrint.Proofs.Score.Order
import Mathlib.Algebra.Order.Ring.Nat

/-!
# Rounding counts and quotients

A count that does not fit into the digits of a score is rounded before it is divided, and the
quotient is rounded again. Neither rounding can carry a share across one half: rounding is monotone,
doubling a count doubles what it is rounded to, and one half is a score itself.
-/

namespace LibPrint.Score

theorem twoTo_eq (exponent : Nat) : twoTo exponent = 2 ^ exponent :=
  rfl

/-! ## Rounded quotients -/

section Quotient

variable {numerator other denominator : Nat}

/-- What is left over is above one half, or is one half behind an odd number. -/
def RoundsUp (numerator denominator : Nat) : Prop :=
  denominator < 2 * (numerator % denominator) ∨
    denominator = 2 * (numerator % denominator) ∧ numerator / denominator % 2 = 1

instance (numerator denominator : Nat) : Decidable (RoundsUp numerator denominator) :=
  inferInstanceAs (Decidable (_ ∨ _))

theorem roundQuotient_eq (numerator denominator : Nat) :
    roundQuotient numerator denominator =
      numerator / denominator + if RoundsUp numerator denominator then 1 else 0 := by
  by_cases up : RoundsUp numerator denominator
  · rw [if_pos up]
    simp only [RoundsUp] at up
    simp only [roundQuotient]
    rw [if_neg (by omega)]
    split <;> omega
  · rw [if_neg up]
    simp only [RoundsUp] at up
    simp only [roundQuotient]
    split
    · rfl
    · rw [if_neg (by omega)]
      omega

theorem le_roundQuotient (numerator denominator : Nat) :
    numerator / denominator ≤ roundQuotient numerator denominator := by
  rw [roundQuotient_eq]
  exact Nat.le_add_right _ _

theorem roundQuotient_le (numerator denominator : Nat) :
    roundQuotient numerator denominator ≤ numerator / denominator + 1 := by
  rw [roundQuotient_eq]
  split <;> omega

@[simp] theorem roundQuotient_one (numerator : Nat) : roundQuotient numerator 1 = numerator := by
  simp [roundQuotient, Nat.mod_one]

theorem roundQuotient_mono (ordered : numerator ≤ other) :
    roundQuotient numerator denominator ≤ roundQuotient other denominator := by
  rcases Nat.lt_or_eq_of_le (Nat.div_le_div_right ordered) with below | same
  · calc
      roundQuotient numerator denominator ≤ numerator / denominator + 1 := roundQuotient_le _ _
      _ ≤ other / denominator := below
      _ ≤ roundQuotient other denominator := le_roundQuotient _ _
  · -- Of numbers with one quotient the larger leaves more over.
    have parts := Nat.div_add_mod numerator denominator
    have otherParts := Nat.div_add_mod other denominator
    have up : RoundsUp numerator denominator → RoundsUp other denominator := by
      rw [same] at parts
      simp only [RoundsUp, same]
      omega
    rw [roundQuotient_eq, roundQuotient_eq, same]
    by_cases rounds : RoundsUp numerator denominator
    · simp only [if_pos rounds, if_pos (up rounds), Nat.le_refl]
    · rw [if_neg rounds]
      exact Nat.le_add_right _ _

/-- A quotient does not depend on a factor that both of its sides have. -/
theorem roundQuotient_mul_left {factor : Nat} (positive : 0 < factor)
    (numerator denominator : Nat) :
    roundQuotient (factor * numerator) (factor * denominator) =
      roundQuotient numerator denominator := by
  have quotient := Nat.mul_div_mul_left numerator denominator positive
  have remainder := Nat.mul_mod_mul_left factor numerator denominator
  simp only [roundQuotient, quotient, remainder, Nat.mul_left_comm 2 factor,
    Nat.mul_lt_mul_left positive]

/-- A quotient that is at most a whole number is rounded to at most that number. -/
theorem roundQuotient_le_of_le_mul {bound : Nat} (positive : 0 < denominator)
    (below : numerator ≤ bound * denominator) : roundQuotient numerator denominator ≤ bound :=
  calc
    roundQuotient numerator denominator ≤ roundQuotient (bound * denominator) denominator :=
      roundQuotient_mono below
    _ = bound := by simp [roundQuotient, Nat.mul_div_cancel _ positive, positive]

theorem nearest_mul_right {factor : Nat} (positive : 0 < factor) (numerator denominator : Nat) :
    nearest (numerator * factor) (denominator * factor) = nearest numerator denominator := by
  have quotient := Nat.mul_div_mul_right numerator denominator positive
  simp only [nearest, quotient]
  rw [Nat.mul_comm numerator, Nat.mul_comm denominator, Nat.mul_assoc,
    roundQuotient_mul_left positive]

end Quotient

/-! ## Larger quotients -/

section Monotone

variable {numerator other denominator : Nat}

theorem log2_mono {number other : Nat} (ordered : number ≤ other) : number.log2 ≤ other.log2 := by
  by_cases occupied : number = 0
  · rw [occupied, Nat.log2_zero]
    exact Nat.zero_le _
  · exact (Nat.le_log2 (by omega)).mpr (Nat.le_trans (Nat.log2_self_le occupied) ordered)

theorem log2_le_of_lt {number bound : Nat} (below : number < 2 ^ (bound + 1)) :
    number.log2 ≤ bound := by
  by_cases occupied : number = 0
  · rw [occupied, Nat.log2_zero]
    exact Nat.zero_le _
  · exact Nat.le_of_lt_succ ((Nat.log2_lt occupied).mpr below)

/-- The digits that are kept of a large quotient fill the significand. -/
theorem le_digits {shift : Nat} (top : (numerator / denominator).log2 = 23 + shift) :
    2 ^ 23 ≤ roundQuotient numerator (denominator * 2 ^ shift) := by
  have occupied : numerator / denominator ≠ 0 := by
    intro nothing
    rw [nothing, Nat.log2_zero] at top
    omega
  refine Nat.le_trans ?_ (le_roundQuotient _ _)
  rw [← Nat.div_div_eq_div_mul, Nat.le_div_iff_mul_le (Nat.two_pow_pos _), ← Nat.pow_add, ← top]
  exact Nat.log2_self_le occupied

/-- The digits of a quotient are below the next power of two, or round up to it. -/
theorem digits_le {shift : Nat} (positive : 0 < denominator)
    (top : (numerator / denominator).log2 ≤ 23 + shift) :
    roundQuotient numerator (denominator * 2 ^ shift) ≤ 2 ^ 24 := by
  apply roundQuotient_le_of_le_mul (Nat.mul_pos positive (Nat.two_pow_pos _))
  have below : numerator / denominator < 2 ^ (24 + shift) :=
    calc
      numerator / denominator < 2 ^ ((numerator / denominator).log2 + 1) := Nat.lt_log2_self
      _ ≤ 2 ^ (24 + shift) := Nat.pow_le_pow_right Nat.two_pos (by omega)
  have product := (Nat.div_lt_iff_lt_mul positive).mp below
  rw [Nat.pow_add, Nat.mul_assoc, Nat.mul_comm (2 ^ shift)] at product
  exact Nat.le_of_lt product

/-- A larger quotient is not rounded to less. Where the scores around it are farther apart, the
smaller one has at most as many units as the wider spacing begins with. -/
theorem nearest_mono (positive : 0 < denominator) (ordered : numerator ≤ other) :
    nearest numerator denominator ≤ nearest other denominator := by
  have tops : (numerator / denominator).log2 ≤ (other / denominator).log2 :=
    log2_mono (Nat.div_le_div_right ordered)
  simp only [nearest, twoTo_eq]
  apply min_le_min_left
  rcases Nat.lt_or_eq_of_le (Nat.sub_le_sub_right tops 23) with below | same
  · have top : (numerator / denominator).log2 ≤ 23 + ((numerator / denominator).log2 - 23) := by
      omega
    have otherTop : (other / denominator).log2 = 23 + ((other / denominator).log2 - 23) := by
      omega
    have upper := digits_le positive top
    have lower := le_digits otherTop
    omega
  · rw [same]
    exact Nat.add_le_add_left (roundQuotient_mono ordered) _

/-- A quotient of one unit or more is not rounded to nothing. -/
theorem nearest_pos (occupied : 0 < numerator / denominator) :
    0 < nearest numerator denominator := by
  have whole := le_roundQuotient numerator denominator
  have bound : 0 < infinite := by decide
  simp only [nearest, twoTo_eq]
  by_cases small : (numerator / denominator).log2 ≤ 23
  · rw [Nat.sub_eq_zero_of_le small, Nat.pow_zero, Nat.mul_one]
    omega
  · omega

/-- A quotient that is at most the last score below a power of two is not rounded up to that
power. -/
theorem nearest_lt {shift : Nat} (positive : 0 < denominator)
    (below : numerator ≤ (2 ^ 24 - 1) * (denominator * 2 ^ shift)) :
    nearest numerator denominator < (shift + 2) * 2 ^ 23 := by
  have spaced : 0 < denominator * 2 ^ shift := Nat.mul_pos positive (Nat.two_pow_pos shift)
  have top : (numerator / denominator).log2 ≤ 23 + shift := by
    apply log2_le_of_lt
    rw [Nat.div_lt_iff_lt_mul positive, Nat.add_right_comm 23 shift 1, Nat.pow_add, Nat.mul_assoc,
      Nat.mul_comm (2 ^ shift)]
    omega
  simp only [nearest, twoTo_eq]
  refine Nat.lt_of_le_of_lt (Nat.min_le_right _ _) ?_
  rcases Nat.lt_or_eq_of_le (Nat.sub_le_iff_le_add'.mpr top) with lower | highest
  · have own : (numerator / denominator).log2 ≤ 23 + ((numerator / denominator).log2 - 23) := by
      omega
    have digits := digits_le positive own
    omega
  · have digits := roundQuotient_le_of_le_mul spaced below
    rw [highest]
    omega

end Monotone

/-! ## Rounded counts -/

section Count

variable {number other : Nat}

/-- What a count is rounded to. -/
def rounded (number : Nat) : Nat :=
  roundQuotient number (twoTo (number.log2 - 23)) * twoTo (number.log2 - 23)

theorem rounded_of_small (small : number.log2 ≤ 23) : rounded number = number := by
  have none : number.log2 - 23 = 0 := by omega
  rw [rounded, none, twoTo_eq, Nat.pow_zero, roundQuotient_one, Nat.mul_one]

/-- The digits that are kept of a large count; rounding up may lead to the next power of two. -/
theorem digits_bounds {shift : Nat} (top : number.log2 = 23 + shift) :
    2 ^ 23 ≤ roundQuotient number (2 ^ shift) ∧ roundQuotient number (2 ^ shift) ≤ 2 ^ 24 := by
  have whole : (number / 1).log2 = 23 + shift := by rw [Nat.div_one, top]
  have lower := le_digits whole
  have upper := digits_le Nat.one_pos (Nat.le_of_eq whole)
  rw [Nat.one_mul] at lower upper
  exact ⟨lower, upper⟩

/-- A rounded count stays between the powers of two around it. -/
theorem rounded_bounds (occupied : number ≠ 0) :
    2 ^ number.log2 ≤ rounded number ∧ rounded number ≤ 2 ^ (number.log2 + 1) := by
  by_cases small : number.log2 ≤ 23
  · rw [rounded_of_small small]
    exact ⟨Nat.log2_self_le occupied, Nat.le_of_lt Nat.lt_log2_self⟩
  · obtain ⟨shift, top⟩ : ∃ shift, number.log2 = 23 + shift := ⟨number.log2 - 23, by omega⟩
    obtain ⟨lower, upper⟩ := digits_bounds top
    rw [rounded, top, Nat.add_sub_cancel_left, twoTo_eq, Nat.add_right_comm 23 shift 1,
      Nat.pow_add, Nat.pow_add]
    exact ⟨Nat.mul_le_mul_right _ lower, Nat.mul_le_mul_right _ upper⟩

theorem rounded_mono (ordered : number ≤ other) : rounded number ≤ rounded other := by
  by_cases occupied : number = 0
  · subst occupied
    exact Nat.zero_le _
  · have otherOccupied : other ≠ 0 := by omega
    rcases Nat.lt_or_eq_of_le (log2_mono ordered) with below | same
    · calc
        rounded number ≤ 2 ^ (number.log2 + 1) := (rounded_bounds occupied).2
        _ ≤ 2 ^ other.log2 := Nat.pow_le_pow_right Nat.two_pos below
        _ ≤ rounded other := (rounded_bounds otherOccupied).1
    · rw [rounded, rounded, same]
      exact Nat.mul_le_mul_right _ (roundQuotient_mono ordered)

theorem rounded_two_mul (number : Nat) : rounded (2 * number) = 2 * rounded number := by
  by_cases occupied : number = 0
  · subst occupied
    rfl
  · have top : (2 * number).log2 = number.log2 + 1 := Nat.log2_two_mul occupied
    by_cases small : number.log2 < 23
    · rw [rounded_of_small (by omega), rounded_of_small (by omega)]
    · have shift : number.log2 + 1 - 23 = number.log2 - 23 + 1 := by omega
      have double : twoTo (number.log2 - 23 + 1) = 2 * twoTo (number.log2 - 23) := by
        rw [twoTo_eq, twoTo_eq, Nat.pow_succ, Nat.mul_comm]
      rw [rounded, rounded, top, shift, double, roundQuotient_mul_left Nat.two_pos,
        Nat.mul_left_comm]

end Count

/-! ## Counts as scores -/

theorem magnitude_ofSign {magnitude : Nat} (negative : Bool) (small : magnitude ≤ infinite) :
    (ofSign negative magnitude).magnitude = magnitude := by
  have bound : infinite = 0x7f800000 := rfl
  cases negative with
  | false =>
      simp only [ofSign, Score.magnitude, Bool.false_eq_true, if_false, UInt32.toNat_ofNat']
      omega
  | true =>
      simp only [ofSign, Score.magnitude, if_true, UInt32.toNat_ofNat']
      omega

theorem isNegative_ofSign {magnitude : Nat} (negative : Bool) (small : magnitude ≤ infinite) :
    (ofSign negative magnitude).isNegative = negative := by
  have bound : infinite = 0x7f800000 := rfl
  cases negative with
  | false =>
      simp only [ofSign, isNegative, Bool.false_eq_true, if_false, UInt32.toNat_ofNat',
        decide_eq_false_iff_not]
      omega
  | true =>
      simp only [ofSign, isNegative, if_true, UInt32.toNat_ofNat', decide_eq_true_eq]
      omega

theorem nearest_le (numerator denominator : Nat) : nearest numerator denominator ≤ infinite :=
  Nat.min_le_left _ _

theorem nearestScaled_le (factor power : Nat) : nearestScaled factor power ≤ infinite := by
  simp only [nearestScaled]
  split
  · exact Nat.zero_le _
  · split <;> exact Nat.min_le_left _ _

@[simp] theorem isNegative_ofNat (number : Nat) : (ofNat number).isNegative = false :=
  isNegative_ofSign false (nearestScaled_le _ _)

@[simp] theorem isNaN_ofNat (number : Nat) : (ofNat number).isNaN = false := by
  rw [isNaN, ofNat, magnitude_ofSign false (nearestScaled_le _ _)]
  exact decide_eq_false (Nat.not_lt.mpr (nearestScaled_le _ _))

/-- A magnitude is read back as the factor and the power it was made of, also when the factor was
rounded up to the next power of two. -/
theorem units_eq {power factor : Nat} (lower : 2 ^ 23 ≤ factor) (upper : factor ≤ 2 ^ 24) :
    units (power * 2 ^ 23 + factor) = factor * 2 ^ power := by
  have small : ¬ power * 2 ^ 23 + factor < 2 ^ 23 := by omega
  rw [units, significand, exponent, twoTo_eq, if_neg small, twoTo_eq]
  rcases Nat.lt_or_eq_of_le upper with below | top
  · have exponent : (power * 2 ^ 23 + factor) / 2 ^ 23 - 1 = power := by omega
    have digits : 2 ^ 23 + (power * 2 ^ 23 + factor) % 2 ^ 23 = factor := by omega
    rw [exponent, digits]
  · have exponent : (power * 2 ^ 23 + factor) / 2 ^ 23 - 1 = power + 1 := by omega
    have digits : 2 ^ 23 + (power * 2 ^ 23 + factor) % 2 ^ 23 = 2 ^ 23 := by omega
    rw [exponent, digits, top, Nat.pow_succ 2 power]
    omega

/-- A count that is not rounded to infinity is a whole number of units. -/
theorem units_ofNat {number : Nat} (occupied : number ≠ 0)
    (finite : (ofNat number).magnitude ≠ infinite) :
    units (ofNat number).magnitude = rounded number * 2 ^ 149 := by
  have cut (magnitude : Nat) (below : min infinite magnitude ≠ infinite) :
      min infinite magnitude = magnitude := by omega
  rw [ofNat, magnitude_ofSign false (nearestScaled_le _ _)] at finite ⊢
  simp only [nearestScaled, if_neg occupied, twoTo_eq] at finite ⊢
  by_cases small : number.log2 ≤ 23
  · obtain ⟨raise, rest⟩ : ∃ raise, 23 = number.log2 + raise := ⟨23 - number.log2, by omega⟩
    have raised : min 149 (23 - number.log2) = raise := by omega
    have lower : 2 ^ 23 ≤ number * 2 ^ raise := by
      rw [rest, Nat.pow_add]
      exact Nat.mul_le_mul_right _ (Nat.log2_self_le occupied)
    have upper : number * 2 ^ raise ≤ 2 ^ 24 := by
      have power : 2 ^ 24 = 2 ^ (number.log2 + 1) * 2 ^ raise := by
        rw [← Nat.pow_add, Nat.add_right_comm, ← rest]
      rw [power]
      exact Nat.mul_le_mul_right _ (Nat.le_of_lt Nat.lt_log2_self)
    have scale : raise + (149 - raise) = 149 := by omega
    simp only [if_pos small, raised] at finite ⊢
    rw [cut _ finite, units_eq lower upper, rounded_of_small small, Nat.mul_assoc,
      ← Nat.pow_add, scale]
  · obtain ⟨shift, top⟩ : ∃ shift, number.log2 = 23 + shift := ⟨number.log2 - 23, by omega⟩
    obtain ⟨lower, upper⟩ := digits_bounds top
    simp only [if_neg small] at finite ⊢
    simp only [top, Nat.add_sub_cancel_left] at finite ⊢
    rw [cut _ finite, units_eq lower upper, rounded, top, Nat.add_sub_cancel_left, twoTo_eq,
      Nat.mul_assoc, ← Nat.pow_add, Nat.add_comm shift]

/-! ## Shares of at least one half -/

/-- A quotient of at least one half is rounded to at least one half. -/
theorem half_le_nearest {numerator denominator : Nat} (positive : 0 < denominator)
    (half : denominator ≤ 2 * numerator) :
    126 * 2 ^ 23 ≤ nearest (numerator * 2 ^ 149) denominator :=
  calc
    126 * 2 ^ 23 = nearest (2 ^ 148) 1 := by decide +kernel
    _ = nearest (2 ^ 148 * denominator) (1 * denominator) := (nearest_mul_right positive _ _).symm
    _ = nearest (2 ^ 148 * denominator) denominator := by rw [Nat.one_mul]
    _ ≤ nearest (numerator * 2 ^ 149) denominator := nearest_mono positive (by omega)

theorem rounded_half {count total : Nat} (half : total ≤ 2 * count) :
    rounded total ≤ 2 * rounded count := by
  rw [← rounded_two_mul]
  exact rounded_mono half

theorem not_lt_half {magnitude : Nat} (small : magnitude ≤ infinite)
    (reaches : 126 * 2 ^ 23 ≤ magnitude) : (ofSign false magnitude).lt (ratio 1 2) = false := by
  have key : (ratio 1 2).key = 126 * 2 ^ 23 := by decide +kernel
  have above : ¬ (magnitude : Int) < 126 * 2 ^ 23 := by omega
  rw [lt, key, Score.key, isNegative_ofSign false small, if_neg Bool.false_ne_true,
    magnitude_ofSign false small, decide_eq_false above, Bool.and_false]

/-- A count of at least half the total is a share of at least one half. -/
theorem ratio_not_lt_half {count total : Nat} (occupied : total ≠ 0)
    (finite : (ofNat total).magnitude ≠ infinite) (half : total ≤ 2 * count) :
    (ratio count total).lt (ratio 1 2) = false := by
  have infinity : 126 * 2 ^ 23 ≤ infinite := by decide
  have units := units_ofNat occupied finite
  have positive : 0 < Score.units (ofNat total).magnitude := by
    rw [units]
    exact Nat.mul_pos (Nat.lt_of_lt_of_le (Nat.two_pow_pos _) (rounded_bounds occupied).1)
      (Nat.two_pow_pos _)
  rw [ratio, div]
  simp only [isNaN_ofNat, isNegative_ofNat, Bool.or_self, Bool.false_eq_true, if_false,
    bne_self_eq_false]
  by_cases infiniteCount : (ofNat count).magnitude = infinite
  · rw [if_pos infiniteCount, if_neg finite]
    exact not_lt_half (Nat.le_refl _) infinity
  · have countOccupied : count ≠ 0 := by omega
    rw [if_neg infiniteCount, if_neg finite]
    split
    · split
      · rfl
      · exact not_lt_half (Nat.le_refl _) infinity
    · apply not_lt_half (nearest_le _ _) (half_le_nearest positive _)
      rw [units, units_ofNat countOccupied infiniteCount, ← Nat.mul_assoc]
      exact Nat.mul_le_mul_right _ (rounded_half half)

/-! ## Quotients that are nothing -/

theorem lt_nan (score : Score) : score.lt nan = false := by
  have number : nan.isNaN = true := by decide
  rw [lt, number, Bool.not_true, Bool.and_false, Bool.false_and]

/-- No zero is above a threshold that is not negative. -/
theorem not_lt_signed_zero {threshold : Score} (positive : 0 ≤ threshold.key) (negative : Bool) :
    threshold.lt (ofSign negative 0) = false := by
  have key : (ofSign negative 0).key = 0 := by
    cases negative <;> decide
  rw [lt, key, decide_eq_false (Int.not_lt.mpr positive), Bool.and_false]

/-- What is divided by infinity is not above any threshold that is not negative. -/
theorem not_lt_div_of_infinite {threshold left right : Score} (positive : 0 ≤ threshold.key)
    (infinity : right.magnitude = infinite) : threshold.lt (left.div right) = false := by
  have number : right.isNaN = false := by simp [isNaN, infinity]
  simp only [div, number, Bool.or_false, if_pos infinity]
  split
  · exact lt_nan threshold
  · split
    · exact lt_nan threshold
    · exact not_lt_signed_zero positive _

/-- Neither is zero, whatever it is divided by. -/
theorem not_lt_zero_div {threshold : Score} (positive : 0 ≤ threshold.key) (right : Score) :
    threshold.lt (zero.div right) = false := by
  have number : zero.isNaN = false := by decide
  have nothing : zero.magnitude = 0 := by decide
  have finite : (0 : Nat) ≠ infinite := by decide
  have units : units 0 = 0 := by decide
  have nearest (denominator : Nat) : nearest 0 denominator = 0 := by
    simp [Score.nearest, roundQuotient]
  simp only [div, number, Bool.false_or, nothing, if_neg finite, units, Nat.zero_mul, nearest]
  split
  · exact lt_nan threshold
  · split
    · exact not_lt_signed_zero positive _
    · split
      · exact lt_nan threshold
      · exact not_lt_signed_zero positive _

end LibPrint.Score
