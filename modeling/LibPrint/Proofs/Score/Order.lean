import LibPrint.Score

/-!
# The order of scores

Scores are compared as numbers, so the order is that of their keys as long as neither is no number.
What is no number is neither below nor above anything.
-/

namespace LibPrint.Score

variable {left middle right : Score}

theorem lt_iff :
    left.lt right = true ↔ left.isNaN = false ∧ right.isNaN = false ∧ left.key < right.key := by
  simp [lt, and_assoc]

theorem lt_irrefl (score : Score) : score.lt score = false := by
  simp [lt]

theorem lt_trans (lower : left.lt middle = true) (upper : middle.lt right = true) :
    left.lt right = true := by
  obtain ⟨leftNumber, -, leftBelow⟩ := lt_iff.mp lower
  obtain ⟨-, rightNumber, rightAbove⟩ := lt_iff.mp upper
  exact lt_iff.mpr ⟨leftNumber, rightNumber, Int.lt_trans leftBelow rightAbove⟩

/-- What is not above a score is not above a higher one. -/
theorem not_lt_of_lt (lower : left.lt middle = true) (unbeaten : left.lt right = false) :
    middle.lt right = false := by
  cases beaten : middle.lt right with
  | false => rfl
  | true =>
      rw [lt_trans lower beaten] at unbeaten
      cases unbeaten

/-- A number that is not above a score is below every higher one. -/
theorem lt_of_not_lt (number : right.isNaN = false) (unbeaten : left.lt right = false)
    (higher : left.lt middle = true) : right.lt middle = true := by
  obtain ⟨leftNumber, middleNumber, below⟩ := lt_iff.mp higher
  have notAbove : ¬ left.key < right.key := by
    intro above
    rw [lt_iff.mpr ⟨leftNumber, number, above⟩] at unbeaten
    cases unbeaten
  exact lt_iff.mpr ⟨number, middleNumber, by omega⟩

/-! ## At most -/

/-- A score is at most another when both are numbers and ordered that way. -/
instance : LE Score where
  le left right := left.isNaN = false ∧ right.isNaN = false ∧ left.key ≤ right.key

instance (left right : Score) : Decidable (left ≤ right) :=
  inferInstanceAs (Decidable (left.isNaN = false ∧ right.isNaN = false ∧ left.key ≤ right.key))

theorem le_iff_not_lt (leftNumber : left.isNaN = false) (rightNumber : right.isNaN = false) :
    left ≤ right ↔ right.lt left = false := by
  constructor
  · rintro ⟨-, -, ordered⟩
    simp [lt, Int.not_lt.mpr ordered]
  · intro unbeaten
    refine ⟨leftNumber, rightNumber, ?_⟩
    simpa [lt, leftNumber, rightNumber] using unbeaten

theorem le_of_lt (lower : left.lt right = true) : left ≤ right := by
  obtain ⟨leftNumber, rightNumber, below⟩ := lt_iff.mp lower
  exact ⟨leftNumber, rightNumber, Int.le_of_lt below⟩

theorem le_self (number : left.isNaN = false) : left ≤ left :=
  ⟨number, number, Int.le_refl _⟩

theorem le_trans (lower : left ≤ middle) (upper : middle ≤ right) : left ≤ right :=
  ⟨lower.1, upper.2.1, Int.le_trans lower.2.2 upper.2.2⟩

/-- Above zero nothing but the score itself is both at most and at least it. -/
theorem eq_of_le_of_le (positive : zero.lt left = true) (lower : left ≤ right)
    (upper : right ≤ left) : left = right := by
  have same : left.key = right.key := Int.le_antisymm lower.2.2 upper.2.2
  have above : 0 < left.key := (lt_iff.mp positive).2.2
  have bits (score : Score) (above : 0 < score.key) : score.key = score.bits.toNat := by
    cases sign : score.isNegative with
    | true =>
        rw [key, sign, if_pos rfl] at above
        omega
    | false =>
        have small : ¬ 0x80000000 ≤ score.bits.toNat := of_decide_eq_false sign
        rw [key, sign, if_neg Bool.false_ne_true, magnitude,
          Nat.mod_eq_of_lt (Nat.lt_of_not_le small)]
  have equal := bits left above ▸ bits right (same ▸ above) ▸ same
  cases left
  cases right
  exact congrArg Score.mk (UInt32.toNat_inj.mp (Int.ofNat_inj.mp equal))

/-! ## The total order -/

/-- What is not below in the total order is not below as a number. -/
theorem le_of_rank_le (leftNumber : left.isNaN = false) (rightNumber : right.isNaN = false)
    (ordered : left.rank ≤ right.rank) : left ≤ right := by
  refine ⟨leftNumber, rightNumber, ?_⟩
  cases leftSign : left.isNegative <;> cases rightSign : right.isNegative <;>
    simp only [rank, key, leftSign, rightSign, Bool.false_eq_true, if_true, if_false]
      at ordered ⊢ <;> omega

/-- Among positive scores the total order is that of numbers. -/
theorem rank_eq_key (positive : zero.lt left = true) : left.rank = left.key := by
  have above : 0 < left.key := (lt_iff.mp positive).2.2
  rw [rank, key]
  split
  · next negative =>
    rw [key, if_pos negative] at above
    omega
  · rfl

theorem le_iff_totalCompare_isLE (leftPositive : zero.lt left = true)
    (rightPositive : zero.lt right = true) :
    left ≤ right ↔ (left.totalCompare right).isLE = true := by
  rw [totalCompare, Int.isLE_compare, rank_eq_key leftPositive, rank_eq_key rightPositive]
  exact ⟨fun below => below.2.2,
    fun below => ⟨(lt_iff.mp leftPositive).2.1, (lt_iff.mp rightPositive).2.1, below⟩⟩

theorem lt_iff_totalCompare_eq (leftPositive : zero.lt left = true)
    (rightPositive : zero.lt right = true) :
    left.lt right = true ↔ left.totalCompare right = .lt := by
  rw [totalCompare, Int.compare_eq_lt, rank_eq_key leftPositive, rank_eq_key rightPositive, lt_iff]
  exact ⟨fun below => below.2.2,
    fun below => ⟨(lt_iff.mp leftPositive).2.1, (lt_iff.mp rightPositive).2.1, below⟩⟩

/-- Positive scores tie in the total order only when they are the same. -/
theorem eq_of_totalCompare_eq (leftPositive : zero.lt left = true)
    (rightPositive : zero.lt right = true) (tied : left.totalCompare right = .eq) :
    left = right := by
  have same : left.rank = right.rank := Int.compare_eq_eq.mp tied
  have lower : (left.totalCompare right).isLE = true := Int.isLE_compare.mpr (Int.le_of_eq same)
  have upper : (right.totalCompare left).isLE = true :=
    Int.isLE_compare.mpr (Int.le_of_eq same.symm)
  exact eq_of_le_of_le leftPositive ((le_iff_totalCompare_isLE leftPositive rightPositive).mpr lower)
    ((le_iff_totalCompare_isLE rightPositive leftPositive).mpr upper)

end LibPrint.Score
