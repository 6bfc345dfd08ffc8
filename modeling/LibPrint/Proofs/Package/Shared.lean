import LibPrint.Proofs.Package.Segments

/-!
# What packages have in common

How many segments two packages share at their front says, together with their depths, everything
about how they lie to each other: whether one is within an ancestor of the other, and which
relationship they have. So whatever keeps depths and shared segments keeps these too.
-/

namespace LibPrint.Package

/-- The name is what its segments spell, as it is when no piece between dots is empty. The name
without segments is the empty one. -/
def Spelled (name : String) : Prop :=
  join (segments name) = name

instance (name : String) : Decidable (Spelled name) :=
  inferInstanceAs (Decidable (_ = _))

/-- How far two lists agree from their front on. -/
def agreement : (left right : List String) → Nat
  | first :: left, second :: right => if first = second then agreement left right + 1 else 0
  | _, _ => 0

/-- The number of leading segments that two packages have in common. -/
def sharedSegments (left right : String) : Nat :=
  agreement (segments left) (segments right)

/-- Lists agree as far as what is taken from them is the same. -/
theorem le_agreement_iff {count : Nat} {left right : List String} :
    count ≤ agreement left right ↔
      count ≤ left.length ∧ count ≤ right.length ∧ left.take count = right.take count := by
  induction left generalizing right count with
  | nil =>
      constructor
      · intro none
        obtain rfl : count = 0 := Nat.le_zero.mp none
        simp
      · rintro ⟨none, -⟩
        exact Nat.le_trans none (Nat.zero_le _)
  | cons first left ih =>
      cases right with
      | nil =>
          constructor
          · intro none
            obtain rfl : count = 0 := Nat.le_zero.mp none
            simp
          · rintro ⟨-, none, -⟩
            exact Nat.le_trans none (Nat.zero_le _)
      | cons second right =>
          cases count with
          | zero => simp
          | succ count =>
              rw [agreement]
              by_cases same : first = second
              · simp [same, ih]
              · simp [same]

/-- One list starts with another when they agree on all of that one. -/
theorem prefix_iff_le_agreement {left right : List String} :
    left <+: right ↔ left.length ≤ agreement left right := by
  rw [le_agreement_iff, List.take_length, List.prefix_iff_eq_take]
  constructor
  · intro same
    refine ⟨Nat.le_refl _, ?_, same⟩
    have lengths := congrArg List.length same
    rw [List.length_take] at lengths
    omega
  · exact fun agree => agree.2.2

theorem agreement_comm (left right : List String) : agreement left right = agreement right left := by
  apply Nat.le_antisymm
  · obtain ⟨first, second, same⟩ := le_agreement_iff.mp (Nat.le_refl (agreement left right))
    exact le_agreement_iff.mpr ⟨second, first, same.symm⟩
  · obtain ⟨first, second, same⟩ := le_agreement_iff.mp (Nat.le_refl (agreement right left))
    exact le_agreement_iff.mpr ⟨second, first, same.symm⟩

/-- Lists of one length have the same front when they agree on all but the last. -/
theorem dropLast_eq_iff_le_agreement {left right : List String}
    (lengths : left.length = right.length) :
    left.dropLast = right.dropLast ↔ left.length - 1 ≤ agreement left right := by
  rw [le_agreement_iff, List.dropLast_eq_take, List.dropLast_eq_take, ← lengths]
  constructor
  · exact fun same => ⟨Nat.sub_le _ _, Nat.sub_le _ _, same⟩
  · exact fun agree => agree.2.2

/-! ## How packages lie to each other -/

/-- The relationship of two packages in terms of their depths and of what they share. -/
theorem relationship_of_spelled {left right : String} (leftSpelled : Spelled left)
    (rightSpelled : Spelled right) :
    relationship left right =
      if depth right < depth left ∧ depth right ≤ sharedSegments left right then .parent
      else if depth left < depth right ∧ depth left ≤ sharedSegments left right then .child
      else if depth left = depth right ∧ depth left - 1 ≤ sharedSegments left right then .sibling
      else .unrelated := by
  have told := relationship_join (areSegments_segments left) (areSegments_segments right)
  rw [leftSpelled, rightSpelled] at told
  have siblings : (segments left).length = (segments right).length ∧
      (segments left).dropLast = (segments right).dropLast ↔
        depth left = depth right ∧ depth left - 1 ≤ sharedSegments left right :=
    and_congr_right dropLast_eq_iff_le_agreement
  rw [told]
  simp only [siblings, prefix_iff_le_agreement, agreement_comm (segments right)]
  rfl

/-- A package is within an ancestor of another one when the two share as many segments as that
ancestor has. -/
theorem isWithin_ancestor_iff {name other ancestor : String} {count : Nat}
    (cut : ancestorAt? name count = some ancestor) (spelled : Spelled other) :
    isWithin other ancestor = true ↔ count ≤ sharedSegments name other := by
  obtain ⟨-, deep, rfl⟩ := ancestorAt?_eq_some_iff.mp cut
  have length : ((segments name).take count).length = count := List.length_take_of_le deep
  have nested := isWithin_join (areSegments_segments other)
    ((areSegments_segments name).of_subset (List.take_subset count _))
  rw [spelled] at nested
  rw [nested, sharedSegments, le_agreement_iff, List.prefix_iff_eq_take, length]
  constructor
  · intro same
    have lengths := congrArg List.length same
    rw [length, List.length_take] at lengths
    exact ⟨deep, by omega, same⟩
  · exact fun agree => agree.2.2

/-- Packages of one depth have ancestors at the same depths. -/
theorem exists_ancestor_of_depth_eq {name other ancestor : String} {count : Nat}
    (same : depth name = depth other) (cut : ancestorAt? name count = some ancestor) :
    ∃ image, ancestorAt? other count = some image := by
  obtain ⟨occupied, deep, -⟩ := ancestorAt?_eq_some_iff.mp cut
  exact ⟨_, ancestorAt?_eq_some_iff.mpr ⟨occupied, same ▸ deep, rfl⟩⟩

/-- What is within a package is within everything that package is within. -/
theorem isWithin_trans {inner middle outer : String} (lower : isWithin inner middle = true)
    (upper : isWithin middle outer = true) (occupied : middle ≠ "") :
    isWithin inner outer = true := by
  rw [isWithin_iff] at lower upper ⊢
  rcases lower with empty | rfl | ⟨rest, rfl⟩
  · exact absurd empty occupied
  · exact upper
  · rcases upper with empty | rfl | ⟨between, rfl⟩
    · exact .inl empty
    · exact .inr (.inr ⟨rest, rfl⟩)
    · refine .inr (.inr ⟨between ++ "." ++ rest, ?_⟩)
      simp only [String.append_assoc]

theorem ne_empty_of_ancestorAt? {name ancestor : String} {count : Nat}
    (cut : ancestorAt? name count = some ancestor) : ancestor ≠ "" := by
  rintro rfl
  obtain ⟨occupied, -, -⟩ := ancestorAt?_eq_some_iff.mp cut
  obtain ⟨-, none⟩ := segments_of_ancestorAt? cut
  exact absurd none (Nat.ne_of_lt occupied)

/-- An ancestor of a package outside of another one is outside too. -/
theorem not_isWithin_of_ancestor {name ancestor root : String} {count : Nat}
    (cut : ancestorAt? name count = some ancestor) (spelled : Spelled name)
    (outside : isWithin name root = false) : isWithin ancestor root = false := by
  by_contra within
  rw [Bool.not_eq_false] at within
  obtain ⟨-, deep, -⟩ := ancestorAt?_eq_some_iff.mp cut
  have below : isWithin name ancestor = true :=
    (isWithin_ancestor_iff cut spelled).mpr (le_agreement_iff.mpr ⟨deep, deep, rfl⟩)
  rw [isWithin_trans below within (ne_empty_of_ancestorAt? cut)] at outside
  cases outside

end LibPrint.Package
