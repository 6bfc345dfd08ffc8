import LibPrint.Proofs.Package.Segments
import LibPrint.Proofs.Text

/-!
# What names say of packages

A package is told to be within another one by the bytes of their names, and siblings by what stands
before the last dot. For names that are empty or made of segments this is what their segments say:
one list starts with the other, or both agree but for the last segment. Bytes are no trouble, as a
text starts with another one exactly when its bytes do, and the dot behind the shorter name keeps
`com.foobar` out of `com.foo`.
-/

namespace LibPrint.Package

variable {first second : List String}

/-! ## Bytes -/

/-- Nesting is found in the bytes of names: the outer one's come first, and a dot behind them. -/
theorem isWithin_iff_bytes {name root : String} :
    isWithin name root = true ↔ root = "" ∨ name = root ∨
      Text.encode root <+: Text.encode name ∧
        (Text.encode name)[(Text.encode root).length]? = some 0x2e := by
  rw [isWithin_iff]
  apply or_congr_right
  apply or_congr_right
  have dot : Text.encode "." = [0x2e] := by decide
  constructor
  · rintro ⟨rest, rfl⟩
    rw [Text.encode_append, Text.encode_append, dot, List.append_assoc]
    exact ⟨List.prefix_append _ _, by simp⟩
  · rintro ⟨⟨bytes, parts⟩, next⟩
    rw [← parts, List.getElem?_append_right (Nat.le_refl _), Nat.sub_self] at next
    obtain ⟨rest, rfl⟩ : ∃ rest, bytes = 0x2e :: rest := by
      cases bytes with
      | nil => cases next
      | cons byte rest => exact ⟨rest, by rw [Option.some.inj next]⟩
    have starts : Text.encode (root ++ ".") <+: Text.encode name := by
      rw [Text.encode_append, dot, ← parts]
      exact ⟨rest, by rw [List.append_assoc]; rfl⟩
    obtain ⟨rest, spelled⟩ := Text.encode_prefix_iff.mp starts
    refine ⟨String.ofList rest, String.toList_inj.mp ?_⟩
    simp only [← spelled, String.toList_append, String.toList_ofList]

/-! ## Relationships -/

/-- Of two lists one starts with the other and is shorter when it is another list. -/
theorem length_lt_and_prefix_iff :
    second.length < first.length ∧ second <+: first ↔ second <+: first ∧ second ≠ first := by
  constructor
  · rintro ⟨shorter, starts⟩
    exact ⟨starts, fun same => Nat.ne_of_lt shorter (congrArg List.length same)⟩
  · rintro ⟨starts, different⟩
    exact ⟨Nat.lt_of_le_of_ne starts.length_le (mt starts.eq_of_length different), starts⟩

section Segments

variable (firstValid : AreSegments first) (secondValid : AreSegments second)
include firstValid secondValid

theorem relationship_eq_parent_iff :
    relationship (join first) (join second) = .parent ↔ second <+: first ∧ second ≠ first := by
  rw [relationship_join firstValid secondValid, ← length_lt_and_prefix_iff]
  split
  · next above => exact iff_of_true rfl above
  · next notAbove =>
    refine iff_of_false ?_ notAbove
    split_ifs <;> nofun

theorem relationship_eq_child_iff :
    relationship (join first) (join second) = .child ↔ first <+: second ∧ first ≠ second := by
  have turned := relationship_eq_parent_iff secondValid firstValid
  rw [relationship_converse] at turned
  rw [← turned]
  cases relationship (join first) (join second) <;> decide

theorem relationship_eq_sibling_iff :
    relationship (join first) (join second) = .sibling ↔
      first.length = second.length ∧ first.dropLast = second.dropLast := by
  rw [relationship_join firstValid secondValid]
  split
  · next above => exact iff_of_false nofun fun alike => Nat.ne_of_gt above.1 alike.1
  · split
    · next below => exact iff_of_false nofun fun alike => Nat.ne_of_lt below.1 alike.1
    · split
      · next alike => exact iff_of_true rfl alike
      · next notAlike => exact iff_of_false nofun notAlike

theorem relationship_eq_unrelated_iff :
    relationship (join first) (join second) = .unrelated ↔
      ¬ (second <+: first ∧ second ≠ first) ∧ ¬ (first <+: second ∧ first ≠ second) ∧
        ¬ (first.length = second.length ∧ first.dropLast = second.dropLast) := by
  rw [← relationship_eq_parent_iff firstValid secondValid,
    ← relationship_eq_child_iff firstValid secondValid,
    ← relationship_eq_sibling_iff firstValid secondValid]
  cases relationship (join first) (join second) <;> decide

end Segments

/-! ## Ancestors -/

theorem exists_ancestorAt?_iff (valid : AreSegments first) (count : Nat) :
    (∃ ancestor, ancestorAt? (join first) count = some ancestor) ↔
      0 < count ∧ count ≤ first.length := by
  simp only [ancestorAt?_eq_some_iff, depth, segments_join valid, ← and_assoc]
  exact exists_eq_right

/-- What is cut off at a depth is that deep, and the package is at or below it. -/
theorem isWithin_of_ancestorAt? (valid : AreSegments first) {count : Nat} {ancestor : String}
    (cut : ancestorAt? (join first) count = some ancestor) :
    depth ancestor = count ∧ isWithin (join first) ancestor = true := by
  refine ⟨(segments_of_ancestorAt? cut).2, ?_⟩
  obtain ⟨-, -, rfl⟩ := ancestorAt?_eq_some_iff.mp cut
  rw [segments_join valid]
  exact (isWithin_join valid (valid.of_subset (List.take_subset _ _))).mpr (List.take_prefix _ _)

/-- Names that are empty or made of segments say of packages what lists of segments do, although
nesting is found in their bytes. -/
theorem relationship_of_segments (firstValid : AreSegments first)
    (secondValid : AreSegments second) :
    segments (join first) = first ∧
    (isWithin (join first) (join second) = true ↔ second <+: first) ∧
    (isWithin (join first) (join second) = true ↔ join second = "" ∨ join first = join second ∨
      Text.encode (join second) <+: Text.encode (join first) ∧
        (Text.encode (join first))[(Text.encode (join second)).length]? = some 0x2e) ∧
    (relationship (join first) (join second) = .parent ↔ second <+: first ∧ second ≠ first) ∧
    (relationship (join first) (join second) = .child ↔ first <+: second ∧ first ≠ second) ∧
    (relationship (join first) (join second) = .sibling ↔
      first.length = second.length ∧ first.dropLast = second.dropLast) ∧
    (relationship (join first) (join second) = .unrelated ↔
      ¬ (second <+: first ∧ second ≠ first) ∧ ¬ (first <+: second ∧ first ≠ second) ∧
        ¬ (first.length = second.length ∧ first.dropLast = second.dropLast)) ∧
    ∀ count : Nat,
      ((∃ ancestor, ancestorAt? (join first) count = some ancestor) ↔
        0 < count ∧ count ≤ first.length) ∧
      ∀ ancestor, ancestorAt? (join first) count = some ancestor →
        (segments ancestor).length = count ∧ isWithin (join first) ancestor = true := by
  refine ⟨segments_join firstValid, isWithin_join firstValid secondValid,
    isWithin_iff_bytes, relationship_eq_parent_iff firstValid secondValid,
    relationship_eq_child_iff firstValid secondValid,
    relationship_eq_sibling_iff firstValid secondValid,
    relationship_eq_unrelated_iff firstValid secondValid, ?_⟩
  intro count
  exact ⟨exists_ancestorAt?_iff firstValid count, fun _ => isWithin_of_ancestorAt? firstValid⟩

/-- Segments with characters of several bytes, one of them the start of another. -/
theorem relationship_of_segments_wide :
    let outer := ["org", "été"]
    let inner := ["org", "été", "夏"]
    let longer := ["org", "étés"]
    AreSegments outer ∧ AreSegments inner ∧ AreSegments longer ∧
      isWithin (join inner) (join outer) = true ∧ isWithin (join longer) (join outer) = false ∧
      relationship (join inner) (join outer) = .parent ∧
      relationship (join longer) (join outer) = .sibling ∧
      relationship (join inner) (join longer) = .unrelated ∧
      relationship (join []) (join longer) = .child ∧
      (∃ ancestor, ancestorAt? (join inner) 2 = some ancestor ∧
        (segments ancestor).length = 2) := by
  intro outer inner longer
  have outerValid : AreSegments outer := by decide
  have innerValid : AreSegments inner := by decide
  have longerValid : AreSegments longer := by decide
  have noneValid : AreSegments [] := by decide
  obtain ⟨-, within, -, parent, -, -, -, ancestors⟩ := relationship_of_segments innerValid outerValid
  obtain ⟨-, apart, -, -, -, sibling, -⟩ := relationship_of_segments longerValid outerValid
  obtain ⟨-, -, -, -, -, -, unrelated, -⟩ := relationship_of_segments innerValid longerValid
  obtain ⟨-, -, -, -, child, -⟩ := relationship_of_segments noneValid longerValid
  obtain ⟨ancestor, cut⟩ := (ancestors 2).1.mpr (by decide)
  exact ⟨outerValid, innerValid, longerValid, within.mpr (by decide),
    Bool.eq_false_iff.mpr (mt apart.mp (by decide)), parent.mpr (by decide),
    sibling.mpr (by decide), unrelated.mpr (by decide), child.mpr (by decide),
    ancestor, cut, ((ancestors 2).2 ancestor cut).1⟩

end LibPrint.Package
