import LibPrint.Proofs.Library.Catalog

/-!
# Where the order of profiles is not transitive

The first parts in which two versions differ decide, if they are different numbers, and otherwise
nothing does. So being below is transitive, but not being above is not: a version may tie with two
others that do not tie. It does exactly when it leaves both at one place, with a part there that
cannot be ordered against either of theirs. Letters are such a part, and so is the same number
spelled in another way, whatever follows it.
-/

namespace LibPrint

namespace Version

/-- The parts begin with the front and go on with another part than the given one, and these two are
not different numbers. -/
def Undecided (front : List String) (part : String) (parts : List String) : Prop :=
  ∃ other rest, parts = front ++ other :: rest ∧ part ≠ other ∧
    ∀ low ∈ Number.natural? part, ∀ high ∈ Number.natural? other, low = high

/-- Parts tie unless they are different numbers. -/
theorem compareDifferent_eq_eq_iff {left right : String} :
    compareDifferent left right = .eq ↔
      ∀ low ∈ Number.natural? left, ∀ high ∈ Number.natural? right, low = high := by
  unfold compareDifferent
  cases Number.natural? left with
  | none => simp
  | some left =>
      cases Number.natural? right with
      | none => simp
      | some right => simp

theorem compareParts_cons_eq_eq_iff {left right : String} {lefts rights : List String} :
    compareParts (left :: lefts) (right :: rights) = .eq ↔
      left = right ∧ compareParts lefts rights = .eq ∨
        left ≠ right ∧ compareDifferent left right = .eq := by
  rw [compareParts_cons]
  by_cases same : left = right <;> simp [same]

/-- What two versions have in common does not matter. -/
theorem compareParts_append (front lefts rights : List String) :
    compareParts (front ++ lefts) (front ++ rights) = compareParts lefts rights := by
  induction front with
  | nil => rfl
  | cons part front ih => rw [List.cons_append, List.cons_append, compareParts_cons, if_pos rfl, ih]

theorem compareParts_of_undecided {front : List String} {part : String} {parts : List String}
    (undecided : Undecided front part parts) (rest : List String) :
    compareParts (front ++ part :: rest) parts = .eq := by
  obtain ⟨other, others, rfl, different, tied⟩ := undecided
  rw [compareParts_append, compareParts_cons, if_neg different]
  exact compareDifferent_eq_eq_iff.mpr tied

theorem Undecided.cons {front : List String} {part : String} {parts : List String}
    (undecided : Undecided front part parts) (first : String) :
    Undecided (first :: front) part (first :: parts) := by
  obtain ⟨other, rest, rfl, apart⟩ := undecided
  exact ⟨other, rest, rfl, apart⟩

theorem undecided_nil {part other : String} {rest : List String} (different : part ≠ other)
    (tied : compareDifferent part other = .eq) : Undecided [] part (other :: rest) :=
  ⟨other, rest, rfl, different, compareDifferent_eq_eq_iff.mp tied⟩

/-- Parts that tie with two lists of which one is below the other leave both at one place: left at
different places, these two would tie. -/
theorem exists_undecided_of_tied {first second third : List String}
    (lower : compareParts second first = .eq) (upper : compareParts second third = .eq)
    (below : compareParts third first = .lt) :
    ∃ front part rest, second = front ++ part :: rest ∧ Undecided front part first ∧
      Undecided front part third := by
  induction second generalizing first third with
  | nil =>
      cases first with
      | nil => cases third <;> cases below
      | cons => cases lower
  | cons part second ih =>
      cases first with
      | nil => cases lower
      | cons left first =>
          cases third with
          | nil => cases upper
          | cons right third =>
              rcases compareParts_cons_eq_eq_iff.mp lower with ⟨rfl, lowerRest⟩ | leftTies
              · rcases compareParts_cons_eq_eq_iff.mp upper with ⟨rfl, upperRest⟩ | rightTies
                · rw [compareParts_cons, if_pos rfl] at below
                  obtain ⟨front, next, rest, rfl, inFirst, inThird⟩ := ih lowerRest upperRest below
                  exact ⟨part :: front, next, rest, rfl, inFirst.cons part, inThird.cons part⟩
                · rw [compareParts_swap, compareParts_cons_eq_eq_iff.mpr (.inr rightTies)] at below
                  cases below
              · rcases compareParts_cons_eq_eq_iff.mp upper with ⟨rfl, -⟩ | rightTies
                · rw [compareParts_cons_eq_eq_iff.mpr (.inr leftTies)] at below
                  cases below
                · exact ⟨[], part, second, rfl, undecided_nil leftTies.1 leftTies.2,
                    undecided_nil rightTies.1 rightTies.2⟩

end Version

namespace LibProfile

/-- Three profiles of one library, of which the third is below the first, while the version of the
second leaves both others at one place and can be ordered against neither there. -/
structure Straddles (first second third : LibProfile) : Prop where
  below : third.compare first = .lt
  fromFirst : second.description.name = first.description.name
  fromThird : second.description.name = third.description.name
  undecided : ∃ front part rest,
    Version.parts second.description.versionText = front ++ part :: rest ∧
      Version.Undecided front part (Version.parts first.description.versionText) ∧
      Version.Undecided front part (Version.parts third.description.versionText)

variable {first second third : LibProfile}

theorem compare_eq_eq_iff {left right : LibProfile} :
    left.compare right = .eq ↔ left.description.name = right.description.name ∧
      Version.compare left.description.versionText right.description.versionText = .eq := by
  rw [compare, Ordering.then_eq_eq, Std.LawfulEqCmp.compare_eq_iff_eq]

theorem compare_eq_gt_iff {left right : LibProfile} :
    left.compare right = .gt ↔ right.compare left = .lt := by
  rw [compare_swap left right]
  cases left.compare right <;> decide

/-- Profiles that are not above each other tie when the last is below the first. -/
theorem tied_of_below (lower : first.compare second ≠ .gt) (upper : second.compare third ≠ .gt)
    (below : third.compare first = .lt) :
    second.compare first = .eq ∧ second.compare third = .eq := by
  constructor
  · rw [compare_swap first second]
    cases order : first.compare second with
    | lt => exact absurd (compare_eq_gt_iff.mpr (compare_trans below order)) upper
    | eq => rfl
    | gt => exact absurd order lower
  · cases order : second.compare third with
    | lt => exact absurd (compare_eq_gt_iff.mpr (compare_trans order below)) lower
    | eq => rfl
    | gt => exact absurd order upper

theorem Straddles.tied (straddles : Straddles first second third) :
    second.compare first = .eq ∧ second.compare third = .eq := by
  obtain ⟨front, part, rest, parts, inFirst, inThird⟩ := straddles.undecided
  constructor
  · rw [compare_eq_eq_iff, Version.compare, parts]
    exact ⟨straddles.fromFirst, Version.compareParts_of_undecided inFirst rest⟩
  · rw [compare_eq_eq_iff, Version.compare, parts]
    exact ⟨straddles.fromThird, Version.compareParts_of_undecided inThird rest⟩

theorem straddles_of_tied (lower : second.compare first = .eq) (upper : second.compare third = .eq)
    (below : third.compare first = .lt) : Straddles first second third := by
  obtain ⟨fromFirst, lower⟩ := compare_eq_eq_iff.mp lower
  obtain ⟨fromThird, upper⟩ := compare_eq_eq_iff.mp upper
  have belowVersion : Version.compare third.description.versionText
      first.description.versionText = .lt := by
    rcases compare_eq_lt_iff.mp below with low | ⟨-, belowVersion⟩
    · rw [← fromThird, fromFirst] at low
      exact absurd low (String.lt_irrefl _)
    · exact belowVersion
  exact ⟨below, fromFirst, fromThird, Version.exists_undecided_of_tied lower upper belowVersion⟩

/-- The order of profiles is turned round with its arguments, and it is transitive but for one case:
a profile that is not above the second, which is not above the third, is above the third exactly
when the second's version leaves both others at one place, where it cannot be ordered against them.
Then the second profile ties with both, so neither may be below it. -/
theorem compare_is_transitive_unless (first second third : LibProfile) :
    second.compare first = (first.compare second).swap ∧
    (first.compare second ≠ .gt ∧ second.compare third ≠ .gt ∧ first.compare third = .gt ↔
      Straddles first second third) ∧
    (Straddles first second third → first.compare second = .eq ∧ second.compare third = .eq) := by
  refine ⟨compare_swap first second, ⟨?_, ?_⟩, ?_⟩
  · rintro ⟨lower, upper, above⟩
    have below := compare_eq_gt_iff.mp above
    obtain ⟨lower, upper⟩ := tied_of_below lower upper below
    exact straddles_of_tied lower upper below
  · intro straddles
    obtain ⟨lower, upper⟩ := straddles.tied
    rw [compare_swap second first, lower, upper]
    exact ⟨nofun, nofun, compare_eq_gt_iff.mpr straddles.below⟩
  · intro straddles
    obtain ⟨lower, upper⟩ := straddles.tied
    exact ⟨by rw [compare_swap second first, lower]; rfl, upper⟩

/-- All parts are numbers, one of them with a zero in front. No two neighbours are in the wrong
order, so that a catalog keeps them as they are, and the first is above the last. -/
theorem compare_of_leading_zero :
    let profile (version : String) : LibProfile :=
      ⟨⟨"okhttp", .utilities, some version, none, none⟩, ⟨.mk "Root" 0 []⟩, []⟩
    (profile "1.2").compare (profile "01.5") ≠ .gt ∧
      (profile "01.5").compare (profile "1.0") ≠ .gt ∧
      (profile "1.2").compare (profile "1.0") = .gt ∧
      Catalog.ofProfiles .checked [profile "1.2", profile "01.5", profile "1.0"] =
        some ⟨[profile "1.2", profile "01.5", profile "1.0"]⟩ := by
  intro profile
  have first : (profile "1.2").compare (profile "01.5") = .eq := by decide +kernel
  have second : (profile "01.5").compare (profile "1.0") = .eq := by decide +kernel
  refine ⟨first ▸ nofun, second ▸ nofun, by decide +kernel, ?_⟩
  have back := compare_swap (profile "1.2") (profile "01.5")
  have forth := compare_swap (profile "01.5") (profile "1.0")
  rw [first] at back
  rw [second] at forth
  rw [Catalog.ofProfiles_of_sortable _ (.inl (by simp))]
  simp [Catalog.inserted, Catalog.insertLast, back, forth]

end LibProfile

end LibPrint
