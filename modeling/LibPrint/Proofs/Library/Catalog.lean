import LibPrint.Library.Catalog
import LibPrint.Library.Profile
import LibPrint.Proofs.Text
import Mathlib.Data.List.Pairwise

/-!
# Order of versions and catalogs

How versions compare, and what that makes of a catalog.
-/

/-!
## Order of versions

Which of two versions is above the other does not depend on which of them is named first, and what
is below a version is below all that is above it. Versions that tie are another matter: a version
with letters may tie with two that do not tie with each other.
-/

namespace LibPrint.Version

theorem compareDifferent_self (part : String) : compareDifferent part part = .eq := by
  unfold compareDifferent
  cases Number.natural? part with
  | none => rfl
  | some number => exact Nat.compare_eq_eq.mpr rfl

/-- Only numbers are below others. -/
theorem compareDifferent_eq_lt_iff {left right : String} :
    compareDifferent left right = .lt ↔
      ∃ low ∈ Number.natural? left, ∃ high ∈ Number.natural? right, low < high := by
  unfold compareDifferent
  cases Number.natural? left with
  | none => simp
  | some left =>
      cases Number.natural? right with
      | none => simp
      | some right => simp [Nat.compare_eq_lt]

theorem compareDifferent_trans {first second third : String}
    (lower : compareDifferent first second = .lt) (upper : compareDifferent second third = .lt) :
    compareDifferent first third = .lt := by
  obtain ⟨low, isLow, middle, isMiddle, below⟩ := compareDifferent_eq_lt_iff.mp lower
  obtain ⟨same, isSame, high, isHigh, above⟩ := compareDifferent_eq_lt_iff.mp upper
  obtain rfl : middle = same := Option.some.inj (isMiddle.symm.trans isSame)
  exact compareDifferent_eq_lt_iff.mpr ⟨low, isLow, high, isHigh, Nat.lt_trans below above⟩

theorem compareParts_self (parts : List String) : compareParts parts parts = .eq := by
  induction parts with
  | nil => rfl
  | cons part parts ih => rw [compareParts_cons, if_pos rfl, ih]

/-- The first parts decide, or they are the same and leave it to the others. -/
theorem compareParts_cons_eq_lt_iff {left right : String} {lefts rights : List String} :
    compareParts (left :: lefts) (right :: rights) = .lt ↔
      compareDifferent left right = .lt ∨ left = right ∧ compareParts lefts rights = .lt := by
  rw [compareParts_cons]
  by_cases same : left = right
  · simp [same, compareDifferent_self]
  · simp [same]

theorem compareParts_trans {first second third : List String}
    (lower : compareParts first second = .lt) (upper : compareParts second third = .lt) :
    compareParts first third = .lt := by
  induction first generalizing second third with
  | nil =>
      cases third with
      | nil => cases second <;> cases upper
      | cons right third => rfl
  | cons left first ih =>
      cases second with
      | nil => cases lower
      | cons middle second =>
          cases third with
          | nil => cases upper
          | cons right third =>
              rw [compareParts_cons_eq_lt_iff] at lower upper ⊢
              rcases lower with low | ⟨rfl, lower⟩
              · rcases upper with high | ⟨rfl, -⟩
                · exact .inl (compareDifferent_trans low high)
                · exact .inl low
              · rcases upper with high | ⟨rfl, upper⟩
                · exact .inl high
                · exact .inr ⟨rfl, ih lower upper⟩

theorem compare_self (version : String) : compare version version = .eq :=
  compareParts_self _

theorem compare_trans {first second third : String} (lower : compare first second = .lt)
    (upper : compare second third = .lt) : compare first third = .lt :=
  compareParts_trans lower upper

/-- Being above is being below the other way round. -/
theorem compare_eq_gt_iff {left right : String} :
    compare left right = .gt ↔ compare right left = .lt := by
  rw [compare_swap right left]
  cases compare right left <;> decide

/-- The second version is the first one, or above it. -/
def Reaches (low high : String) : Prop :=
  low = high ∨ compare low high = .lt

theorem Reaches.below {low high top : String} (reaches : Reaches low high)
    (below : compare high top = .lt) : compare low top = .lt := by
  rcases reaches with rfl | lower
  · exact below
  · exact compare_trans lower below

theorem Reaches.not_above {low high : String} (reaches : Reaches low high) :
    compare high low ≠ .lt := by
  intro below
  have around := reaches.below below
  rw [compare_self] at around
  cases around

end LibPrint.Version

/-!
## What is in a catalog

A catalog has the profiles it was given. Where no two of them tie their order is transitive, so they
can be sorted and ascend, and nothing is left of the order in which they were given. The latest
version of a name is one of its versions, and none of them is above it; this holds for ties as well,
since being below is transitive.
-/

namespace LibPrint

namespace LibProfile

theorem compare_eq_lt_iff {left right : LibProfile} :
    left.compare right = .lt ↔ left.description.name < right.description.name ∨
      left.description.name = right.description.name ∧
        Version.compare left.description.versionText right.description.versionText = .lt := by
  rw [compare, Ordering.then_eq_lt, Std.LawfulEqCmp.compare_eq_iff_eq, Text.compare_eq_lt_iff]

theorem compare_trans {first second third : LibProfile} (lower : first.compare second = .lt)
    (upper : second.compare third = .lt) : first.compare third = .lt := by
  rw [compare_eq_lt_iff] at lower upper ⊢
  rcases lower with low | ⟨same, lower⟩
  · rcases upper with high | ⟨same, -⟩
    · exact .inl (String.lt_trans low high)
    · exact .inl (same ▸ low)
  · rcases upper with high | ⟨sameToo, upper⟩
    · exact .inl (same ▸ high)
    · exact .inr ⟨same.trans sameToo, Version.compare_trans lower upper⟩

end LibProfile

namespace Catalog

/-! ### The order of the profiles -/

section Order

variable {sorting : Sorting} {profiles left right : List LibProfile} {catalog : Catalog}

theorem Sortable.of_perm (sortable : Sortable left) (perm : left.Perm right) : Sortable right :=
  sortable.imp (fun few => perm.length_eq ▸ few) fun transitive =>
    transitive.subset perm.symm.subset

variable (sorting) in
/-- Profiles that can be sorted have a catalog. -/
theorem ofProfiles_of_sortable (sortable : Sortable profiles) :
    ofProfiles sorting profiles = some ⟨inserted profiles⟩ := by
  rw [ofProfiles, sorting.sort_of_sortable profiles sortable, Option.map_some]

/-- A catalog has the profiles it was given, however they were sorted. -/
theorem ofProfiles_perm (sorted : ofProfiles sorting profiles = some catalog) :
    catalog.profiles.Perm profiles := by
  obtain ⟨ascending, sorts, rfl⟩ := Option.map_eq_some_iff.mp sorted
  exact sorting.perm_of_sort profiles ascending sorts

/-- No two profiles tie: one is below the other. -/
def Ranked (profiles : List LibProfile) : Prop :=
  profiles.Pairwise fun left right => left.compare right ≠ .eq

theorem Ranked.of_perm (ranked : Ranked left) (perm : left.Perm right) : Ranked right := by
  refine perm.pairwise ranked ?_
  intro first second apart tied
  rw [LibProfile.compare_swap second first, tied] at apart
  exact apart rfl

theorem Ranked.eq_or_lt (ranked : Ranked profiles) {first second : LibProfile}
    (isFirst : first ∈ profiles) (isSecond : second ∈ profiles)
    (notAbove : first.compare second ≠ .gt) : first = second ∨ first.compare second = .lt := by
  have symmetric : Std.Symm fun left right : LibProfile => left.compare right ≠ .eq := by
    refine ⟨fun left right apart tied => apart ?_⟩
    rw [LibProfile.compare_swap right left, tied]
    rfl
  by_contra! neither
  cases order : first.compare second with
  | lt => exact neither.2 order
  | eq => exact List.Pairwise.forall ranked isFirst isSecond neither.1 order
  | gt => exact notAbove order

theorem Ranked.transitive (ranked : Ranked profiles) : Transitive profiles := by
  intro first isFirst second isSecond third isThird lower upper
  rcases ranked.eq_or_lt isFirst isSecond lower with rfl | lower
  · exact upper
  · rcases ranked.eq_or_lt isSecond isThird upper with rfl | upper
    · rw [lower]
      nofun
    · rw [LibProfile.compare_trans lower upper]
      nofun

/-- Profiles of which no two tie ascend when they are sorted. -/
theorem Ranked.inserted_ascends (ranked : Ranked profiles) :
    (inserted profiles).Pairwise fun left right => left.compare right = .lt := by
  have notAbove := Catalog.inserted_ascends ranked.transitive
  have apart := ranked.of_perm (inserted_perm profiles).symm
  refine (notAbove.and apart).imp ?_
  rintro left right ⟨notAbove, apart⟩
  cases order : left.compare right with
  | lt => rfl
  | eq => exact absurd order apart
  | gt => exact absurd order notAbove

/-- The order in which profiles are given does not matter when no two of them tie. -/
theorem Ranked.inserted_eq_of_perm (ranked : Ranked left) (perm : left.Perm right) :
    inserted left = inserted right := by
  apply List.Perm.eq_of_pairwise _ ranked.inserted_ascends (ranked.of_perm perm).inserted_ascends
  · exact (inserted_perm left).trans (perm.trans (inserted_perm right).symm)
  · intro first second _ _ below above
    rw [LibProfile.compare_swap first second, below] at above
    cases above

end Order

/-! ### The latest version -/

/-- The version that a choice ends with is one of those it was made from. It reaches the first one,
and so does whatever is above it, which is why nothing that was passed over is above it either. -/
theorem foldl_later (first : String) (versions : List String) :
    Version.Reaches first (versions.foldl later first) ∧
      versions.foldl later first ∈ first :: versions ∧
      ∀ version ∈ first :: versions,
        Version.compare (versions.foldl later first) version ≠ .lt := by
  induction versions generalizing first with
  | nil =>
      have itself : Version.Reaches first first := .inl rfl
      exact ⟨itself, List.mem_cons_self, by simpa using itself.not_above⟩
  | cons version versions ih =>
      rw [List.foldl_cons]
      obtain ⟨reaches, member, unsurpassed⟩ := ih (later first version)
      rw [List.forall_mem_cons] at unsurpassed
      by_cases newer : Version.compare first version = .lt
      · have chosen : later first version = version := if_pos newer
        rw [chosen] at reaches member unsurpassed ⊢
        have above : Version.Reaches first (versions.foldl later version) := by
          rcases reaches with same | below
          · exact .inr (same ▸ newer)
          · exact .inr (Version.compare_trans newer below)
        refine ⟨above, List.mem_cons_of_mem _ member, ?_⟩
        exact List.forall_mem_cons.mpr ⟨above.not_above, List.forall_mem_cons.mpr unsurpassed⟩
      · have kept : later first version = first := if_neg newer
        rw [kept] at reaches member unsurpassed ⊢
        have passed : Version.compare (versions.foldl later first) version ≠ .lt :=
          fun below => newer (reaches.below below)
        refine ⟨reaches, ?_, ?_⟩
        · rcases List.mem_cons.mp member with same | inside
          · exact List.mem_cons.mpr (.inl same)
          · exact List.mem_cons_of_mem _ (List.mem_cons_of_mem _ inside)
        · exact List.forall_mem_cons.mpr
            ⟨unsurpassed.1, List.forall_mem_cons.mpr ⟨passed, unsurpassed.2⟩⟩

/-- The profile is of the library that the other is of, and of a version above that one. -/
def Supersedes (other profile : LibProfile) : Prop :=
  other.description.name = profile.description.name ∧
    Version.compare other.description.versionText profile.description.versionText = .gt

instance (other profile : LibProfile) : Decidable (Supersedes other profile) :=
  inferInstanceAs (Decidable (_ ∧ _))

/-- None of the profiles supersedes this one. -/
def Unsurpassed (profiles : List LibProfile) (profile : LibProfile) : Prop :=
  ∀ other ∈ profiles, ¬ Supersedes other profile

/-- The latest version of a name is that of a profile which no other supersedes. -/
theorem exists_latestAmong? {profiles : List LibProfile} {profile : LibProfile}
    (member : profile ∈ profiles) :
    ∃ latest ∈ profiles, latest.description.name = profile.description.name ∧
      latestAmong? profiles profile.description.name = some latest.description.versionText ∧
        Unsurpassed profiles latest := by
  let namesakes := profiles.filter (·.description.name == profile.description.name)
  have inside {other : LibProfile} : other ∈ namesakes ↔
      other ∈ profiles ∧ other.description.name = profile.description.name := by
    rw [List.mem_filter, beq_iff_eq]
  obtain ⟨first, others, shape⟩ :=
    List.exists_cons_of_ne_nil (List.ne_nil_of_mem (inside.mpr ⟨member, rfl⟩))
  let version (other : LibProfile) : String := other.description.versionText
  obtain ⟨-, chosen, unsurpassed⟩ := foldl_later (version first) (others.map version)
  rw [← List.map_cons, ← shape] at chosen unsurpassed
  obtain ⟨latest, isNamesake, isLatest⟩ := List.mem_map.mp chosen
  obtain ⟨inProfiles, named⟩ := inside.mp isNamesake
  refine ⟨latest, inProfiles, named, ?_, ?_⟩
  · rw [latestAmong?, show profiles.filter _ = first :: others from shape, List.map_cons]
    exact congrArg some isLatest.symm
  · rintro other isOther ⟨namedToo, above⟩
    have isNamesakeToo := inside.mpr ⟨isOther, namedToo.trans named⟩
    apply unsurpassed (version other) (List.mem_map_of_mem isNamesakeToo)
    rw [← isLatest]
    exact Version.compare_eq_gt_iff.mp above

/-- The latest version of a profile's library is that of some profile which nothing supersedes. -/
theorem exists_latest {sorting : Sorting} {profiles : List LibProfile} {catalog : Catalog}
    {profile : LibProfile} (sorted : ofProfiles sorting profiles = some catalog)
    (member : profile ∈ profiles) :
    ∃ latest ∈ profiles, latest.description.name = profile.description.name ∧
      catalog.latest? profile.description.name = some latest.description.versionText ∧
      Unsurpassed profiles latest := by
  have perm := ofProfiles_perm sorted
  obtain ⟨latest, inCatalog, named, isLatest, unsurpassed⟩ :=
    exists_latestAmong? (perm.mem_iff.mpr member)
  refine ⟨latest, perm.mem_iff.mp inCatalog, named, isLatest, ?_⟩
  exact fun other isOther => unsurpassed other (perm.mem_iff.mpr isOther)

end Catalog

end LibPrint
