import LibPrint.Proofs.Library.Catalog
import LibPrint.Proofs.Library.Date
import LibPrint.Proofs.Text

/-!
# Versions made of numbers

A version that consists of decimal numbers stands for the list of these numbers, and versions are in
the order of the lists: by the first number in which they differ, a proper start before what it is a
start of. Different lists never tie. So a catalog of such versions has one order, whatever the order
in which its profiles are given.
-/

namespace LibPrint

theorem Number.natural?_toString {number : Nat} (bounded : number < 2 ^ 64) :
    natural? (toString number) = some number := by
  have digits : (toString number).toList = Nat.toDigits 10 number := Nat.toList_repr
  have occupied : (Nat.toDigits 10 number).isEmpty = false :=
    List.isEmpty_eq_false_iff.mpr Nat.toDigits_ne_nil
  have isDigit : ∀ character ∈ Nat.toDigits 10 number, character.isDigit = true :=
    fun _ member => Nat.isDigit_of_mem_toDigits (by decide) (by decide) member
  have value : decimal? (Nat.toDigits 10 number) = some number := by
    rw [decimal?, occupied, List.all_eq_true.mpr isDigit]
    simp [value_eq_ofDigitChars, Nat.ofDigitChars_toDigits]
  have small : number ≤ maxNatural := Nat.le_sub_one_of_lt bounded
  simp only [natural?, digits]
  split
  · next rest signed =>
    have plus := isDigit '+' (by rw [signed]; exact List.mem_cons_self)
    exact absurd plus (by decide)
  · rw [value, Option.filter_some, if_pos (decide_eq_true small)]

theorem Number.toString_inj {left right : Nat} : toString left = toString right ↔ left = right := by
  constructor
  · intro same
    have digits : Nat.toDigits 10 left = Nat.toDigits 10 right := by
      rw [← Nat.toList_repr, ← Nat.toList_repr]
      exact congrArg String.toList same
    have numbers := congrArg (Nat.ofDigitChars 10 · 0) digits
    simpa [Nat.ofDigitChars_toDigits] using numbers
  · exact congrArg _

namespace Version

/-- The version is made of these numbers: their decimal notations, with points between them. -/
structure Spells (version : String) (numbers : List Nat) : Prop where
  text : version = ".".intercalate (numbers.map toString)
  occupied : numbers ≠ []
  bounded : ∀ number ∈ numbers, number < 2 ^ 64

instance (version : String) (numbers : List Nat) : Decidable (Spells version numbers) :=
  decidable_of_iff (version = ".".intercalate (numbers.map toString) ∧ numbers ≠ [] ∧
      ∀ number ∈ numbers, number < 2 ^ 64)
    ⟨fun ⟨text, occupied, bounded⟩ => ⟨text, occupied, bounded⟩,
      fun spells => ⟨spells.text, spells.occupied, spells.bounded⟩⟩

variable {version left right : String} {numbers lefts rights : List Nat}

theorem Spells.parts_eq (spells : Spells version numbers) :
    parts version = numbers.map toString := by
  have plain : ∀ part ∈ numbers.map fun number => Nat.toDigits 10 number, '.' ∉ part := by
    intro part member point
    obtain ⟨number, -, rfl⟩ := List.mem_map.mp member
    exact absurd (Nat.isDigit_of_mem_toDigits (by decide) (by decide) point) (by decide)
  have some : (numbers.map fun number => Nat.toDigits 10 number) ≠ [] := by
    simpa using spells.occupied
  have letters : version.toList =
      ['.'].intercalate (numbers.map fun number => Nat.toDigits 10 number) := by
    rw [spells.text, String.toList_intercalate, List.map_map]
    exact congrArg _ (List.map_congr_left fun number _ => Nat.toList_repr)
  rw [parts, Text.pieces, letters, List.splitOn_intercalate _ plain some, List.map_map]
  apply List.map_congr_left
  intro number _
  exact String.toList_inj.mp (by simp)

theorem compareDifferent_toString {left right : Nat} (leftSmall : left < 2 ^ 64)
    (rightSmall : right < 2 ^ 64) :
    compareDifferent (toString left) (toString right) = .lt ↔ left < right := by
  rw [compareDifferent_eq_lt_iff, Number.natural?_toString leftSmall,
    Number.natural?_toString rightSmall]
  simp

/-- Numbers decide in the order of their lists. -/
theorem compareParts_toString (leftsSmall : ∀ number ∈ lefts, number < 2 ^ 64)
    (rightsSmall : ∀ number ∈ rights, number < 2 ^ 64) :
    compareParts (lefts.map toString) (rights.map toString) = .lt ↔ lefts < rights := by
  induction lefts generalizing rights with
  | nil => cases rights <;> simp [compareParts]
  | cons left lefts ih =>
      cases rights with
      | nil => simp [compareParts]
      | cons right rights =>
          obtain ⟨leftSmall, leftsSmall⟩ := List.forall_mem_cons.mp leftsSmall
          obtain ⟨rightSmall, rightsSmall⟩ := List.forall_mem_cons.mp rightsSmall
          rw [List.map_cons, List.map_cons, compareParts_cons_eq_lt_iff, List.cons_lt_cons_iff,
            compareDifferent_toString leftSmall rightSmall, ih leftsSmall rightsSmall,
            Number.toString_inj]

theorem Spells.compare_eq_lt_iff (ofLeft : Spells left lefts) (ofRight : Spells right rights) :
    compare left right = .lt ↔ lefts < rights := by
  rw [compare, ofLeft.parts_eq, ofRight.parts_eq,
    compareParts_toString ofLeft.bounded ofRight.bounded]

/-- Versions made of numbers tie only when they are the same. -/
theorem Spells.eq_of_tied (ofLeft : Spells left lefts) (ofRight : Spells right rights)
    (tied : compare left right = .eq) : left = right := by
  have notBelow : ¬ lefts < rights := by
    rw [← ofLeft.compare_eq_lt_iff ofRight, tied]
    decide
  have notAbove : ¬ rights < lefts := by
    rw [← ofRight.compare_eq_lt_iff ofLeft, compare_swap left right, tied]
    decide
  have same : lefts = rights := List.le_antisymm notAbove notBelow
  rw [ofLeft.text, ofRight.text, same]

end Version

namespace Catalog

/-- The version of the profile is made of these numbers. -/
def Numbered (profile : LibProfile) (numbers : List Nat) : Prop :=
  ∃ version, profile.description.version = some version ∧ Version.Spells version numbers

variable {profile left right : LibProfile} {lefts rights : List Nat}

theorem Numbered.spells (numbered : Numbered profile lefts) :
    Version.Spells profile.description.versionText lefts := by
  obtain ⟨version, given, spells⟩ := numbered
  rwa [Description.versionText, given]

theorem Numbered.version_eq (numbered : Numbered profile lefts) :
    profile.description.version = some profile.description.versionText := by
  obtain ⟨version, given, -⟩ := numbered
  rw [Description.versionText, given, Option.getD_some]

theorem Numbered.compare_eq_lt_iff (ofLeft : Numbered left lefts) (ofRight : Numbered right rights) :
    left.compare right = .lt ↔
      Text.encode left.description.name < Text.encode right.description.name ∨
        left.description.name = right.description.name ∧ lefts < rights := by
  rw [LibProfile.compare_eq_lt_iff, ofLeft.spells.compare_eq_lt_iff ofRight.spells,
    Text.encode_lt_encode_iff]

/-- Profiles that tie are of the same version of the same library. -/
theorem Numbered.identifier_eq (ofLeft : Numbered left lefts) (ofRight : Numbered right rights)
    (tied : left.compare right = .eq) :
    (left.description.name, left.description.version) =
      (right.description.name, right.description.version) := by
  rw [LibProfile.compare, Ordering.then_eq_eq, Std.LawfulEqCmp.compare_eq_iff_eq] at tied
  rw [ofLeft.version_eq, ofRight.version_eq, tied.1, ofLeft.spells.eq_of_tied ofRight.spells tied.2]

theorem ranked_of_numbered {profiles : List LibProfile} {numbers : LibProfile → List Nat}
    (numbered : ∀ profile ∈ profiles, Numbered profile (numbers profile))
    (distinct : (profiles.map fun profile =>
      (profile.description.name, profile.description.version)).Nodup) : Ranked profiles := by
  rw [List.Nodup, List.pairwise_map] at distinct
  refine distinct.imp_of_mem ?_
  intro left right isLeft isRight different tied
  exact different ((numbered left isLeft).identifier_eq (numbered right isRight) tied)

/-- Profiles whose versions are made of numbers, no library version being given twice, have a
catalog, and it is the same for every order in which they are given and however they are sorted. It
has the profiles in the order of the bytes of their names, those of one name in the order of their
numbers, and the latest version of a name is one that no other is above in this order. -/
theorem ofProfiles_of_numbered {profiles : List LibProfile} {numbers : LibProfile → List Nat}
    (numbered : ∀ profile ∈ profiles, Numbered profile (numbers profile))
    (distinct : (profiles.map fun profile =>
      (profile.description.name, profile.description.version)).Nodup) :
    ∃ catalog : Catalog,
      (∀ (sorting : Sorting) (others : List LibProfile), others.Perm profiles →
        ofProfiles sorting others = some catalog) ∧
      catalog.profiles.Perm profiles ∧
      catalog.profiles.Pairwise (fun left right =>
        Text.encode left.description.name < Text.encode right.description.name ∨
          left.description.name = right.description.name ∧ numbers left < numbers right) ∧
      ∀ profile ∈ profiles, ∃ latest ∈ profiles,
        latest.description.name = profile.description.name ∧
          catalog.latest? profile.description.name = latest.description.version ∧
          ∀ other ∈ profiles, other.description.name = profile.description.name →
            ¬ numbers latest < numbers other := by
  have ranked := ranked_of_numbered numbered distinct
  have sorted (sorting : Sorting) (others : List LibProfile) (same : others.Perm profiles) :
      ofProfiles sorting others = some ⟨inserted profiles⟩ := by
    have rankedToo := ranked.of_perm same.symm
    rw [ofProfiles_of_sortable _ (.inr rankedToo.transitive), rankedToo.inserted_eq_of_perm same]
  have perm := inserted_perm profiles
  refine ⟨_, sorted, perm, ?_, ?_⟩
  · refine ranked.inserted_ascends.imp_of_mem ?_
    intro left right isLeft isRight below
    have ofLeft := numbered left (perm.mem_iff.mp isLeft)
    exact (ofLeft.compare_eq_lt_iff (numbered right (perm.mem_iff.mp isRight))).mp below
  · intro profile member
    obtain ⟨latest, inProfiles, named, isLatest, unsurpassed⟩ :=
      exists_latest (sorted .checked profiles (.refl _)) member
    refine ⟨latest, inProfiles, named, ?_, ?_⟩
    · rw [isLatest, (numbered latest inProfiles).version_eq]
    · intro other isOther namedToo above
      apply unsurpassed other isOther
      refine ⟨namedToo.trans named.symm, Version.compare_eq_gt_iff.mpr ?_⟩
      exact ((numbered latest inProfiles).spells.compare_eq_lt_iff
        (numbered other isOther).spells).mpr above

/-- Numbers of more than one digit, and a version that another one begins with. -/
theorem ofProfiles_of_numbered_longer :
    let profile (name version : String) : LibProfile :=
      ⟨⟨name, .utilities, some version, none, none⟩, ⟨.mk "Root" 0 []⟩, []⟩
    let numbers (profile : LibProfile) : List Nat :=
      (Version.parts profile.description.versionText).filterMap Number.natural?
    let profiles := [profile "okhttp" "3.10.0", profile "gson" "2.8", profile "okhttp" "3.9",
      profile "okhttp" "3.10"]
    (∀ profile ∈ profiles, Numbered profile (numbers profile)) ∧
      (profiles.map fun profile =>
        (profile.description.name, profile.description.version)).Nodup ∧
      ∃ catalog, ofProfiles .checked profiles = some catalog ∧
        ofProfiles .checked profiles.reverse = some catalog ∧
        ∃ latest ∈ profiles, catalog.latest? "okhttp" = latest.description.version ∧
          ¬ numbers latest < numbers (profile "okhttp" "3.10.0") := by
  intro profile numbers profiles
  have spells : ∀ profile ∈ profiles,
      Version.Spells profile.description.versionText (numbers profile) := by
    decide +kernel
  have versions : ∀ profile ∈ profiles,
      profile.description.version = some profile.description.versionText := by
    decide +kernel
  have numbered : ∀ profile ∈ profiles, Numbered profile (numbers profile) :=
    fun profile member => ⟨_, versions profile member, spells profile member⟩
  have distinct : (profiles.map fun profile =>
      (profile.description.name, profile.description.version)).Nodup := by
    decide +kernel
  obtain ⟨catalog, sorted, -, -, latest⟩ := ofProfiles_of_numbered numbered distinct
  obtain ⟨latest, inProfiles, -, isLatest, greatest⟩ :=
    latest (profile "okhttp" "3.10.0") List.mem_cons_self
  refine ⟨numbered, distinct, catalog, sorted .checked _ (.refl _),
    sorted .checked _ (List.reverse_perm profiles), latest, inProfiles, isLatest, ?_⟩
  exact greatest _ List.mem_cons_self rfl

end Catalog

end LibPrint
