import LibPrint.Proofs.Library.Catalog
import Mathlib.Tactic.ByContra

/-!
# Deprecated profiles

A profile counts as deprecated when the text of its version is not that of the latest one. Every
profile that is superseded does, and so does one whose version ties with the latest without being
it, although nothing is newer: which of several tied versions is the latest is a matter of their
order. None of this depends on how the profiles were sorted.
-/

namespace LibPrint.Catalog

/-- The versions differ, and neither is above the other. -/
def Ties (left right : LibProfile) : Prop :=
  left.description.versionText ≠ right.description.versionText ∧
    Version.compare left.description.versionText right.description.versionText = .eq

instance (left right : LibProfile) : Decidable (Ties left right) :=
  inferInstanceAs (Decidable (_ ∧ _))

variable {sorting : Sorting} {profiles : List LibProfile} {catalog : Catalog}
  {profile latest other : LibProfile}

theorem isDeprecated_iff_ne (isLatest :
      catalog.latest? profile.description.name = some latest.description.versionText) :
    catalog.isDeprecated profile = true ↔
      latest.description.versionText ≠ profile.description.versionText := by
  rw [isDeprecated, isLatest, bne_iff_ne]

/-- A superseded profile is not of the latest version, as nothing supersedes that one. -/
theorem ne_of_superseded (named : latest.description.name = profile.description.name)
    (unsurpassed : Unsurpassed profiles latest) (member : other ∈ profiles)
    (supersedes : Supersedes other profile) :
    latest.description.versionText ≠ profile.description.versionText := by
  intro same
  apply unsurpassed other member
  exact ⟨supersedes.1.trans named.symm, same ▸ supersedes.2⟩

/-- A profile is not of the latest version when that one is above it, or ties with it. -/
theorem ne_iff_superseded_or_ties (member : profile ∈ profiles) (inProfiles : latest ∈ profiles)
    (named : latest.description.name = profile.description.name)
    (unsurpassed : Unsurpassed profiles latest) :
    latest.description.versionText ≠ profile.description.versionText ↔
      (∃ other ∈ profiles, Supersedes other profile) ∨ Ties latest profile := by
  constructor
  · intro different
    cases order : Version.compare latest.description.versionText
        profile.description.versionText with
    | lt =>
        have supersedes : Supersedes profile latest :=
          ⟨named.symm, Version.compare_eq_gt_iff.mpr order⟩
        exact absurd supersedes (unsurpassed profile member)
    | eq => exact .inr ⟨different, order⟩
    | gt => exact .inl ⟨latest, inProfiles, named, order⟩
  · rintro (⟨other, isOther, supersedes⟩ | ties)
    · exact ne_of_superseded named unsurpassed isOther supersedes
    · exact ties.1

/-- A catalog calls those of the profiles deprecated that another one supersedes, and no others. -/
def FlagsSuperseded (catalog : Catalog) (profiles : List LibProfile) : Prop :=
  ∀ profile ∈ profiles, catalog.isDeprecated profile = true ↔
    ∃ other ∈ profiles, Supersedes other profile

/-- Where the flag is right, a profile that nothing supersedes is of the latest version. -/
theorem FlagsSuperseded.latest?_eq (flags : catalog.FlagsSuperseded profiles)
    (sorted : ofProfiles sorting profiles = some catalog) (member : profile ∈ profiles)
    (unsurpassed : Unsurpassed profiles profile) :
    catalog.latest? profile.description.name = some profile.description.versionText := by
  obtain ⟨latest, -, -, isLatest, -⟩ := exists_latest sorted member
  rw [isLatest]
  by_contra different
  have deprecated : catalog.isDeprecated profile = true :=
    (isDeprecated_iff_ne isLatest).mpr fun same => different (congrArg some same)
  obtain ⟨other, isOther, supersedes⟩ := (flags profile member).mp deprecated
  exact unsurpassed other isOther supersedes

/-- The flag is right when only one version of each name is not superseded. -/
theorem flagsSuperseded_of_single (sorted : ofProfiles sorting profiles = some catalog)
    (single : ∀ first ∈ profiles, ∀ second ∈ profiles,
      first.description.name = second.description.name →
        Unsurpassed profiles first → Unsurpassed profiles second →
          first.description.versionText = second.description.versionText) :
    catalog.FlagsSuperseded profiles := by
  intro profile member
  obtain ⟨latest, inProfiles, named, isLatest, unsurpassed⟩ := exists_latest sorted member
  rw [isDeprecated_iff_ne isLatest]
  constructor
  · intro different
    by_contra none
    apply different
    apply single latest inProfiles profile member named unsurpassed
    exact fun other isOther supersedes => none ⟨other, isOther, supersedes⟩
  · rintro ⟨other, isOther, supersedes⟩
    exact ne_of_superseded named unsurpassed isOther supersedes

/-- Profiles that can be sorted have a catalog. The profiles that a catalog calls deprecated are
those that another one supersedes, and those whose version ties with the latest of their name; the
latest is one that nothing supersedes. So the flag says that a newer version exists, for every
profile, exactly when the profiles of a name that nothing supersedes are all of one version. -/
theorem isDeprecated_ofProfiles (sorting : Sorting) (profiles : List LibProfile) :
    (Sortable profiles → ∃ catalog, ofProfiles sorting profiles = some catalog) ∧
    ∀ catalog, ofProfiles sorting profiles = some catalog →
      (∀ profile ∈ profiles, ∃ latest ∈ profiles,
        latest.description.name = profile.description.name ∧
          catalog.latest? profile.description.name = some latest.description.versionText ∧
          Unsurpassed profiles latest ∧
          (catalog.isDeprecated profile = true ↔
            (∃ other ∈ profiles, Supersedes other profile) ∨ Ties latest profile)) ∧
      ((∀ profile ∈ profiles, catalog.isDeprecated profile = true ↔
          ∃ other ∈ profiles, Supersedes other profile) ↔
        ∀ first ∈ profiles, ∀ second ∈ profiles,
          first.description.name = second.description.name →
            Unsurpassed profiles first → Unsurpassed profiles second →
              first.description.versionText = second.description.versionText) := by
  refine ⟨fun sortable => ⟨_, ofProfiles_of_sortable sorting sortable⟩, fun catalog sorted => ?_⟩
  refine ⟨?_, ?_, ?_⟩
  · intro profile member
    obtain ⟨latest, inProfiles, named, isLatest, unsurpassed⟩ := exists_latest sorted member
    refine ⟨latest, inProfiles, named, isLatest, unsurpassed, ?_⟩
    rw [isDeprecated_iff_ne isLatest]
    exact ne_iff_superseded_or_ties member inProfiles named unsurpassed
  · intro flags first isFirst second isSecond named firstTop secondTop
    have ofFirst := FlagsSuperseded.latest?_eq flags sorted isFirst firstTop
    have ofSecond := FlagsSuperseded.latest?_eq flags sorted isSecond secondTop
    rw [← named, ofFirst] at ofSecond
    exact Option.some.inj ofSecond
  · exact flagsSuperseded_of_single sorted

/-- A candidate and its release, an older version, and a profile without a version: nothing is newer
than the release, and it is deprecated nevertheless. -/
theorem isDeprecated_ofProfiles_mixed :
    let profile (version : Option String) : LibProfile :=
      ⟨⟨"okhttp", .utilities, version, none, none⟩, ⟨.mk "Root" 0 []⟩, []⟩
    let profiles := [profile (some "3.0-rc1"), profile (some "2.9"), profile (some "3.0"),
      profile none]
    Sortable profiles ∧ profile (some "3.0") ∈ profiles ∧
      (¬ ∃ other ∈ profiles, Supersedes other (profile (some "3.0"))) ∧
      ∃ catalog, ofProfiles .checked profiles = some catalog ∧
        catalog.isDeprecated (profile (some "3.0")) = true ∧
        ¬ ∀ profile ∈ profiles, catalog.isDeprecated profile = true ↔
          ∃ other ∈ profiles, Supersedes other profile := by
  intro profile profiles
  have sortable : Sortable profiles := .inl (by decide)
  have member : profile (some "3.0") ∈ profiles := by simp [profiles]
  have newest : ¬ ∃ other ∈ profiles, Supersedes other (profile (some "3.0")) := by
    decide +kernel
  have candidate : latestAmong? (inserted profiles) "okhttp" = some "3.0-rc1" := by
    decide +kernel
  obtain ⟨exists_catalog, flags⟩ := isDeprecated_ofProfiles .checked profiles
  obtain ⟨catalog, sorted⟩ := exists_catalog sortable
  obtain rfl : ⟨inserted profiles⟩ = catalog :=
    Option.some.inj ((ofProfiles_of_sortable _ sortable).symm.trans sorted)
  obtain ⟨each, -⟩ := flags _ sorted
  obtain ⟨latest, -, -, isLatest, -, flagged⟩ := each _ member
  have text : latest.description.versionText = "3.0-rc1" :=
    Option.some.inj (isLatest.symm.trans candidate)
  have ties : Ties latest (profile (some "3.0")) := by
    rw [Ties, text]
    decide +kernel
  have deprecated := flagged.mpr (.inr ties)
  exact ⟨sortable, member, newest, _, sorted, deprecated,
    fun agree => newest ((agree _ member).mp deprecated)⟩

/-- The release of a version is deprecated because of its candidate, and nothing is newer. -/
theorem isDeprecated_of_candidate :
    let profile (version : String) : LibProfile :=
      ⟨⟨"okhttp", .utilities, some version, none, none⟩, ⟨.mk "Root" 0 []⟩, []⟩
    let profiles := [profile "3.0-rc1", profile "3.0"]
    profile "3.0" ∈ profiles ∧
      ∃ catalog, ofProfiles .checked profiles = some catalog ∧
        ¬ (catalog.isDeprecated (profile "3.0") = true ↔
          ∃ other ∈ profiles, Supersedes other (profile "3.0")) := by
  intro profile profiles
  have sortable : Sortable profiles := .inl (by decide)
  have newer : ¬ ∃ other ∈ profiles, Supersedes other (profile "3.0") := by
    decide +kernel
  have deprecated : Catalog.isDeprecated ⟨inserted profiles⟩ (profile "3.0") = true := by
    decide +kernel
  exact ⟨List.mem_cons_of_mem _ List.mem_cons_self, _, ofProfiles_of_sortable _ sortable,
    fun agree => newer (agree.mp deprecated)⟩

end LibPrint.Catalog
