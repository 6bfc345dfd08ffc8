import LibPrint.Library.Profile

/-!
# Catalogs

The libraries that apps are compared with, in order of name and version, and which version of each
name is the latest. Versions that cannot be compared tie, and two that tie with a third one need not
tie with each other. So the order of profiles may be none that a sort can work with, and what a sort
makes of them then is left open.
-/

namespace LibPrint

/-- The known libraries. -/
structure Catalog where
  profiles : List LibProfile

namespace Catalog

/-! ## Sorting -/

/-- Puts a profile into a list with the last profiles first. It goes before, that is after in the
catalog's order, all profiles up to the first one it is not below. -/
def insertLast (profile : LibProfile) : List LibProfile → List LibProfile
  | [] => [profile]
  | last :: profiles =>
      if profile.compare last = .lt then last :: insertLast profile profiles
      else profile :: last :: profiles

/-- The profiles, each inserted into those before it. -/
def inserted (profiles : List LibProfile) : List LibProfile :=
  (profiles.foldl (fun sorted profile => insertLast profile sorted) []).reverse

/-- Being not above is transitive among the profiles. -/
def Transitive (profiles : List LibProfile) : Prop :=
  ∀ first ∈ profiles, ∀ second ∈ profiles, ∀ third ∈ profiles,
    first.compare second ≠ .gt → second.compare third ≠ .gt → first.compare third ≠ .gt

/-- A sort can be relied on: there are few profiles, or their order is transitive. -/
def Sortable (profiles : List LibProfile) : Prop :=
  profiles.length ≤ 20 ∨ Transitive profiles

/-- A stable sort of profiles by their order. Up to 20 of them are inserted one after the other, and
whenever their order is transitive the outcome is the same as if they were. Nothing is promised of
other lists: the sort may break down, or leave their profiles, all of them, in any order. -/
structure Sorting where
  sort : List LibProfile → Option (List LibProfile)
  sort_of_sortable : ∀ profiles, Sortable profiles → sort profiles = some (inserted profiles)
  perm_of_sort : ∀ profiles sorted, sort profiles = some sorted → sorted.Perm profiles

theorem insertLast_perm (profile : LibProfile) (profiles : List LibProfile) :
    (insertLast profile profiles).Perm (profile :: profiles) := by
  induction profiles with
  | nil => exact .refl _
  | cons last profiles ih =>
      rw [insertLast]
      split
      · exact (ih.cons last).trans (.swap _ _ _)
      · exact .refl _

/-- What is inserted one after the other is all there. -/
theorem foldl_insertLast_perm (profiles sorted : List LibProfile) :
    (profiles.foldl (fun sorted profile => insertLast profile sorted) sorted).Perm
      (profiles ++ sorted) := by
  induction profiles generalizing sorted with
  | nil => exact .refl _
  | cons profile profiles ih =>
      refine (ih _).trans ?_
      exact ((insertLast_perm profile sorted).append_left profiles).trans List.perm_middle

theorem inserted_perm (profiles : List LibProfile) : (inserted profiles).Perm profiles := by
  have sorted := foldl_insertLast_perm profiles []
  rw [List.append_nil] at sorted
  exact (List.reverse_perm _).trans sorted

theorem Transitive.subset {profiles others : List LibProfile} (transitive : Transitive profiles)
    (inside : others ⊆ profiles) : Transitive others :=
  fun _ first _ second _ third => transitive _ (inside first) _ (inside second) _ (inside third)

/-- The last profiles first. -/
def Descends (profiles : List LibProfile) : Prop :=
  profiles.Pairwise fun later earlier => earlier.compare later ≠ .gt

theorem Descends.insertLast {profile : LibProfile} {profiles : List LibProfile}
    (descends : Descends profiles) (transitive : Transitive (profile :: profiles)) :
    Descends (insertLast profile profiles) := by
  induction profiles with
  | nil => exact List.pairwise_singleton _ _
  | cons last profiles ih =>
      obtain ⟨below, descends⟩ := List.pairwise_cons.mp descends
      rw [Catalog.insertLast]
      split
      · next isBelow =>
        refine List.pairwise_cons.mpr ⟨?_, ih descends (transitive.subset ?_)⟩
        · intro other member
          rcases List.mem_cons.mp ((insertLast_perm profile profiles).subset member) with rfl | member
          · rw [isBelow]
            nofun
          · exact below other member
        · exact List.cons_subset_cons profile (List.subset_cons_self last profiles)
      · next notBelow =>
        have above : last.compare profile ≠ .gt := by
          rw [LibProfile.compare_swap profile last, ne_eq, Ordering.swap_eq_gt]
          exact notBelow
        refine List.pairwise_cons.mpr ⟨?_, List.pairwise_cons.mpr ⟨below, descends⟩⟩
        intro other member
        rcases List.mem_cons.mp member with rfl | member
        · exact above
        · exact transitive other (List.mem_cons_of_mem _ (List.mem_cons_of_mem _ member)) last
            (List.mem_cons_of_mem _ List.mem_cons_self) profile List.mem_cons_self
            (below other member) above

theorem descends_foldl_insertLast {profiles sorted : List LibProfile} (start : Descends sorted)
    (transitive : Transitive (profiles ++ sorted)) :
    Descends (profiles.foldl (fun sorted profile => insertLast profile sorted) sorted) := by
  induction profiles generalizing sorted with
  | nil => exact start
  | cons profile profiles ih =>
      have known : Transitive (profile :: sorted) :=
        transitive.subset (List.cons_subset_cons profile (List.subset_append_right _ _))
      refine ih (start.insertLast known) (transitive.subset ?_)
      have inserted := (insertLast_perm profile sorted).append_left profiles
      exact (inserted.trans List.perm_middle).subset

/-- Profiles ascend when they have been inserted, if their order is transitive. -/
theorem inserted_ascends {profiles : List LibProfile} (transitive : Transitive profiles) :
    (inserted profiles).Pairwise fun left right => left.compare right ≠ .gt := by
  rw [inserted, List.pairwise_reverse]
  exact descends_foldl_insertLast .nil (by rwa [List.append_nil])

/-- A sort that inserts the profiles, and breaks down when there are many and they are not in order
then. -/
def Sorting.checked : Sorting where
  sort profiles :=
    let sorted := inserted profiles
    if profiles.length ≤ 20 ∨ sorted.Pairwise (fun left right => left.compare right ≠ .gt) then
      some sorted
    else none
  sort_of_sortable _ sortable := if_pos (sortable.imp_right inserted_ascends)
  perm_of_sort profiles sorted sorts := by
    extract_lets ascending at sorts
    split at sorts
    · rw [← Option.some.inj sorts]
      exact inserted_perm profiles
    · cases sorts

/-- The catalog of the given profiles, if the sort does not break down. -/
def ofProfiles (sorting : Sorting) (profiles : List LibProfile) : Option Catalog :=
  (sorting.sort profiles).map .mk

/-! ## Latest versions -/

/-- The later of two versions, the first one when neither is. -/
def later (latest version : String) : String :=
  if Version.compare latest version = .lt then version else latest

/-- The latest version among the profiles of a name. -/
def latestAmong? (profiles : List LibProfile) (name : String) : Option String :=
  match (profiles.filter (·.description.name == name)).map (·.description.versionText) with
  | [] => none
  | version :: versions => some (versions.foldl later version)

/-- The names of the profiles, in order, each with its latest version. -/
def latestVersions (profiles : List LibProfile) : List (String × String) :=
  (Text.sortDistinct (profiles.map (·.description.name))).filterMap fun name =>
    (latestAmong? profiles name).map fun version => (name, version)

/-- The latest version of a library. -/
def latest? (catalog : Catalog) (name : String) : Option String :=
  latestAmong? catalog.profiles name

/-- Whether the catalog's latest version of the library is another one. -/
def isDeprecated (catalog : Catalog) (profile : LibProfile) : Bool :=
  match catalog.latest? profile.description.name with
  | none => false
  | some version => version != profile.description.versionText

end Catalog

end LibPrint
