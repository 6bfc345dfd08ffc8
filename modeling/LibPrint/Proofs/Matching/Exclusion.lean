import LibPrint.Proofs.Matching.Outcome
import LibPrint.Proofs.Matching.Relocation
import Mathlib.Data.List.Sort

/-!
# The app's own packages

An app's own packages are no candidates, and a partition with nothing else in it is skipped. They
could as well be left out of the app, but for one thing that all packages have a say in: whether the
library stands at its own root package. An app with own packages there, and no others, is searched
at that root alone, where nothing can be found.
-/

namespace LibPrint.Matching

open Package (isWithin)

/-- The nodes without the packages at or below the given one. -/
def outside (own : String) (packages : List Node) : List Node :=
  packages.filter fun node => !node.packageName?.any fun name => isWithin name own

/-- The package has an ancestor, as deep as the library's root package, that is within it. -/
def AtRoot (libRoot name : String) : Prop :=
  ∃ ancestor, Package.ancestorAt? name (Package.depth libRoot) = some ancestor ∧
    isWithin ancestor libRoot = true

/-- The library's root package is there in the app, but nothing stands at or below it except the
app's own packages. -/
structure OwnsRoot (own libRoot : String) (app : HashTree) : Prop where
  present : ∃ name ∈ app.packageNames, AtRoot libRoot name
  alone : ∀ name ∈ app.packageNames, AtRoot libRoot name → isWithin name own = true

/-- For names without empty segments being at the root is being within it. -/
theorem atRoot_iff_isWithin {libRoot name : String} (rootValid : Package.IsName libRoot)
    (valid : Package.IsName name) : AtRoot libRoot name ↔ isWithin name libRoot = true := by
  have occupied : 0 < (Package.segments libRoot).length := Package.depth_pos rootValid
  constructor
  · rintro ⟨ancestor, cut, within⟩
    cases nested : isWithin name libRoot with
    | true => rfl
    | false => rw [not_isWithin_ancestor valid rootValid nested cut] at within; exact within
  · intro within
    obtain ⟨rest, below⟩ := exists_below rootValid valid within
    refine ⟨libRoot, ?_, ?_⟩
    · rw [Package.ancestorAt?, below.segments, Package.depth, Package.depth, List.take_left,
        Package.join_segments rootValid, if_neg]
      rw [below.segments, List.length_append]
      omega
    · exact (Package.isWithin_iff_prefix rootValid rootValid).mpr List.prefix_rfl

section Stages

variable {own libRoot : String} {packages lib : List Node}

/-! ## What is the same without them -/

theorem eligible_outside (own : String) (packages : List Node) :
    eligible (some own) (outside own packages) = eligible (some own) packages := by
  rw [eligible, eligible, outside, List.filterMap_filter]
  apply List.filterMap_congr
  intro node _
  cases named : node.packageName? with
  | none => simp
  | some name => cases within : isWithin name own <;> simp [within]

theorem candidateLists_outside (lib : List Node) (own : String) (packages : List Node) :
    candidateLists lib (outside own packages) (some own) =
      candidateLists lib packages (some own) := by
  rw [candidateLists, candidateLists, eligible_outside]

theorem mem_ancestors_of_outside {partition : String}
    (member : partition ∈ ancestors (outside own packages) libRoot) :
    partition ∈ ancestors packages libRoot := by
  obtain ⟨node, kept, found⟩ := mem_ancestors.mp member
  exact mem_ancestors.mpr ⟨node, List.mem_of_mem_filter kept, found⟩

/-! ## Partitions that count -/

/-- In a partition that is not skipped there is a candidate. -/
theorem exists_fits_of_alignPartition? {lists : List CandidateList} {partition : String}
    {found : PartitionMatch} (aligned : alignPartition? lists partition = some found) :
    ∃ list ∈ lists, ∃ candidate ∈ list.candidates,
      fits partition list.package candidate = true := by
  obtain ⟨-, restricted, kept, -, best⟩ := alignPartition?_eq_some_iff.mp aligned
  obtain ⟨counter, optimal, -⟩ := exists_optimal_of_align best
  obtain ⟨candidate, picked⟩ := exists_pick_of_above optimal.above
  obtain ⟨candidates, isList, isPick⟩ :=
    exists_mem_left_of_forall₂ (forall₂_isPick_picks optimal.admissible.counts) picked
  obtain ⟨-, rfl, -⟩ := restrict?_eq_some_iff.mp kept
  obtain ⟨list, member, rfl⟩ := List.mem_map.mp isList
  obtain ⟨proposed, fit⟩ := List.mem_filter.mp isPick
  exact ⟨list, member, candidate, proposed, fit⟩

/-- A partition that is not skipped is the ancestor of a package that is not the app's own. -/
theorem exists_spared_of_alignPartition? {partition : String} {found : PartitionMatch}
    (member : partition ∈ ancestors packages libRoot)
    (aligned : alignPartition? (candidateLists lib packages (some own)) partition = some found) :
    ∃ node ∈ packages, ∃ name, node.packageName? = some name ∧ isWithin name own = false ∧
      Package.ancestorAt? name (Package.depth libRoot) = some partition := by
  obtain ⟨list, isList, candidate, proposed, fit⟩ := exists_fits_of_alignPartition? aligned
  obtain ⟨-, -, candidates⟩ := mem_candidateLists.mp isList
  rw [candidates] at proposed
  obtain ⟨isEligible, -, -⟩ := mem_candidatesFor.mp proposed
  obtain ⟨present, named, spared⟩ := mem_eligible.mp isEligible
  obtain ⟨within, -⟩ := Bool.and_eq_true_iff.mp fit
  obtain ⟨_, _, _, _, cut⟩ := mem_ancestors.mp member
  exact ⟨candidate.node, present, candidate.package, named, spared own rfl,
    Package.ancestorAt?_of_isWithin cut within⟩

/-- Such a partition is there without the app's own packages too. -/
theorem mem_ancestors_outside_of_alignPartition? {partition : String} {found : PartitionMatch}
    (member : partition ∈ ancestors packages libRoot)
    (aligned : alignPartition? (candidateLists lib packages (some own)) partition = some found) :
    partition ∈ ancestors (outside own packages) libRoot := by
  obtain ⟨node, present, name, named, spared, cut⟩ :=
    exists_spared_of_alignPartition? member aligned
  refine mem_ancestors.mpr ⟨node, List.mem_filter.mpr ⟨present, ?_⟩, name, named, cut⟩
  simp [named, spared]

end Stages

/-! ## The alignments -/

/-- Two ascending lists give the same results when they agree on the items that have one. -/
theorem filterMap_eq_of_mem_iff {α : Type} {left right : List String} {image : String → Option α}
    (leftOrdered : left.Pairwise (· < ·)) (rightOrdered : right.Pairwise (· < ·))
    (agree : ∀ item, (image item).isSome → (item ∈ left ↔ item ∈ right)) :
    left.filterMap image = right.filterMap image := by
  have useful (items : List String) :
      items.filterMap image = (items.filter fun item => (image item).isSome).filterMap image := by
    rw [List.filterMap_filter]
    apply List.filterMap_congr
    intro item _
    cases image item <;> rfl
  rw [useful left, useful right]
  congr 1
  apply List.Pairwise.eq_of_mem_iff (leftOrdered.filter _) (rightOrdered.filter _)
  intro item
  simp only [List.mem_filter]
  exact and_congr_left (agree item)

section Trees

variable {app rest lib : HashTree} {own libRoot : String} {fullOnly : Bool}

theorem alignments_of_outside (packages : rest.packages = outside own app.packages)
    (shared : ¬ OwnsRoot own libRoot app) :
    alignments ⟨some own, fullOnly⟩ rest lib libRoot =
      alignments ⟨some own, fullOnly⟩ app lib libRoot := by
  rw [alignments, alignments, packages, candidateLists_outside]
  apply filterMap_eq_of_mem_iff (pairwise_partitions _ _) (pairwise_partitions _ _)
  intro partition counts
  obtain ⟨found, aligned⟩ := Option.isSome_iff_exists.mp counts
  -- The root is preferred in both or in neither.
  have preferred : (∀ other ∈ ancestors (outside own app.packages) libRoot,
        isWithin other libRoot = false) ↔
      ∀ other ∈ ancestors app.packages libRoot, isWithin other libRoot = false := by
    constructor
    · intro none other member
      by_contra within
      rw [Bool.not_eq_false] at within
      obtain ⟨node, present, name, named, cut⟩ := mem_ancestors.mp member
      apply shared
      refine ⟨⟨name, mem_packageNames.mpr ⟨node, present, named⟩, other, cut, within⟩, ?_⟩
      rintro name isPackage ⟨ancestor, cut, within⟩
      obtain ⟨node, present, named⟩ := mem_packageNames.mp isPackage
      by_contra spared
      have kept : node ∈ outside own app.packages :=
        List.mem_filter.mpr ⟨present, by simp [named, spared]⟩
      have absent := none ancestor (mem_ancestors.mpr ⟨node, kept, name, named, cut⟩)
      rw [within] at absent
      cases absent
    · exact fun none other member => none other (mem_ancestors_of_outside member)
  rw [mem_partitions_iff, mem_partitions_iff, preferred]
  refine and_congr_left fun _ => ⟨mem_ancestors_of_outside, fun member => ?_⟩
  exact mem_ancestors_outside_of_alignPartition? member aligned

/-- No partition counts when only the app's own packages stand at the library's root. -/
theorem alignments_of_ownsRoot (owns : OwnsRoot own libRoot app) :
    alignments ⟨some own, fullOnly⟩ app lib libRoot = [] := by
  rw [alignments, List.filterMap_eq_nil_iff]
  intro partition member
  by_contra counts
  obtain ⟨found, aligned⟩ := Option.ne_none_iff_exists'.mp counts
  obtain ⟨isAncestor, preferred⟩ := mem_partitions_iff.mp member
  obtain ⟨name, isPackage, ancestor, cut, within⟩ := owns.present
  obtain ⟨node, present, named⟩ := mem_packageNames.mp isPackage
  have atRoot : isWithin partition libRoot = true := by
    rcases preferred with atRoot | none
    · exact atRoot
    · rw [none ancestor (mem_ancestors.mpr ⟨node, present, name, named, cut⟩)] at within
      cases within
  obtain ⟨node, present, name, named, spared, cut⟩ :=
    exists_spared_of_alignPartition? isAncestor aligned
  have isOwn := owns.alone name (mem_packageNames.mpr ⟨node, present, named⟩)
    ⟨partition, cut, atRoot⟩
  rw [spared] at isOwn
  cases isOwn

/-! ## The match -/

/-- What is left of the packages contains no more than all of them. -/
theorem contains_of_outside (packages : rest.packages = outside own app.packages)
    (contains : Contains rest lib) : Contains app lib := by
  intro node member
  obtain ⟨other, kept, equal⟩ := List.mem_map.mp (contains node member)
  rw [packages] at kept
  exact List.mem_map.mpr ⟨other, List.mem_of_mem_filter kept, equal⟩

/-- A library that is not contained by its digests is matched alike without the app's own packages,
whatever these are, as long as they do not stand at the library's root package alone. If they do,
nothing is found in the whole app. -/
theorem matchTrees_of_outside (config : rest.config = app.config)
    (packages : rest.packages = outside own app.packages) (missing : ¬ Contains app lib)
    (libRoot : Option String) :
    ((∀ root ∈ libRoot, ¬ OwnsRoot own root app) →
      matchTrees ⟨some own, fullOnly⟩ rest lib libRoot =
        matchTrees ⟨some own, fullOnly⟩ app lib libRoot) ∧
    ((∃ root ∈ libRoot, OwnsRoot own root app) →
      ∀ result, matchTrees ⟨some own, fullOnly⟩ app lib libRoot = .ok result →
        result = ⟨app.config, .noMatch, [], none⟩) := by
  have missingRest : ¬ Contains rest lib :=
    fun contains => missing (contains_of_outside packages contains)
  have occupied := packages_ne_nil_of_not_contains missing
  by_cases same : lib.config.recipe = app.config.recipe
  · have sameRest : lib.config.recipe = rest.config.recipe := by rw [config, same]
    rw [matchTrees_of_comparable same occupied, matchTrees_of_comparable sameRest occupied,
      contained?_of_not_contains missing, contained?_of_not_contains missingRest, config]
    cases fullOnly with
    | true => exact ⟨fun _ => rfl, fun _ _ matched => (Except.ok.inj matched).symm⟩
    | false =>
        cases libRoot with
        | none => exact ⟨fun _ => rfl, nofun⟩
        | some root =>
            constructor
            · intro shared
              have alike : alignments ⟨some own, false⟩ rest lib root =
                  alignments ⟨some own, false⟩ app lib root :=
                alignments_of_outside packages (shared root rfl)
              simp only [partialMatch_eq, alike, config]
            · rintro ⟨_, ⟨⟩, owns⟩ result matched
              rw [← Except.ok.inj matched]
              simp only [partialMatch_eq, alignments_of_ownsRoot owns]
              rfl
  · have sameRest : lib.config.recipe ≠ rest.config.recipe := by rw [config]; exact same
    rw [matchTrees_of_mismatch same, matchTrees_of_mismatch sameRest, config]
    refine ⟨fun _ => rfl, ?_⟩
    intro _ result matched
    cases matched

/-- The app's own package holds all of the library's classes, and makes no difference. -/
theorem matchTrees_of_outside_holder :
    let package (digest : UInt8) (name : String) (classes : List UInt8) : Node :=
      .mk ⟨[digest]⟩ (.package (some name))
        (classes.map fun digest => .mk ⟨[digest]⟩ (.class none) [])
    let lib := HashTree.ofPackages .standard [package 1 "com.lib.a" [11, 12]] ⟨1, 2, 0⟩
    let app := HashTree.ofPackages .standard
      [package 9 "com.app.a" [11, 12], package 4 "x.y.a" [11, 12, 13]] ⟨2, 5, 0⟩
    let rest := HashTree.ofPackages .standard [package 4 "x.y.a" [11, 12, 13]] ⟨1, 3, 0⟩
    rest.config = app.config ∧ rest.packages = outside "com.app" app.packages ∧
      ¬ Contains app lib ∧ (∀ root ∈ some "com.lib", ¬ OwnsRoot "com.app" root app) ∧
      matchTrees ⟨some "com.app", false⟩ rest lib (some "com.lib") =
        matchTrees ⟨some "com.app", false⟩ app lib (some "com.lib") := by
  intro package lib app rest
  have config : rest.config = app.config := show rest.config = .standard from rfl
  have packages : rest.packages = outside "com.app" app.packages := by
    change [_] = List.filter _ [_, _]
    rw [List.filter_cons_of_neg (by decide +kernel), List.filter_cons_of_pos (by decide +kernel),
      List.filter_nil]
  have missing : ¬ Contains app lib := by decide +kernel
  have away : ∀ name ∈ app.packageNames,
      Package.IsName name ∧ isWithin name "com.lib" = false := by
    decide +kernel
  have shared : ∀ root ∈ some "com.lib", ¬ OwnsRoot "com.app" root app := by
    intro root isRoot owns
    obtain rfl := Option.some.inj isRoot
    obtain ⟨name, isPackage, atRoot⟩ := owns.present
    obtain ⟨valid, outside⟩ := away name isPackage
    rw [atRoot_iff_isWithin (by decide +kernel) valid, outside] at atRoot
    cases atRoot
  exact ⟨config, packages, missing, shared,
    (matchTrees_of_outside config packages missing (some "com.lib")).1 shared⟩

/-- Nothing stands at the library's root except the app's own package, so only that root is searched
and the library is not found where it was moved to. Without the own package it is. -/
theorem matchTrees_of_own_root :
    let package (digest : UInt8) (name : String) (classes : List UInt8) : Node :=
      .mk ⟨[digest]⟩ (.package (some name))
        (classes.map fun digest => .mk ⟨[digest]⟩ (.class none) [])
    let lib := HashTree.ofPackages .standard [package 1 "com.lib.a" [11, 12]] ⟨1, 2, 0⟩
    let app := HashTree.ofPackages .standard
      [package 9 "com.lib.demo" [91], package 4 "x.y.a" [11, 12, 13]] ⟨2, 4, 0⟩
    let rest := HashTree.ofPackages .standard [package 4 "x.y.a" [11, 12, 13]] ⟨1, 3, 0⟩
    let options : Options := ⟨some "com.lib.demo", false⟩
    lib.config = app.config ∧ rest.config = app.config ∧
      rest.packages = outside "com.lib.demo" app.packages ∧
      ¬ Contains app lib ∧ ¬ Contains rest lib ∧
      ∃ missed found, matchTrees options app lib (some "com.lib") = .ok missed ∧
        matchTrees options rest lib (some "com.lib") = .ok found ∧
        (missed.verdict = .noMatch ∧ missed.packageNames = [] ∧ missed.rootPackage = none) ∧
        found.verdict = .full ∧ found.packageNames = ["x.y.a"] ∧
          found.rootPackage = some "x.y" := by
  intro package lib app rest options
  have packages : rest.packages = outside "com.lib.demo" app.packages := by
    change [_] = List.filter _ [_, _]
    rw [List.filter_cons_of_neg (by decide +kernel), List.filter_cons_of_pos (by decide +kernel),
      List.filter_nil]
  have missing : ¬ Contains app lib ∧ ¬ Contains rest lib := by decide +kernel
  have atRoot : partitions app.packages "com.lib" = ["com.lib"] := by
    rw [partitions_eq, ancestors_eq_of_pairwise (by decide +kernel)]
    decide +kernel
  have moved : partitions rest.packages "com.lib" = ["x.y"] := by
    rw [partitions_eq, ancestors_eq_of_pairwise (by decide +kernel)]
    decide +kernel
  have lists : candidateLists lib.packages app.packages options.appPackage =
      foundLists lib.packages app.packages options.appPackage :=
    candidateLists_eq_foundLists (.refl _) (by decide +kernel) (by decide +kernel)
  have sameLists : candidateLists lib.packages rest.packages options.appPackage =
      foundLists lib.packages app.packages options.appPackage := by
    rw [packages, candidateLists_outside, ← lists]
  have config : lib.config = app.config ∧ rest.config = app.config :=
    show lib.config = .standard ∧ rest.config = .standard from ⟨rfl, rfl⟩
  have recipe : lib.config.recipe = app.config.recipe := congrArg _ config.1
  have restRecipe : lib.config.recipe = rest.config.recipe := by rw [config.2, recipe]
  have occupied : lib.packages ≠ [] := List.cons_ne_nil _ _
  refine ⟨config.1, config.2, packages, missing.1, missing.2,
    partialMatch options app lib "com.lib", partialMatch options rest lib "com.lib", ?_, ?_, ?_, ?_⟩
  · rw [matchTrees_of_comparable recipe occupied, contained?_of_not_contains missing.1]
  · rw [matchTrees_of_comparable restRecipe occupied, contained?_of_not_contains missing.2]
  · rw [partialMatch_of_eq lists atRoot]
    decide +kernel
  · rw [partialMatch_of_eq sameLists moved]
    decide +kernel

end Trees

end LibPrint.Matching
