import LibPrint.Proofs.HashTree.Erasure
import LibPrint.Proofs.Library.Bundling
import LibPrint.Proofs.Matching.Outcome
import LibPrint.Proofs.Store.RoundTrip

/-!
# Profiles identify themselves

What makes a profile of a hierarchy is a single method that is not made by a compiler and has some
visibility. Every profile is then one that can be stored, and the unit it was made from is found to
contain it under every recipe and under its own package names.
-/

namespace LibPrint

/-! ## Names in trees -/

namespace HashTree

/-- The names of a tree's packages, where they are kept, are those of the most verbose tree. -/
theorem packageNames_build (recipe : Recipe) (level : Verboseness) (hierarchy : Hierarchy) :
    (build ⟨recipe, level⟩ hierarchy).packageNames =
      if level.keepsPackageNames then (build ⟨recipe, .trace⟩ hierarchy).packageNames else [] := by
  have packages : (build ⟨recipe, level⟩ hierarchy).packages =
      (build ⟨recipe, .trace⟩ hierarchy).packages.map (Node.erase level) :=
    packages_buildFrom_erase _ recipe level.rank_le_trace hierarchy _
  rw [packageNames, packageNames, packages, List.filterMap_map]
  cases kept : level.keepsPackageNames <;> simp [kept]

/-- Every package of the most verbose tree has a name. -/
theorem length_packageNames_build (recipe : Recipe) (hierarchy : Hierarchy) :
    (build ⟨recipe, .trace⟩ hierarchy).packageNames.length =
      (build ⟨recipe, .trace⟩ hierarchy).packages.length := by
  rw [packageNames, List.length_filterMap_eq_countP, List.countP_eq_length]
  intro node member
  rw [build, packages_buildFrom] at member
  obtain ⟨package, _, rfl⟩ := List.mem_map.mp (Node.mem_of_mem_canonical member)
  rfl

/-- All packages of a unit carry digests of a tree of the same unit. -/
theorem carriers_build (recipe : Recipe) (hierarchy : Hierarchy) (level other : Verboseness) :
    Matching.carriers (build ⟨recipe, level⟩ hierarchy) (build ⟨recipe, other⟩ hierarchy) =
      (build ⟨recipe, level⟩ hierarchy).packages := by
  rw [Matching.carriers, digests_build_of_verboseness recipe hierarchy other level,
    List.filter_eq_self]
  intro node member
  exact decide_eq_true (List.mem_map_of_mem member)

/-- Equal digests are left out later, so whether anything is left does not depend on that. -/
theorem isEmpty_build_filterDups (recipe : Recipe) (filterDups : Bool) (level : Verboseness)
    (hierarchy : Hierarchy) :
    (build ⟨{ recipe with filterDups := filterDups }, level⟩ hierarchy).isEmpty =
      (build ⟨recipe, level⟩ hierarchy).isEmpty := by
  rw [Bool.eq_iff_iff, isEmpty_build_iff, isEmpty_build_iff]
  rfl

end HashTree

/-! ## Hierarchies with something to hash -/

namespace Hierarchy

/-- Some class that takes part in fingerprints has a method that is not made by a compiler and has
some visibility. -/
def HasCode (hierarchy : Hierarchy) : Prop :=
  ∃ info ∈ hierarchy.classes, info.isFingerprintable = true ∧
    ∃ method ∈ info.methods, method.isSynthetic = false ∧ method.access.isEmpty = false

end Hierarchy

namespace HashTree

/-- What is left of a class by the standard recipe. -/
theorem survives_standard_iff {info : ClassInfo} :
    survives .standard info = true ↔ info.isFingerprintable = true ∧
      ∃ method ∈ info.methods, method.isSynthetic = false ∧ method.access.isEmpty = false := by
  have passes (flags : AccessFlags) : flags.passes Recipe.standard.accessFilter = !flags.isEmpty := by
    simp [AccessFlags.passes, AccessFlags.intersects, Recipe.standard, AccessFlags.none]
  have every : Recipe.standard.filterInner = false := rfl
  simp only [survives, admitted, passes, every, Bool.false_and, Bool.not_false, Bool.and_true,
    Bool.and_eq_true, Bool.not_eq_true', List.isEmpty_eq_false_iff, ne_eq,
    List.filter_eq_nil_iff, not_forall, not_not, exists_prop]

theorem isEmpty_build_standard_iff {hierarchy : Hierarchy} {level : Verboseness} :
    (build ⟨.standard, level⟩ hierarchy).isEmpty = false ↔ hierarchy.HasCode := by
  rw [← Bool.not_eq_true, isEmpty_build_iff, List.eq_nil_iff_forall_not_mem, not_forall_not]
  simp only [mem_survivors, survives_standard_iff, Hierarchy.HasCode]

end HashTree

/-! ## Well-formed profiles -/

namespace LibProfile

open HashTree

/-- A profile holds two trees or three, none of them empty, all of different recipes; the standard
one is among them, and the one that keeps each hash once. -/
structure WellFormed (profile : LibProfile) : Prop where
  count : profile.hashTrees.length = 2 ∨ profile.hashTrees.length = 3
  occupied : ∀ tree ∈ profile.hashTrees, tree.packages ≠ []
  different : profile.hashTrees.Pairwise fun left right =>
    left.config.comparable right.config = false
  standard : ∃ tree ∈ profile.hashTrees, tree.config.recipe = .standard
  deduplicated : ∃ tree ∈ profile.hashTrees,
    tree.config.recipe = { Recipe.standard with filterDups := true }

variable {hierarchy : Hierarchy} {description : Description} {level : Verboseness}

/-- Only the tree of the public methods may be missing. -/
theorem treesOf_of_hasCode (code : hierarchy.HasCode) (level : Verboseness) :
    treesOf hierarchy level =
      build ⟨.standard, level⟩ hierarchy ::
        (if (build ⟨{ Recipe.standard with accessFilter := .hidden }, level⟩ hierarchy).isEmpty
          then [] else [build ⟨{ Recipe.standard with accessFilter := .hidden }, level⟩ hierarchy]) ++
        [build ⟨{ Recipe.standard with filterDups := true }, level⟩ hierarchy] := by
  have standard : (build ⟨.standard, level⟩ hierarchy).isEmpty = false :=
    isEmpty_build_standard_iff.mpr code
  have deduplicated := isEmpty_build_filterDups .standard true level hierarchy
  rw [standard] at deduplicated
  have recipes : TreeConfig.recipes =
      [.standard, { Recipe.standard with accessFilter := .hidden },
        { Recipe.standard with filterDups := true }] := rfl
  simp only [treesOf, recipes, List.map_cons, List.map_nil, List.filter_cons, standard,
    deduplicated, List.filter_nil]
  cases (build ⟨{ Recipe.standard with accessFilter := .hidden }, level⟩ hierarchy).isEmpty <;> rfl

theorem wellFormed_of_create {profile : LibProfile}
    (created : create hierarchy description level = .ok profile) : profile.WellFormed := by
  obtain ⟨holds, rfl⟩ := create_eq_ok_iff.mp created
  have trees := treesOf_of_hasCode (isEmpty_build_standard_iff.mp holds) level
  constructor
  · rw [trees]
    split
    · exact .inl rfl
    · exact .inr rfl
  · intro tree member
    have occupied := (List.mem_filter.mp member).2
    rw [Bool.not_eq_true'] at occupied
    exact List.isEmpty_eq_false_iff.mp occupied
  · have different : (TreeConfig.recipes.map fun recipe =>
        build ⟨recipe, level⟩ hierarchy).Pairwise fun left right =>
          left.config.comparable right.config = false := by
      rw [List.pairwise_map]
      exact TreeConfig.nodup_recipes.imp fun apart => beq_eq_false_iff_ne.mpr apart
    exact different.sublist List.filter_sublist
  · refine ⟨build ⟨.standard, level⟩ hierarchy, ?_, rfl⟩
    rw [trees]
    exact List.mem_cons_self
  · refine ⟨build ⟨{ Recipe.standard with filterDups := true }, level⟩ hierarchy, ?_, rfl⟩
    rw [trees]
    exact List.mem_append_right _ (List.mem_singleton_self _)

end LibProfile

/-! ## Comparing names -/

namespace LibraryMatch

/-- Whether the names of the library's packages and those found in the app differ. -/
def namesDiffer (wanted present : List String) : Bool :=
  if (Text.sort wanted).length ≠ (Text.sort present).length then
    (Text.sort wanted).any fun name => !(Text.sort present).contains name
  else Text.sort wanted != Text.sort present

theorem isObfuscated_of_full {found : LibraryMatch} {result : TreeMatch} {tree : HashTree}
    (full : found.full? = some result)
    (profiled : HashTree.find? found.profile.hashTrees result.config = some tree) :
    found.isObfuscated = namesDiffer tree.packageNames result.packageNames := by
  rw [isObfuscated, full]
  simp only [profiled, namesDiffer]

@[simp] theorem namesDiffer_self (names : List String) : namesDiffer names names = false := by
  simp [namesDiffer]

/-- A library without names cannot have others. -/
@[simp] theorem namesDiffer_nil_left (names : List String) : namesDiffer [] names = false := by
  have nothing : Text.sort [] = [] := List.mergeSort_nil
  rw [namesDiffer, nothing]
  cases Text.sort names <;> rfl

theorem namesDiffer_nil_right {names : List String} (named : names ≠ []) :
    namesDiffer names [] = true := by
  have nothing : Text.sort [] = [] := List.mergeSort_nil
  have sorted : Text.sort names ≠ [] := by
    rwa [← List.length_pos_iff, Text.sort, List.length_mergeSort, List.length_pos_iff]
  simp [namesDiffer, nothing, sorted, List.exists_mem_of_ne_nil]

end LibraryMatch

/-! ## Matching a unit with its own profile -/

namespace Matching

open HashTree

variable {hierarchy : Hierarchy} {description : Description} {level : Verboseness}
  {profile : LibProfile}

/-- A unit has all packages of its own profile, recipe by recipe. -/
theorem matchProfile_self (created : LibProfile.create hierarchy description level = .ok profile)
    (options : Options) (appLevel : Verboseness) :
    let found := matchProfile options (AppProfile.create hierarchy appLevel) profile
    found.results = profile.hashTrees.map (fun tree =>
        ⟨⟨tree.config.recipe, appLevel⟩, .full,
          (build ⟨tree.config.recipe, appLevel⟩ hierarchy).packages, none⟩) ∧
      found.level = .allConfigs := by
  apply matchProfile_of_full hierarchy appLevel created options
    fun recipe => (build ⟨recipe, appLevel⟩ hierarchy).packages
  intro recipe _ holds
  have contains : Contains (build ⟨recipe, appLevel⟩ hierarchy) (build ⟨recipe, level⟩ hierarchy) := by
    intro node member
    rw [digests_build_of_verboseness recipe hierarchy appLevel level]
    exact List.mem_map_of_mem member
  rw [← carriers_build recipe hierarchy appLevel level]
  exact matchTrees_of_contains rfl (List.isEmpty_eq_false_iff.mp holds) contains

/-- Names are taken for others exactly when the profile has names and the unit's trees have none. -/
theorem isObfuscated_self (created : LibProfile.create hierarchy description level = .ok profile)
    (options : Options) (appLevel : Verboseness) :
    (matchProfile options (AppProfile.create hierarchy appLevel) profile).isObfuscated = true ↔
      level.keepsPackageNames = true ∧ appLevel.keepsPackageNames = false := by
  let found := matchProfile options (AppProfile.create hierarchy appLevel) profile
  have code := isEmpty_build_standard_iff.mp (LibProfile.create_eq_ok_iff.mp created).1
  have full : found.full? = some ⟨⟨.standard, appLevel⟩, .full,
      (build ⟨.standard, appLevel⟩ hierarchy).packages, none⟩ := by
    rw [LibraryMatch.full?, (matchProfile_self created options appLevel).1,
      LibProfile.hashTrees_of_create created, LibProfile.treesOf_of_hasCode code]
    rfl
  have same : found.profile = profile := LibraryMatch.profile_foldl_add _ _
  have tree := LibProfile.find?_standard_of_create created appLevel
  let names := (build ⟨.standard, .trace⟩ hierarchy).packageNames
  have named : names ≠ [] := by
    have occupied : (build ⟨.standard, .trace⟩ hierarchy).isEmpty = false :=
      isEmpty_build_standard_iff.mpr code
    rw [← List.length_pos_iff, length_packageNames_build, List.length_pos_iff]
    exact List.isEmpty_eq_false_iff.mp occupied
  have present : TreeMatch.packageNames ⟨⟨.standard, appLevel⟩, .full,
      (build ⟨.standard, appLevel⟩ hierarchy).packages, none⟩ =
        if appLevel.keepsPackageNames then names else [] :=
    packageNames_build .standard appLevel hierarchy
  rw [← same] at tree
  rw [LibraryMatch.isObfuscated_of_full full tree, present, packageNames_build .standard level]
  cases level.keepsPackageNames with
  | false => simp
  | true =>
      cases appLevel.keepsPackageNames with
      | true => simp [names]
      | false => simpa using LibraryMatch.namesDiffer_nil_right named

end Matching

/-! ## Storing -/

namespace ProfileStore

/-- A well-formed profile is stored wherever a file can be written. -/
theorem save_of_wellFormed (store : ProfileStore) {profile : LibProfile}
    (wellFormed : profile.WellFormed) (files : Files) :
    (∀ name, store.save profile files ≠ .error (.refused name)) ∧
      ((∃ path after, store.save profile files = .ok (path, after)) ↔
        files.Writable (store.pathFor profile.description)) := by
  have solid : ¬ Hollow profile := by
    rintro (none | ⟨tree, member, empty⟩)
    · rcases wellFormed.count with two | three
      · simp [none] at two
      · simp [none] at three
    · exact wellFormed.occupied tree member empty
  constructor
  · intro name refused
    rw [save_of_not_hollow solid] at refused
    cases stored : store.written? profile files with
    | none =>
        rw [stored, Option.elim_none] at refused
        cases refused
    | some after =>
        rw [stored, Option.elim_some] at refused
        cases refused
  · rw [Files.writable_iff profile.toBytes]
    simp [save_eq_ok_iff, solid, written?]

end ProfileStore

/-! ## The whole life of a profile -/

/-- There is no profile exactly when there is nothing to hash, and the error says so. Every profile
that is made is well formed, so that a store takes it, and the unit it was made from matches it with
one result of full containment for each of its trees. The names are not taken for others, unless the
unit's trees were told to leave out the names that the profile has. -/
theorem LibProfile.create_identifies (hierarchy : Hierarchy) (description : Description)
    (level : Verboseness) :
    (create hierarchy description level = .error (.emptyTree description.display) ↔
      ¬ hierarchy.HasCode) ∧
    ((∃ profile, create hierarchy description level = .ok profile) ↔ hierarchy.HasCode) ∧
    ∀ profile, create hierarchy description level = .ok profile →
      profile.WellFormed ∧
      (∀ (store : ProfileStore) (files : Files),
        (∀ name, store.save profile files ≠ .error (.refused name)) ∧
          ((∃ path after, store.save profile files = .ok (path, after)) ↔
            files.Writable (store.pathFor profile.description))) ∧
      ∀ (options : Matching.Options) (appLevel : Verboseness),
        let found := Matching.matchProfile options (AppProfile.create hierarchy appLevel) profile
        List.Forall₂ (fun (result : TreeMatch) (tree : HashTree) =>
            result.config.comparable tree.config = true ∧ result.verdict = .full)
          found.results profile.hashTrees ∧
        found.level = .allConfigs ∧
        (appLevel = level → found.isObfuscated = false) ∧
        (found.isObfuscated = true ↔
          level.keepsPackageNames = true ∧ appLevel.keepsPackageNames = false) := by
  have holds : (HashTree.build ⟨.standard, level⟩ hierarchy).isEmpty = false ↔ hierarchy.HasCode :=
    HashTree.isEmpty_build_standard_iff
  refine ⟨?_, ?_, ?_⟩
  · rw [create_eq, ← holds]
    cases (HashTree.build ⟨.standard, level⟩ hierarchy).isEmpty <;> simp
  · rw [create_eq, ← holds]
    cases (HashTree.build ⟨.standard, level⟩ hierarchy).isEmpty <;> simp
  · intro profile created
    have wellFormed := wellFormed_of_create created
    refine ⟨wellFormed, fun store files => store.save_of_wellFormed wellFormed files, ?_⟩
    intro options appLevel found
    obtain ⟨results, sure⟩ := Matching.matchProfile_self created options appLevel
    have names := Matching.isObfuscated_self created options appLevel
    refine ⟨?_, sure, ?_, names⟩
    · rw [results, List.forall₂_map_left_iff, List.forall₂_same]
      intro tree _
      exact ⟨TreeConfig.comparable_of_recipe tree.config.recipe appLevel tree.config.verboseness,
        rfl⟩
    · rintro rfl
      rw [← Bool.not_eq_true, names]
      rintro ⟨kept, hidden⟩
      rw [kept] at hidden
      cases hidden

/-- Nothing of the library is public, and one class is recorded twice. -/
theorem LibProfile.create_identifies_private :
    let method : Method := ⟨"get", .single .isPrivate, false, false, [], ⟨"I"⟩⟩
    let hierarchy := Hierarchy.ofClasses none
      [⟨"a.B", none, true, [method]⟩, ⟨"a.R", none, true, [method]⟩, ⟨"a.B", none, true, [method]⟩]
      Hierarchy.defaultFramework
    let description : Description := ⟨"ui", .utilities, some "1.0", none, none⟩
    ∃ profile, create hierarchy description .minimal = .ok profile ∧ profile.WellFormed ∧
      (Matching.matchProfile ⟨some "a", true⟩ (AppProfile.create hierarchy .debug)
        profile).isObfuscated = false := by
  intro method hierarchy description
  have code : hierarchy.HasCode := by
    refine ⟨⟨"a.B", none, true, [method]⟩, List.mem_cons_self, by decide +kernel, method, ?_⟩
    exact ⟨List.mem_cons_self, rfl, rfl⟩
  obtain ⟨-, made, every⟩ := create_identifies hierarchy description .minimal
  obtain ⟨profile, created⟩ := made.mpr code
  obtain ⟨wellFormed, -, found⟩ := every profile created
  obtain ⟨-, -, -, names⟩ := found ⟨some "a", true⟩ .debug
  refine ⟨profile, created, wellFormed, ?_⟩
  rw [← Bool.not_eq_true, names]
  decide

end LibPrint
