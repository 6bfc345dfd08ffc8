import LibPrint.Proofs.HashTree.Restriction
import LibPrint.Proofs.Library.Bundling
import LibPrint.Proofs.Library.Collecting
import LibPrint.Proofs.Library.Identity

/-!
# When a library counts as obfuscated

The flag compares the names of the library's packages with those of the app's packages that carry
one of its digests, in two ways that depend on how many there are. Since a tree that keeps repeated
packages names each package once, both come to the same: some name of the library is missing among
those found. The result that is looked at is the one under the standard recipe whenever that is of
full containment, because it is collected first.
-/

namespace LibPrint

/-! ## Names -/

namespace HashTree

/-- No two packages of a tree that keeps repeated ones have the same name. -/
theorem nodup_packageNames_build {recipe : Recipe} (repeated : recipe.filterDups = false)
    (level : Verboseness) (hierarchy : Hierarchy) :
    (build ⟨recipe, level⟩ hierarchy).packageNames.Nodup := by
  rw [packageNames_build]
  split
  · let node := packageNode recipe.algorithm.digest ⟨recipe, .trace⟩
      ((survivors recipe hierarchy.appClasses).map
        (entry recipe.algorithm.digest ⟨recipe, .trace⟩ hierarchy))
    let names := Text.sortDistinct ((survivors recipe hierarchy.appClasses).map ClassInfo.package)
    have sorted : (build ⟨recipe, .trace⟩ hierarchy).packages.Perm (names.map node) := by
      rw [build, packages_buildFrom, packageNodes, repeated]
      exact List.mergeSort_perm _ _
    have named : (names.map node).filterMap Node.packageName? = names := by
      rw [List.filterMap_map]
      exact List.filterMap_some
    have perm := sorted.filterMap Node.packageName?
    rw [named] at perm
    exact perm.nodup_iff.mpr (Text.nodup_sortDistinct _)
  · exact List.nodup_nil

/-- The packages of a tree that names them and keeps repeated ones, by name and digest. -/
theorem exists_mem_packages_iff {recipe : Recipe} (repeated : recipe.filterDups = false)
    {level : Verboseness} (named : level.keepsPackageNames = true) {hierarchy : Hierarchy}
    {name : Option String} {digest : Digest} :
    let inside := contents recipe.algorithm.digest recipe hierarchy hierarchy.classes
    (∃ node ∈ (build ⟨recipe, level⟩ hierarchy).packages,
        node.packageName? = name ∧ node.digest = digest) ↔
      ∃ package ∈ inside.map (·.1), some package = name ∧
        packageDigest recipe.algorithm.digest recipe inside package = digest := by
  intro inside
  let node := packageNode recipe.algorithm.digest ⟨recipe, level⟩
    ((survivors recipe hierarchy.classes).map
      (entry recipe.algorithm.digest ⟨recipe, level⟩ hierarchy))
  have packages : (build ⟨recipe, level⟩ hierarchy).packages.Perm
      ((Text.sortDistinct (inside.map (·.1))).map node) := by
    rw [build, packages_buildFrom, packageNodes, repeated, survivors_appClasses, map_fst_contents]
    exact List.mergeSort_perm _ _
  have nodeName (package : String) : (node package).packageName? = some package :=
    packageName?_packageNode _ named _ package
  have nodeDigest (package : String) : (node package).digest =
      packageDigest recipe.algorithm.digest recipe inside package :=
    digest_packageNode _ _ hierarchy hierarchy.classes package
  simp only [packages.mem_iff, List.mem_map (f := node), exists_exists_and_eq_and,
    Text.mem_sortDistinct, nodeName, nodeDigest]

/-- Every package of a bundled unit is one of the app's, with its name and its digest. -/
theorem exists_mem_packages_of_bundles {app unit : Hierarchy} {others : List ClassInfo}
    (bundles : app.Bundles unit others) {recipe : Recipe} (repeated : recipe.filterDups = false)
    {unitLevel appLevel : Verboseness} (unitNamed : unitLevel.keepsPackageNames = true)
    (appNamed : appLevel.keepsPackageNames = true) {node : Node}
    (member : node ∈ (build ⟨recipe, unitLevel⟩ unit).packages) :
    ∃ other ∈ (build ⟨recipe, appLevel⟩ app).packages,
      other.packageName? = node.packageName? ∧ other.digest = node.digest := by
  obtain ⟨package, inUnit, name, digest⟩ :=
    (exists_mem_packages_iff repeated unitNamed).mp ⟨node, member, rfl, rfl⟩
  obtain ⟨item, itemMem, rfl⟩ := List.mem_map.mp inUnit
  have perm := contents_of_bundles recipe.algorithm.digest recipe bundles
  apply (exists_mem_packages_iff repeated appNamed).mpr
  refine ⟨item.1, ?_, name, ?_⟩
  · rw [(perm.map (·.1)).mem_iff, List.map_append]
    exact List.mem_append_left _ inUnit
  · rw [← digest, packageDigest_eq_of_perm _ _ perm]
    exact packageDigest_append _ _
      (contents_disjoint_of_bundles recipe.algorithm.digest recipe bundles item itemMem)

end HashTree

namespace LibraryMatch

/-- Both ways of comparing find out whether a name is missing, as no name is wanted twice. -/
theorem namesDiffer_iff {wanted present : List String} (once : wanted.Nodup) :
    namesDiffer wanted present = true ↔ ∃ name ∈ wanted, name ∉ present := by
  have length (names : List String) : (Text.sort names).length = names.length :=
    List.length_mergeSort _
  have inSorted {name : String} {names : List String} : name ∈ Text.sort names ↔ name ∈ names :=
    List.mem_mergeSort
  rw [namesDiffer]
  split
  · simp only [List.any_eq_true, Bool.not_eq_true', ← Bool.not_eq_true, List.contains_iff_mem,
      inSorted]
  · next same =>
    rw [length, length, not_not] at same
    rw [bne_iff_ne, ← not_iff_not, not_not]
    push Not
    constructor
    · intro equal name member
      rw [← inSorted, ← equal, inSorted]
      exact member
    · intro all
      have within : wanted.Subperm present := List.subperm_of_subset once all
      exact Text.sort_eq_of_perm (within.perm_of_length_le (Nat.le_of_eq same.symm))

/-- The first result of full containment is the first one that was added. -/
theorem full?_foldl_add {added : List TreeMatch} (lib : LibProfile)
    (possible : ∀ result ∈ added, Matching.Possible result.verdict) :
    (added.foldl add (.ofProfile lib)).full? = added.find? (·.verdict.isFull) := by
  let found := added.foldl add (.ofProfile lib)
  have collects : Collects found.results added := collects_foldl lib possible
  have full {result : TreeMatch} (member : result ∈ added) :
      result.verdict.isFull = decide (result.verdict.score = .one) := by
    rw [Bool.eq_iff_iff, Verdict.isFull_iff, Verdict.grade_eq_three_iff, decide_eq_true_iff]
    constructor
    · intro isFull
      rw [isFull]
      rfl
    · exact Matching.eq_of_score_eq (possible result member) (.inr (.inr (.inl rfl)))
  have kept : found.results.filter (·.verdict.isFull) = added.filter (·.verdict.isFull) := by
    rw [List.filter_congr fun result member => full (collects.perm.mem_iff.mp member),
      collects.stable .one]
    exact (List.filter_congr fun result member => full member).symm
  rw [full?, ← List.head?_filter, ← List.head?_filter]
  exact congrArg List.head? kept

end LibraryMatch

/-! ## The flag -/

namespace Matching

open HashTree

variable {unit : Hierarchy} {description : Description} {unitLevel : Verboseness}
  {lib : LibProfile}

/-- The name is one of an app package with a digest of the library. -/
def Found (app lib : HashTree) (name : String) : Prop :=
  ∃ node ∈ app.packages, node.digest ∈ lib.packages.map Node.digest ∧
    node.packageName? = some name

theorem found_iff {app lib : HashTree} {name : String} :
    Found app lib name ↔ name ∈ (carriers app lib).filterMap Node.packageName? := by
  simp only [Found, carriers, List.mem_filterMap, List.mem_filter, decide_eq_true_eq, and_assoc]

/-- The result under the standard recipe is the first one of full containment, if it is one. -/
theorem full?_matchProfile (created : LibProfile.create unit description unitLevel = .ok lib)
    (options : Options) (app : Hierarchy) (appLevel : Verboseness)
    (contains : Contains (build ⟨.standard, appLevel⟩ app) (build ⟨.standard, unitLevel⟩ unit)) :
    (matchProfile options (AppProfile.create app appLevel) lib).full? =
      some ⟨⟨.standard, appLevel⟩, .full,
        carriers (build ⟨.standard, appLevel⟩ app) (build ⟨.standard, unitLevel⟩ unit), none⟩ := by
  have holds : (build ⟨.standard, unitLevel⟩ unit).isEmpty = false :=
    (LibProfile.create_eq_ok_iff.mp created).1
  have matched : matchTrees options (build ⟨.standard, appLevel⟩ app)
      (build ⟨.standard, unitLevel⟩ unit) lib.rootPackage? = .ok ⟨⟨.standard, appLevel⟩, .full,
        carriers (build ⟨.standard, appLevel⟩ app) (build ⟨.standard, unitLevel⟩ unit), none⟩ :=
    matchTrees_of_contains rfl (List.isEmpty_eq_false_iff.mp holds) contains
  have first : matchTree? options lib (build ⟨.standard, appLevel⟩ app) =
      some ⟨⟨.standard, appLevel⟩, .full,
        carriers (build ⟨.standard, appLevel⟩ app) (build ⟨.standard, unitLevel⟩ unit), none⟩ := by
    have found := LibProfile.find?_standard_of_create created appLevel
    rw [matchTree?, config_build, found]
    exact congrArg Except.toOption matched
  obtain ⟨others, trees⟩ : ∃ others, (AppProfile.create app appLevel).hashTrees =
      build ⟨.standard, appLevel⟩ app :: others := ⟨_, rfl⟩
  rw [matchProfile, LibraryMatch.full?_foldl_add, trees, List.filterMap_cons_some first,
    List.find?_cons_of_pos]
  · rfl
  · intro result member
    obtain ⟨tree, -, libTree, -, matched⟩ :=
      exists_mem_left_of_forall₂ (forall₂_matchTree? options lib _) member
    exact possible_of_matchTrees matched

/-- Where the default tree of a library is contained by its digests, the library is matched fully,
and its names are taken for others when one of them was not found. -/
theorem isObfuscated_of_contains (created : LibProfile.create unit description unitLevel = .ok lib)
    (options : Options) (app : Hierarchy) (appLevel : Verboseness)
    (contains : Contains (build ⟨.standard, appLevel⟩ app) (build ⟨.standard, unitLevel⟩ unit)) :
    let found := matchProfile options (AppProfile.create app appLevel) lib
    found.anyFull = true ∧
      (found.isObfuscated = true ↔ ∃ name ∈ (build ⟨.standard, unitLevel⟩ unit).packageNames,
        ¬ Found (build ⟨.standard, appLevel⟩ app) (build ⟨.standard, unitLevel⟩ unit) name) := by
  intro found
  have full := full?_matchProfile created options app appLevel contains
  constructor
  · rw [LibraryMatch.anyFull, List.any_eq_true]
    exact ⟨_, List.mem_of_find?_eq_some full, rfl⟩
  · have same : found.profile = lib := LibraryMatch.profile_foldl_add _ _
    have tree := LibProfile.find?_standard_of_create created appLevel
    rw [← same] at tree
    rw [LibraryMatch.isObfuscated_of_full full tree,
      LibraryMatch.namesDiffer_iff (nodup_packageNames_build rfl unitLevel unit)]
    simp only [found_iff]
    rfl

/-- An app that has every package of a library, under its name and with its digest, matches the
library, whose names are then not taken for others; whichever copies of these packages the app has
beside them does not matter. And wherever the digests of the default trees decide that the library
is contained, its names are taken for others exactly when it has a name that no package of the app
with one of its digests has. -/
theorem isObfuscated_matchProfile
    (created : LibProfile.create unit description unitLevel = .ok lib) (options : Options)
    (app : Hierarchy) (appLevel : Verboseness) :
    let profile := AppProfile.create app appLevel
    let found := matchProfile options profile lib
    ∃ appTree libTree,
      HashTree.find? profile.hashTrees .standard = some appTree ∧
      HashTree.find? lib.hashTrees .standard = some libTree ∧
      ((∀ node ∈ libTree.packages, ∃ other ∈ appTree.packages,
          other.packageName? = node.packageName? ∧ other.digest = node.digest) →
        found.anyFull = true ∧ found.isObfuscated = false) ∧
      (Inclusive (matchTrees options appTree libTree lib.rootPackage?) →
        (found.isObfuscated = true ↔
          ∃ name ∈ libTree.packageNames, ¬ Found appTree libTree name)) := by
  intro profile found
  let appTree := build ⟨.standard, appLevel⟩ app
  let libTree := build ⟨.standard, unitLevel⟩ unit
  have contained := isObfuscated_of_contains created options app appLevel
  refine ⟨appTree, libTree, List.find?_cons_of_pos rfl,
    LibProfile.find?_standard_of_create created .normal, ?_, ?_⟩
  · intro present
    have contains : Contains appTree libTree := by
      intro node member
      obtain ⟨other, otherMem, -, digest⟩ := present node member
      exact digest ▸ List.mem_map_of_mem otherMem
    obtain ⟨full, differ⟩ := contained contains
    refine ⟨full, ?_⟩
    rw [← Bool.not_eq_true, differ]
    rintro ⟨name, wanted, absent⟩
    obtain ⟨node, member, named⟩ := List.mem_filterMap.mp wanted
    obtain ⟨other, otherMem, sameName, digest⟩ := present node member
    exact absent ⟨other, otherMem, digest ▸ List.mem_map_of_mem member, sameName.trans named⟩
  · intro inclusive
    exact (contained (inclusive_iff.mp inclusive).2.2).2

/-- The app has the library's package and two copies of it, one of them before it in order. -/
theorem isObfuscated_matchProfile_copies :
    let get : Method := ⟨"get", .single .isPublic, false, false, [⟨"I"⟩], ⟨"V"⟩⟩
    let unit := Hierarchy.ofClasses none [⟨"com.lib.A", none, true, [get]⟩]
      Hierarchy.defaultFramework
    let app := Hierarchy.ofClasses (some "org.app")
      [⟨"z.q.A", none, true, [get]⟩, ⟨"com.lib.A", none, true, [get]⟩,
        ⟨"a.q.A", none, true, [get]⟩] Hierarchy.defaultFramework
    let description : Description := ⟨"ui", .utilities, some "1.0", none, none⟩
    ∃ lib, LibProfile.create unit description .minimal = .ok lib ∧
      let found := matchProfile ⟨none, true⟩ (AppProfile.create app .debug) lib
      found.anyFull = true ∧ found.isObfuscated = false ∧
        ∃ appTree libTree, HashTree.find? lib.hashTrees .standard = some libTree ∧
          Inclusive (matchTrees ⟨none, true⟩ appTree libTree lib.rootPackage?) ∧
          ∀ name ∈ libTree.packageNames, Found appTree libTree name := by
  intro get unit app description
  have bundles : app.Bundles unit
      [⟨"z.q.A", none, true, [get]⟩, ⟨"a.q.A", none, true, [get]⟩] := by
    refine ⟨rfl, List.Perm.swap _ _ _, ?_, ?_, ?_, ?_⟩
    · unfold Hierarchy.Distinct
      decide +kernel
    all_goals decide +kernel
  have survives : HashTree.survives .standard ⟨"com.lib.A", none, true, [get]⟩ = true := by
    decide +kernel
  have member : ⟨"com.lib.A", none, true, [get]⟩ ∈ unit.classes := List.mem_cons_self
  obtain ⟨lib, created⟩ := LibProfile.exists_create_of_survives member survives description .minimal
  obtain ⟨appTree, libTree, appFound, libFound, present, inclusive⟩ :=
    isObfuscated_matchProfile created ⟨none, true⟩ app .debug
  have appIs : build ⟨.standard, .debug⟩ app = appTree :=
    Option.some.inj ((List.find?_cons_of_pos rfl).symm.trans appFound)
  have libIs : build ⟨.standard, .minimal⟩ unit = libTree :=
    Option.some.inj ((LibProfile.find?_standard_of_create created .normal).symm.trans libFound)
  have placed : ∀ node ∈ libTree.packages, ∃ other ∈ appTree.packages,
      other.packageName? = node.packageName? ∧ other.digest = node.digest := by
    rw [← appIs, ← libIs]
    exact fun node member => exists_mem_packages_of_bundles bundles rfl rfl rfl member
  have contained : Inclusive (matchTrees ⟨none, true⟩ appTree libTree lib.rootPackage?) := by
    rw [inclusive_iff, ← appIs, ← libIs]
    exact ⟨rfl, List.isEmpty_eq_false_iff.mp (LibProfile.create_eq_ok_iff.mp created).1,
      contains_of_bundles bundles .standard .minimal .debug⟩
  obtain ⟨full, plain⟩ := present placed
  have differ := inclusive contained
  rw [plain] at differ
  exact ⟨lib, created, full, plain, appTree, libTree, libFound, contained, by simpa using differ⟩

end Matching

end LibPrint
