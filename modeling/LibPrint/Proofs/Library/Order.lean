import LibPrint.Proofs.HashTree.Reordering
import LibPrint.Proofs.Library.Collecting
import LibPrint.Proofs.Library.Profile
import LibPrint.Proofs.Matching.Outcome
import LibPrint.Proofs.Package.Root

/-!
# Profiles and the order of a dump

The hash trees of a profile do not depend on the order in which classes were listed, but its root
package does where several subtrees are the largest.
-/

namespace LibPrint

/-! ## Packages of reordered hierarchies -/

theorem Hierarchy.packageTree_eq (hierarchy : Hierarchy) :
    hierarchy.packageTree = .ofPackages (hierarchy.appClasses.map ClassInfo.package) := by
  rw [packageTree, PackageTree.ofClassNames, List.map_map]
  rfl

theorem Hierarchy.Reordered.packages_perm {left right : Hierarchy}
    (reordered : left.Reordered right) :
    (left.appClasses.map ClassInfo.package).Perm (right.appClasses.map ClassInfo.package) := by
  obtain ⟨listed, paired, perm⟩ := reordered.classes
  let reading (info : ClassInfo) : Bool × String := (info.isFingerprintable, info.package)
  have same : left.classes.map reading = listed.map reading := by
    apply map_eq_map_of_forall₂ paired
    intro info other same
    simp only [reading, ClassInfo.isFingerprintable, ClassInfo.isResource, ClassInfo.simpleName,
      ClassInfo.package, same.name, same.isApp]
  have kept (hierarchy : Hierarchy) : ((hierarchy.classes.map reading).filter (·.1)).map (·.2) =
      hierarchy.appClasses.map ClassInfo.package := by
    rw [List.filter_map, List.map_map]
    rfl
  have readings := perm.map reading
  rw [← same] at readings
  have packages := (readings.filter (·.1)).map (·.2)
  rwa [kept, kept] at packages

/-- The hierarchy with the classes of some packages before all others. -/
def Hierarchy.startingWith (hierarchy : Hierarchy) (first : String → Bool) : Hierarchy :=
  { hierarchy with
    classes := hierarchy.classes.filter (fun info => first info.package) ++
      hierarchy.classes.filter fun info => !first info.package }

theorem Hierarchy.reordered_startingWith (hierarchy : Hierarchy) (first : String → Bool) :
    hierarchy.Reordered (hierarchy.startingWith first) := by
  refine ⟨rfl, hierarchy.classes, ?_, ?_⟩
  · exact List.forall₂_same.mpr fun info _ => ⟨rfl, rfl, rfl, .refl _⟩
  · exact (List.filter_append_perm (fun info : ClassInfo => first info.package) _).symm

theorem Hierarchy.packages_startingWith (hierarchy : Hierarchy) (first : String → Bool) :
    (hierarchy.startingWith first).appClasses.map ClassInfo.package =
      PackageTree.startingWith first (hierarchy.appClasses.map ClassInfo.package) := by
  simp only [startingWith, PackageTree.startingWith, appClasses, List.filter_append, List.map_append,
    List.filter_map, List.filter_filter, Bool.and_comm, Function.comp_def]

/-! ## Profiles of reordered hierarchies -/

namespace LibProfile

open HashTree

variable {left right : Hierarchy}

theorem treesOf_eq_of_reordered (reordered : left.Reordered right) (distinct : left.Distinct)
    (level : Verboseness) : treesOf left level = treesOf right level := by
  have trees (recipe : Recipe) : build ⟨recipe, level⟩ left = build ⟨recipe, level⟩ right :=
    buildFrom_eq_of_reordered reordered distinct _ _
  simp only [treesOf, trees]

theorem create_right_of_reordered (reordered : left.Reordered right) (distinct : left.Distinct)
    {description : Description} {level : Verboseness} {profile : LibProfile}
    (created : create left description level = .ok profile) :
    create right description level = .ok ⟨description, right.packageTree, profile.hashTrees⟩ := by
  have standard : build ⟨.standard, level⟩ left = build ⟨.standard, level⟩ right :=
    buildFrom_eq_of_reordered reordered distinct _ _
  obtain ⟨holds, rfl⟩ := create_eq_ok_iff.mp created
  rw [standard] at holds
  rw [create_eq_ok_iff, treesOf_eq_of_reordered reordered distinct]
  exact ⟨holds, rfl⟩

end LibProfile

/-! ## Matching -/

namespace Matching

variable {options : Options} {app lib : HashTree}

/-- Without partial matching the root package of the library plays no part. -/
theorem matchTrees_of_fullOnly (full : options.fullOnly = true) (libRoot other : Option String) :
    matchTrees options app lib libRoot = matchTrees options app lib other := by
  simp only [matchTrees, full, if_true]

/-- Profiles of the same hash trees give the same results if the root packages are the same or not
needed. -/
theorem results_matchProfile_congr {profile twin : LibProfile}
    (trees : twin.hashTrees = profile.hashTrees)
    (roots : options.fullOnly = true ∨ twin.rootPackage? = profile.rootPackage?)
    (app : AppProfile) :
    (matchProfile options app twin).results = (matchProfile options app profile).results := by
  have same : matchTree? options twin = matchTree? options profile := by
    funext tree
    rw [matchTree?, matchTree?, trees]
    cases HashTree.find? profile.hashTrees tree.config with
    | none => rfl
    | some libTree =>
        rcases roots with full | roots
        · exact congrArg Except.toOption (matchTrees_of_fullOnly full _ _)
        · simp only [roots]
  rw [matchProfile, matchProfile, same]
  exact LibraryMatch.results_foldl_add _ rfl

/-- Every result comes from a tree of the app and the tree of the library it was compared with. -/
theorem mem_results_matchProfile {app : AppProfile} {lib : LibProfile} {result : TreeMatch} :
    result ∈ (matchProfile options app lib).results ↔
      ∃ tree ∈ app.hashTrees, ∃ libTree, HashTree.find? lib.hashTrees tree.config = some libTree ∧
        matchTrees options tree libTree lib.rootPackage? = .ok result := by
  have fresh : (LibraryMatch.ofProfile lib).results = [] := rfl
  rw [matchProfile, LibraryMatch.mem_results_foldl_add, fresh, List.mem_filterMap,
    or_iff_right List.not_mem_nil]
  apply exists_congr
  intro tree
  apply and_congr_right
  intro _
  rw [matchTree?]
  cases HashTree.find? lib.hashTrees tree.config with
  | none => simp
  | some libTree =>
      simp only [Option.some.injEq, exists_eq_left']
      cases matchTrees options tree libTree lib.rootPackage? <;> simp [Except.toOption]

/-- A library that has a root package is never refused for want of one. -/
theorem verdict_ne_noRootPackage_of_rootPackage {lib : LibProfile} {root : String}
    (rooted : lib.rootPackage? = some root) (app : AppProfile) :
    ∀ result ∈ (matchProfile options app lib).results, result.verdict ≠ .noRootPackage := by
  intro result member unrooted
  obtain ⟨tree, -, libTree, -, matched⟩ := mem_results_matchProfile.mp member
  obtain ⟨-, rootless, -⟩ := (verdict_eq_noRootPackage_iff matched).mp unrooted
  rw [rooted] at rootless
  cases rootless

/-- Nothing can be contained where there is no package. -/
theorem not_contains_of_packages_eq_nil (bare : app.packages = []) (holds : lib.isEmpty = false) :
    ¬ Contains app lib := by
  intro contains
  obtain ⟨node, member⟩ := List.exists_mem_of_ne_nil _ (List.isEmpty_eq_false_iff.mp holds)
  have found := contains node member
  rw [bare] at found
  cases found

/-- An app of no classes cannot be compared with a library that has no root package. -/
theorem exists_unrooted_of_nothing {unit nothing : Hierarchy} {description : Description}
    {level : Verboseness} {profile : LibProfile}
    (created : LibProfile.create unit description level = .ok profile)
    (rootless : profile.rootPackage? = none) (partially : options.fullOnly = false)
    (none : nothing.classes = []) (appLevel : Verboseness) :
    ∃ result ∈ (matchProfile options (AppProfile.create nothing appLevel) profile).results,
      result.verdict = .noRootPackage := by
  have bare : (HashTree.build ⟨.standard, appLevel⟩ nothing).packages = [] := by
    rw [HashTree.build, HashTree.packages_buildFrom_eq_nil_iff, HashTree.survivors_appClasses, none]
    rfl
  have same : (HashTree.build ⟨.standard, level⟩ unit).config.recipe =
      (HashTree.build ⟨.standard, appLevel⟩ nothing).config.recipe := by
    rw [HashTree.config_build, HashTree.config_build]
  have missing := not_contains_of_packages_eq_nil bare (LibProfile.create_eq_ok_iff.mp created).1
  obtain ⟨result, matched, -, -, unrooted, -⟩ :=
    @matchTrees_of_not_contains options _ _ profile.rootPackage? same missing
  refine ⟨result, mem_results_matchProfile.mpr ?_, unrooted.mpr ⟨partially, rootless⟩⟩
  exact ⟨HashTree.build ⟨.standard, appLevel⟩ nothing, List.mem_cons_self, _,
    LibProfile.find?_standard_of_create created appLevel, matched⟩

end Matching

/-! ## What the order decides -/

/-- Whatever order the classes of a unit are listed in, its profile has the same hash trees, and
what matching by digests alone finds is the same. Its root package is one of the choices that the
package tree has, and each of these comes out for some order, so it depends on the order exactly
when there are several. As long as it is the same, all results of all matches are. -/
theorem LibProfile.create_of_reordered (hierarchy : Hierarchy) (distinct : hierarchy.Distinct)
    (description : Description) (level : Verboseness) (profile : LibProfile)
    (created : create hierarchy description level = .ok profile) :
    (∀ other, hierarchy.Reordered other →
      ∃ twin, create other description level = .ok twin ∧
        twin.hashTrees = profile.hashTrees ∧
        twin.rootPackage? ∈ profile.packageTree.rootChoices ∧
        ∀ options : Matching.Options,
          options.fullOnly = true ∨ twin.rootPackage? = profile.rootPackage? →
          ∀ app, (Matching.matchProfile options app twin).results =
            (Matching.matchProfile options app profile).results) ∧
    (∀ root ∈ profile.packageTree.rootChoices,
      ∃ other, hierarchy.Reordered other ∧
        ∃ twin, create other description level = .ok twin ∧ twin.rootPackage? = root) := by
  have tree : profile.packageTree = .ofPackages (hierarchy.appClasses.map ClassInfo.package) := by
    rw [(create_eq_ok_iff.mp created).2, ← Hierarchy.packageTree_eq]
  constructor
  · intro other reordered
    refine ⟨_, create_right_of_reordered reordered distinct created, rfl, ?_, ?_⟩
    · have packages := PackageTree.paths_perm reordered.packages_perm
      rw [rootPackage?, Hierarchy.packageTree_eq, tree]
      apply PackageTree.rootChoices_subset_of_records (PackageTree.records_ofPackages _)
      · exact (PackageTree.records_ofPackages _).of_perm packages
      · exact PackageTree.rootPackage?_mem_rootChoices _
    · intro options roots app
      refine Matching.results_matchProfile_congr ?_ roots app
      rfl
  · intro root member
    rw [tree] at member
    obtain ⟨first, found⟩ := PackageTree.exists_order_of_mem_rootChoices member
    have reordered := hierarchy.reordered_startingWith first
    refine ⟨_, reordered, _, create_right_of_reordered reordered distinct created, ?_⟩
    rw [rootPackage?, Hierarchy.packageTree_eq, Hierarchy.packages_startingWith]
    exact found

/-- Two packages of one class each, of which the one listed first is taken for the root. -/
theorem LibProfile.create_of_reordered_pair :
    let method : Method := ⟨"get", .single .isPublic, false, false, [], ⟨"I"⟩⟩
    let left := Hierarchy.ofClasses none
      [⟨"com.A", none, true, [method]⟩, ⟨"b.B", none, true, [method]⟩] Hierarchy.defaultFramework
    let right := Hierarchy.ofClasses none
      [⟨"b.B", none, true, [method]⟩, ⟨"com.A", none, true, [method]⟩] Hierarchy.defaultFramework
    let description : Description := ⟨"ui", .utilities, some "1.0", none, none⟩
    left.Distinct ∧ left.Reordered right ∧
      ∃ profile, create left description .normal = .ok profile ∧
        profile.packageTree.rootChoices = [none, some "b"] ∧
        ∃ twin, create right description .normal = .ok twin ∧
          twin.hashTrees = profile.hashTrees ∧
          twin.rootPackage? ∈ profile.packageTree.rootChoices := by
  intro method left right description
  have distinct : left.Distinct := by
    change ["com.A", "b.B"].Nodup
    decide
  have reordered : left.Reordered right :=
    ⟨rfl, left.classes, List.forall₂_same.mpr fun info _ => ⟨rfl, rfl, rfl, .refl _⟩, .swap _ _ _⟩
  have member : (⟨"com.A", none, true, [method]⟩ : ClassInfo) ∈ left.classes := List.mem_cons_self
  obtain ⟨profile, created⟩ := exists_create_of_survives member (by decide +kernel) description
    .normal
  have choices : profile.packageTree.rootChoices = [none, some "b"] := by
    rw [(create_eq_ok_iff.mp created).2]
    decide +kernel
  obtain ⟨always, -⟩ := create_of_reordered left distinct description .normal profile created
  obtain ⟨twin, twinCreated, trees, root, -⟩ := always right reordered
  exact ⟨distinct, reordered, profile, created, choices, twin, twinCreated, trees, root⟩

/-- The order of the classes decides whether there is a root package, and so whether an app without
any class is said not to contain the library or not to be comparable with it. -/
theorem LibProfile.create_of_tied_packages :
    let method : Method := ⟨"get", .single .isPublic, false, false, [], ⟨"I"⟩⟩
    let left := Hierarchy.ofClasses none
      [⟨"com.A", none, true, [method]⟩, ⟨"b.B", none, true, [method]⟩] Hierarchy.defaultFramework
    let right := Hierarchy.ofClasses none
      [⟨"b.B", none, true, [method]⟩, ⟨"com.A", none, true, [method]⟩] Hierarchy.defaultFramework
    let description : Description := ⟨"ui", .utilities, some "1.0", none, none⟩
    let app := AppProfile.create (Hierarchy.ofClasses none [] Hierarchy.defaultFramework) .normal
    left.Distinct ∧ left.classes.Perm right.classes ∧
      ∃ profile twin, create left description .normal = .ok profile ∧
        create right description .normal = .ok twin ∧
        profile.rootPackage? = none ∧ twin.rootPackage? = some "b" ∧
        (∃ result ∈ (Matching.matchProfile ⟨none, false⟩ app profile).results,
          result.verdict = .noRootPackage) ∧
        ∀ result ∈ (Matching.matchProfile ⟨none, false⟩ app twin).results,
          result.verdict ≠ .noRootPackage := by
  intro method left right description app
  have distinct : left.Distinct := by
    change ["com.A", "b.B"].Nodup
    decide
  have leftMem : (⟨"com.A", none, true, [method]⟩ : ClassInfo) ∈ left.classes := List.mem_cons_self
  have rightMem : (⟨"b.B", none, true, [method]⟩ : ClassInfo) ∈ right.classes := List.mem_cons_self
  obtain ⟨profile, created⟩ := exists_create_of_survives leftMem (by decide +kernel) description
    .normal
  obtain ⟨twin, twinCreated⟩ := exists_create_of_survives rightMem (by decide +kernel) description
    .normal
  have leftRoot : profile.rootPackage? = none := by
    rw [(create_eq_ok_iff.mp created).2]
    decide +kernel
  have rightRoot : twin.rootPackage? = some "b" := by
    rw [(create_eq_ok_iff.mp twinCreated).2]
    decide +kernel
  refine ⟨distinct, .swap _ _ _, profile, twin, created, twinCreated, leftRoot, rightRoot, ?_, ?_⟩
  · exact Matching.exists_unrooted_of_nothing created leftRoot rfl rfl .normal
  · exact Matching.verdict_ne_noRootPackage_of_rootPackage rightRoot app

end LibPrint
