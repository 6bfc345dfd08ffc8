import LibPrint.Proofs.HashTree.Erasure
import LibPrint.Proofs.Matching.Outcome
import LibPrint.Proofs.Matching.Outline

/-!
# Matching does not depend on verboseness

From the level on that keeps the nodes of classes, a tree has all that matching sees, and what more
it keeps changes neither the order of its packages nor that of their classes. Such trees all have
the outline of the tree at that level. Containment needs the digests of packages only, which every
tree has.
-/

namespace LibPrint

/-! ## Outlines of built trees -/

namespace HashTree

section Build

variable (hash : List UInt8 → Digest) (recipe : Recipe) {level : Verboseness}
  (detailed : Verboseness.normal.rank ≤ level.rank) (hierarchy : Hierarchy)

/-- At the normal level nothing is kept of a class but its digest. -/
theorem node_entry_normal (info : ClassInfo) :
    (entry hash ⟨recipe, .normal⟩ hierarchy info).node =
      .mk (classDigest hash recipe hierarchy info) (.class none) [] := rfl

include detailed

theorem outline_packageNode (classes : List ClassInfo) (package : String) :
    (packageNode hash ⟨recipe, level⟩
        (classes.map (entry hash ⟨recipe, level⟩ hierarchy)) package).outline =
      packageNode hash ⟨recipe, .normal⟩
        (classes.map (entry hash ⟨recipe, .normal⟩ hierarchy)) package := by
  have nodes := map_erase_classNodes hash recipe detailed hierarchy
    (classes.filter (·.package == package))
  have names : level.keepsPackageNames = true :=
    Verboseness.keeps_of_le detailed (by decide)
  have kept : level.keepsClassNodes = true := Verboseness.keeps_of_le detailed (by decide)
  have bare : ∀ node ∈ Node.canonical recipe.filterDups
      ((classes.filter (·.package == package)).map fun info =>
        (entry hash ⟨recipe, level⟩ hierarchy info).node),
      Node.mk node.digest (.class none) [] = node.erase .normal := by
    intro node member
    obtain ⟨info, _, rfl⟩ := List.mem_map.mp (Node.mem_of_mem_canonical member)
    rw [erase_entry hash recipe detailed hierarchy info, node_entry_normal]
    rfl
  simp only [packageNode, map_node_filter_entries, Node.outline, names, kept, if_true]
  rw [← nodes, Node.combined_map_erase, List.map_congr_left bare]
  rfl

/-- All trees that keep the nodes of classes have one outline. -/
theorem outline_buildFrom (classes : List ClassInfo) :
    (buildFrom hash ⟨recipe, level⟩ hierarchy classes).outline =
      buildFrom hash ⟨recipe, .normal⟩ hierarchy classes := by
  have packages : (packageNodes hash ⟨recipe, level⟩ hierarchy classes).map Node.outline =
      packageNodes hash ⟨recipe, .normal⟩ hierarchy classes := by
    rw [packageNodes, packageNodes, Node.map_canonical_of_label, List.map_map]
    · congr 1
      apply List.map_congr_left
      intro package _
      exact outline_packageNode hash recipe detailed hierarchy _ package
    · intro node _
      exact Node.digest_outline node
    · intro node _
      exact Node.label_outline node
  have digests : (packageNodes hash ⟨recipe, level⟩ hierarchy classes).map Node.digest =
      (packageNodes hash ⟨recipe, .normal⟩ hierarchy classes).map Node.digest := by
    rw [← packages, List.map_map]
    apply List.map_congr_left
    intro node _
    exact (Node.digest_outline node).symm
  have root : Node.combined hash (packageNodes hash ⟨recipe, level⟩ hierarchy classes) =
      Node.combined hash (packageNodes hash ⟨recipe, .normal⟩ hierarchy classes) := by
    rw [Node.combined_eq, Node.combined_eq, digests]
  have count := congrArg List.length packages
  rw [List.length_map] at count
  rw [buildFrom_eq, buildFrom_eq, outline, HashTree.packages, Node.children, packages, root, count]
  rfl

end Build

/-- The tree of a unit has the outline of its tree at the normal level. -/
theorem outline_build (recipe : Recipe) {level : Verboseness}
    (detailed : Verboseness.normal.rank ≤ level.rank) (hierarchy : Hierarchy) :
    (build ⟨recipe, level⟩ hierarchy).outline = build ⟨recipe, .normal⟩ hierarchy :=
  outline_buildFrom _ recipe detailed hierarchy _

end HashTree

/-! ## Matching at several levels -/

/-- What is told about a library: the verdict with its score, the root package that was found, and
the names of the packages. -/
def TreeMatch.told (result : TreeMatch) : Verdict × Option String × List String :=
  (result.verdict, result.rootPackage, result.packageNames)

@[simp] theorem TreeMatch.told_outline (result : TreeMatch) : result.outline.told = result.told := by
  rw [told, told, packageNames_outline]
  rfl

namespace Matching

open HashTree

variable (options : Options) (libRoot : Option String) (app lib : Hierarchy)
  (appRecipe libRecipe : Recipe) {appLevel libLevel : Verboseness}

/-- Where the nodes of classes are kept, the same is told as at the normal level. -/
theorem told_matchTrees_normal (appDetailed : Verboseness.normal.rank ≤ appLevel.rank)
    (libDetailed : Verboseness.normal.rank ≤ libLevel.rank) :
    (matchTrees options (build ⟨appRecipe, appLevel⟩ app) (build ⟨libRecipe, libLevel⟩ lib)
        libRoot).map TreeMatch.told =
      (matchTrees options (build ⟨appRecipe, .normal⟩ app) (build ⟨libRecipe, .normal⟩ lib)
        libRoot).map TreeMatch.told := by
  rw [← outline_build appRecipe appDetailed app, ← outline_build libRecipe libDetailed lib,
    matchTrees_outline]
  cases matchTrees options (build ⟨appRecipe, appLevel⟩ app) (build ⟨libRecipe, libLevel⟩ lib)
      libRoot with
  | error failure => rfl
  | ok result => exact congrArg Except.ok (TreeMatch.told_outline result).symm

/-- Full containment by digests is the same at all levels, those that keep no names included. -/
theorem inclusive_build_iff (appLevel libLevel : Verboseness) :
    Inclusive (matchTrees options (build ⟨appRecipe, appLevel⟩ app)
        (build ⟨libRecipe, libLevel⟩ lib) libRoot) ↔
      Inclusive (matchTrees options (build ⟨appRecipe, .normal⟩ app)
        (build ⟨libRecipe, .normal⟩ lib) libRoot) := by
  have appDigests := digests_build_of_verboseness appRecipe app appLevel .normal
  have libDigests := digests_build_of_verboseness libRecipe lib libLevel .normal
  have occupied : (build ⟨libRecipe, libLevel⟩ lib).packages = [] ↔
      (build ⟨libRecipe, .normal⟩ lib).packages = [] := by
    rw [← List.map_eq_nil_iff, libDigests, List.map_eq_nil_iff]
  rw [inclusive_iff, inclusive_iff, contains_iff, contains_iff, appDigests, libDigests, ne_eq, ne_eq,
    occupied]
  rfl

/-- What is told about a library does not depend on how verbose the two trees are, as long as both
keep the nodes of classes. Whether the digests alone decide for full containment does not depend on
it at all. -/
theorem matchTrees_of_verboseness (appLevel appOther libLevel libOther : Verboseness) :
    (Verboseness.normal.rank ≤ appLevel.rank → Verboseness.normal.rank ≤ appOther.rank →
      Verboseness.normal.rank ≤ libLevel.rank → Verboseness.normal.rank ≤ libOther.rank →
      (matchTrees options (build ⟨appRecipe, appLevel⟩ app) (build ⟨libRecipe, libLevel⟩ lib)
          libRoot).map TreeMatch.told =
        (matchTrees options (build ⟨appRecipe, appOther⟩ app) (build ⟨libRecipe, libOther⟩ lib)
          libRoot).map TreeMatch.told) ∧
    (Inclusive (matchTrees options (build ⟨appRecipe, appLevel⟩ app)
        (build ⟨libRecipe, libLevel⟩ lib) libRoot) ↔
      Inclusive (matchTrees options (build ⟨appRecipe, appOther⟩ app)
        (build ⟨libRecipe, libOther⟩ lib) libRoot)) := by
  constructor
  · intro appDetailed appAlso libDetailed libAlso
    rw [told_matchTrees_normal options libRoot app lib appRecipe libRecipe appDetailed libDetailed,
      told_matchTrees_normal options libRoot app lib appRecipe libRecipe appAlso libAlso]
  · rw [inclusive_build_iff options libRoot app lib appRecipe libRecipe appLevel libLevel,
      inclusive_build_iff options libRoot app lib appRecipe libRecipe appOther libOther]

/-- A library of two classes is compared with an app that lacks one of them, with trees of
signatures and with trees of class digests alone. -/
theorem matchTrees_of_verboseness_part :
    let get : Method := ⟨"get", .single .isPublic, false, false, [], ⟨"I"⟩⟩
    let put : Method := ⟨"put", .single .isPublic, false, false, [⟨"I"⟩], ⟨"V"⟩⟩
    let lib := Hierarchy.ofClasses none
      [⟨"a.B", none, true, [get]⟩, ⟨"a.C", none, true, [get, put]⟩] Hierarchy.defaultFramework
    let app := Hierarchy.ofClasses none [⟨"x.Y", none, true, [get]⟩] Hierarchy.defaultFramework
    Verboseness.normal.rank ≤ Verboseness.trace.rank ∧
      (matchTrees ⟨none, false⟩ (build ⟨.standard, .trace⟩ app) (build ⟨.standard, .normal⟩ lib)
          (some "a")).map TreeMatch.told =
        (matchTrees ⟨none, false⟩ (build ⟨.standard, .normal⟩ app) (build ⟨.standard, .trace⟩ lib)
          (some "a")).map TreeMatch.told := by
  intro get put lib app
  have detailed : Verboseness.normal.rank ≤ Verboseness.trace.rank := by decide
  obtain ⟨told, -⟩ := matchTrees_of_verboseness ⟨none, false⟩ (some "a") app lib .standard .standard
    .trace .normal .normal .trace
  exact ⟨detailed, told detailed le_rfl le_rfl detailed⟩

end Matching

end LibPrint
