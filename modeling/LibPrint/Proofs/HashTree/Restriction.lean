import LibPrint.Proofs.HashTree.Content

/-!
# The part of a tree at or below a package

A part of a tree is taken out by the names of its packages, after everything was put in order and
hashed. It is what building from the classes of these packages alone gives: a package sees no
classes but its own, and different packages of equal digest are told apart by their names, so that
the order among those that are kept does not depend on those that are not.
-/

namespace LibPrint.HashTree

/-- The classes of the packages at or below the given one. -/
def classesWithin (root : String) (classes : List ClassInfo) : List ClassInfo :=
  classes.filter fun info => Package.isWithin info.package root

theorem survivors_classesWithin (recipe : Recipe) (root : String) (classes : List ClassInfo) :
    survivors recipe (classesWithin root classes) =
      classesWithin root (survivors recipe classes) := by
  rw [survivors, classesWithin, List.filter_filter, classesWithin, survivors, List.filter_filter]
  congr 1
  funext info
  exact Bool.and_comm _ _

/-- The packages of the classes that are left are those at or below the given one. -/
theorem map_package_classesWithin (root : String) (classes : List ClassInfo) :
    (classesWithin root classes).map ClassInfo.package =
      (classes.map ClassInfo.package).filter fun package => Package.isWithin package root := by
  rw [classesWithin, List.filter_map]
  rfl

/-- A package at or below the given one has all of its classes there. -/
theorem filter_classesWithin {root package : String}
    (within : Package.isWithin package root = true) (classes : List ClassInfo) :
    (classesWithin root classes).filter (·.package == package) =
      classes.filter (·.package == package) := by
  rw [classesWithin, List.filter_filter]
  apply List.filter_congr
  intro info _
  by_cases own : info.package = package
  · rw [own, within, Bool.and_true]
  · rw [beq_false_of_ne own, Bool.false_and]

section Build

variable (hash : List UInt8 → Digest) (config : TreeConfig) (hierarchy : Hierarchy)
  (classes : List ClassInfo) (root : String)

theorem packageNode_classesWithin {package : String}
    (within : Package.isWithin package root = true) :
    packageNode hash config ((classesWithin root classes).map (entry hash config hierarchy))
        package =
      packageNode hash config (classes.map (entry hash config hierarchy)) package := by
  simp only [packageNode, map_node_filter_entries, filter_classesWithin within]

variable {config} (named : config.verboseness.keepsPackageNames = true)
include named

theorem packageName?_packageNode (entries : List ClassEntry) (package : String) :
    (packageNode hash config entries package).packageName? = some package := by
  simp only [packageNode, Node.packageName?, Node.kind, named, if_true]

/-- Packages of equal name are the same one. -/
theorem packageNode_ties (entries : List ClassEntry) (names : List String) :
    ∀ first ∈ names.map (packageNode hash config entries),
      ∀ second ∈ names.map (packageNode hash config entries),
        first.digest = second.digest → first.label = second.label → first = second := by
  simp only [List.forall_mem_map]
  intro package _ other _ _ labels
  simp only [packageNode, Node.label, Node.kind, NodeKind.label, named, if_true,
    Option.some.injEq] at labels
  rw [labels]

/-- The packages of a tree at or below a given one are those of the tree over their classes. -/
theorem packageNodes_classesWithin (repeated : config.recipe.filterDups = false) :
    packageNodes hash config hierarchy (classesWithin root classes) =
      (packageNodes hash config hierarchy classes).filter fun node =>
        node.packageName?.any fun name => Package.isWithin name root := by
  let whole := packageNode hash config
    ((survivors config.recipe classes).map (entry hash config hierarchy))
  have kept : ((fun node : Node => node.packageName?.any fun name =>
      Package.isWithin name root) ∘ whole) = fun package => Package.isWithin package root := by
    funext package
    rw [Function.comp, packageName?_packageNode hash named, Option.any_some]
  rw [packageNodes, packageNodes, repeated,
    ← Node.canonical_filter _ (packageNode_ties hash named _ _), List.filter_map, kept,
    ← Text.sortDistinct_filter, survivors_classesWithin, map_package_classesWithin]
  congr 1
  apply List.map_congr_left
  intro package member
  rw [Text.mem_sortDistinct] at member
  exact packageNode_classesWithin hash config hierarchy _ root (List.mem_filter.mp member).2

end Build

/-- Taking the packages at or below a given one out of a tree that names its packages and keeps
repeated ones is building from their classes alone: one gives nothing when the other does, and
otherwise both give the same hashes and the same nodes in the same order. -/
theorem restrict?_build {config : TreeConfig} (hierarchy : Hierarchy) (root : String)
    (repeated : config.recipe.filterDups = false)
    (named : Verboseness.minimal.rank ≤ config.verboseness.rank) :
    let part := buildFrom config.recipe.algorithm.digest config hierarchy
      (classesWithin root hierarchy.appClasses)
    ((build config hierarchy).restrict? root = none ↔ part.isEmpty = true) ∧
      ∀ tree, (build config hierarchy).restrict? root = some tree →
        tree.config = config ∧ tree.root.digest = part.root.digest ∧
          tree.packages = part.packages ∧ tree.stats.packages = part.stats.packages := by
  intro part
  have packages : (build config hierarchy).packages.filter (fun node =>
      node.packageName?.any fun name => Package.isWithin name root) = part.packages := by
    rw [build, packages_buildFrom, packages_buildFrom,
      packageNodes_classesWithin _ hierarchy _ root (decide_eq_true named) repeated]
  have taken : (build config hierarchy).restrict? root =
      if part.isEmpty then none
      else some (ofPackages config part.packages
        ⟨part.packages.length, total (part.packages.map (·.children.length)), 0⟩) := by
    rw [restrict?, packages]
    rfl
  rw [taken]
  cases part.isEmpty with
  | true => simp
  | false =>
      refine ⟨by simp, ?_⟩
      rintro _ ⟨⟩
      exact ⟨rfl, rfl, rfl, rfl⟩

/-- Two of three packages of the same digest are taken out of a tree, and from beside all of them
nothing. -/
theorem restrict?_build_siblings :
    let get : Method := ⟨"get", .single .isPublic, false, false, [], ⟨"I"⟩⟩
    let hierarchy := Hierarchy.ofClasses none
      [⟨"a.b.C", none, true, [get]⟩, ⟨"ab.C", none, true, [get]⟩, ⟨"a.C", none, true, [get]⟩]
      Hierarchy.defaultFramework
    let config : TreeConfig := ⟨.standard, .minimal⟩
    let part := buildFrom config.recipe.algorithm.digest config hierarchy
      [⟨"a.b.C", none, true, [get]⟩, ⟨"a.C", none, true, [get]⟩]
    config.recipe.filterDups = false ∧ Verboseness.minimal.rank ≤ config.verboseness.rank ∧
      (build config hierarchy).restrict? "b" = none ∧
      ∃ tree, (build config hierarchy).restrict? "a" = some tree ∧
        tree.root.digest = part.root.digest ∧ tree.packages = part.packages := by
  intro get hierarchy config part
  have repeated : config.recipe.filterDups = false := rfl
  have named : Verboseness.minimal.rank ≤ config.verboseness.rank := by decide
  obtain ⟨nothing, -⟩ := restrict?_build hierarchy "b" repeated named
  obtain ⟨something, same⟩ := restrict?_build hierarchy "a" repeated named
  have classes : classesWithin "a" hierarchy.appClasses =
      [⟨"a.b.C", none, true, [get]⟩, ⟨"a.C", none, true, [get]⟩] := by decide +kernel
  have beside : classesWithin "b" hierarchy.appClasses = [] := by decide +kernel
  rw [classes] at something same
  rw [beside] at nothing
  have occupied : part.isEmpty = false := by
    rw [isEmpty, List.isEmpty_eq_false_iff, ne_eq, packages_buildFrom_eq_nil_iff]
    decide +kernel
  cases taken : (build config hierarchy).restrict? "a" with
  | none =>
      rw [something.mp taken] at occupied
      cases occupied
  | some tree =>
      obtain ⟨-, digest, packages, -⟩ := same tree taken
      refine ⟨repeated, named, nothing.mpr ?_, tree, rfl, digest, packages⟩
      rw [isEmpty, List.isEmpty_iff, packages_buildFrom_eq_nil_iff]
      rfl

end LibPrint.HashTree
