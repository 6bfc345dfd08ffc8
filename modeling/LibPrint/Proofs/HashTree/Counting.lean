import LibPrint.Proofs.HashTree.Repetition
import Mathlib.Algebra.Order.BigOperators.Group.List
import Mathlib.Algebra.Order.Group.Nat
import Mathlib.Data.List.Perm.Subperm

/-!
# What a tree counts and what it has

Packages are counted when repeated ones have been left out, classes before that, and of the methods
all that each class keeps. So a tree that keeps everything it was built from has as many nodes as it
counts, while a class that is left out as a repetition, by itself or with its package, stays counted
with its methods although there is no node for it.
-/

namespace LibPrint

/-! ## Sums -/

theorem total_append (left right : List Nat) : total (left ++ right) = total left + total right :=
  List.sum_append

/-- A sum over parts is the sum of the sums over each part. -/
theorem total_flatMap {α β : Type} (items : List α) (parts : α → List β) (size : β → Nat) :
    total ((items.flatMap parts).map size) =
      total (items.map fun item => total ((parts item).map size)) := by
  rw [total, ← List.sum_eq_foldr, List.map_flatMap, List.flatMap_def, List.sum_flatten, List.map_map]
  rfl

/-- Sums of smaller numbers are smaller, and equal only when all numbers are. -/
theorem total_map_of_le {α : Type} {items : List α} {first second : α → Nat}
    (below : ∀ item ∈ items, first item ≤ second item) :
    total (items.map first) ≤ total (items.map second) ∧
      (total (items.map first) = total (items.map second) ↔
        ∀ item ∈ items, first item = second item) := by
  refine ⟨List.sum_le_sum below, ?_, ?_⟩
  · intro same
    by_contra! differs
    obtain ⟨item, member, different⟩ := differs
    have smaller : first item < second item :=
      Nat.lt_of_le_of_ne (below item member) different
    exact Nat.ne_of_lt (List.sum_lt_sum first second below ⟨item, member, smaller⟩) same
  · intro same
    rw [List.map_congr_left same]

theorem total_map_one {α : Type} (items : List α) :
    total (items.map fun _ => 1) = items.length := by
  rw [total, ← List.sum_eq_foldr, List.map_const', List.sum_replicate_nat, Nat.mul_one]

theorem total_map_pos {α : Type} {items : List α} {size : α → Nat} (occupied : items ≠ [])
    (positive : ∀ item ∈ items, 0 < size item) : 0 < total (items.map size) := by
  apply List.sum_pos _ (List.forall_mem_map.mpr positive)
  rw [ne_eq, List.map_eq_nil_iff]
  exact occupied

/-! ## What is left out -/

namespace Node

/-- The siblings that are not kept: none when repetitions are kept or when there are none. -/
theorem exists_dropped (filterDups : Bool) (nodes : List Node) :
    ∃ dropped, nodes.Perm (canonical filterDups nodes ++ dropped) ∧
      (dropped = [] ↔ filterDups = false ∨ (nodes.map digest).Nodup) := by
  have sorted := List.mergeSort_perm nodes fun left right => (compareSiblings left right).isLE
  cases filterDups with
  | false =>
      refine ⟨[], ?_, ⟨fun _ => .inl rfl, fun _ => rfl⟩⟩
      rw [List.append_nil]
      exact sorted.symm
  | true =>
      obtain ⟨dropped, parts⟩ := (canonical_sublist true nodes).exists_perm_append
      have whole : nodes.Perm (canonical true nodes ++ dropped) := sorted.symm.trans parts
      refine ⟨dropped, whole, ?_⟩
      have distinct := nodup_map_digest_canonical nodes
      simp only [Bool.true_eq_false, false_or]
      constructor
      · rintro rfl
        rw [List.append_nil] at whole
        exact (whole.map digest).nodup_iff.mpr distinct
      · intro nodup
        have all := whole.map digest
        rw [List.map_append] at all
        have apart := List.disjoint_of_nodup_append (all.nodup_iff.mp nodup)
        rw [List.eq_nil_iff_forall_not_mem]
        intro node member
        -- What is left out has the digest of something that is kept.
        have present : node.digest ∈ (canonical true nodes).map digest := by
          rw [map_digest_canonical, Digest.mem_canonical]
          exact List.mem_map_of_mem (whole.mem_iff.mpr (List.mem_append_right _ member))
        exact apart present (List.mem_map_of_mem member)

/-- Leaving out repetitions makes a sum over siblings smaller, unless there are none. -/
theorem total_canonical {size : Node → Nat} (filterDups : Bool) {nodes : List Node}
    (positive : ∀ node ∈ nodes, 0 < size node) :
    total ((canonical filterDups nodes).map size) ≤ total (nodes.map size) ∧
      (total ((canonical filterDups nodes).map size) = total (nodes.map size) ↔
        filterDups = false ∨ (nodes.map digest).Nodup) := by
  obtain ⟨dropped, parts, nothing⟩ := exists_dropped filterDups nodes
  have sums : total (nodes.map size) =
      total ((canonical filterDups nodes).map size) + total (dropped.map size) := by
    rw [← total_append, ← List.map_append]
    exact (parts.map size).sum_eq
  rw [← nothing, sums]
  refine ⟨Nat.le_add_right _ _, ?_⟩
  cases dropped with
  | nil => exact ⟨fun _ => rfl, fun _ => rfl⟩
  | cons node dropped =>
      have occupied := positive node (parts.mem_iff.mpr (by simp))
      have sum : total ((node :: dropped).map size) = size node + total (dropped.map size) := rfl
      constructor
      · omega
      · nofun

end Node

namespace HashTree

/-! ## Nodes of a tree -/

/-- No two packages and no two classes of one package have the same digest. -/
structure Undoubled (hash : List UInt8 → Digest) (recipe : Recipe) (hierarchy : Hierarchy)
    (classes : List ClassInfo) : Prop where
  packages : (packageDigests hash recipe (contents hash recipe hierarchy classes)).Nodup
  classes : ∀ package,
    (((contents hash recipe hierarchy classes).filter (·.1 == package)).map (·.2)).Nodup

section Sizes

variable (hash : List UInt8 → Digest) (recipe : Recipe) (hierarchy : Hierarchy)
  (classes : List ClassInfo)

/-- The node of a class with everything kept. -/
def classNode (info : ClassInfo) : Node :=
  (entry hash ⟨recipe, .trace⟩ hierarchy info).node

/-- The node of a package with everything kept. -/
def fullPackageNode (package : String) : Node :=
  packageNode hash ⟨recipe, .trace⟩
    ((survivors recipe classes).map (entry hash ⟨recipe, .trace⟩ hierarchy)) package

theorem packageNodes_trace :
    packageNodes hash ⟨recipe, .trace⟩ hierarchy classes =
      Node.canonical recipe.filterDups
        ((Text.sortDistinct ((survivors recipe classes).map ClassInfo.package)).map
          (fullPackageNode hash recipe hierarchy classes)) := rfl

theorem children_fullPackageNode (package : String) :
    (fullPackageNode hash recipe hierarchy classes package).children =
      Node.canonical recipe.filterDups
        (((survivors recipe classes).filter (·.package == package)).map
          (classNode hash recipe hierarchy)) := by
  simp only [fullPackageNode, packageNode, map_node_filter_entries]
  rfl

theorem length_children_classNode (info : ClassInfo) :
    (classNode hash recipe hierarchy info).children.length =
      (methodDigests hash recipe hierarchy info).length := by
  have children : (classNode hash recipe hierarchy info).children =
      Node.canonical recipe.filterDups
        ((admitted recipe info).map (methodNode hash ⟨recipe, .trace⟩ hierarchy info)) := rfl
  rw [children, Node.length_canonical, map_digest_methodNode]
  rfl

variable {hash recipe hierarchy classes}

/-- A class that is left has a method. -/
theorem methodDigests_ne_nil {info : ClassInfo} (left : survives recipe info = true) :
    methodDigests hash recipe hierarchy info ≠ [] := by
  simp only [survives, Bool.and_eq_true, Bool.not_eq_true', List.isEmpty_eq_false_iff] at left
  rw [methodDigests, ne_eq, Digest.canonical_eq_nil_iff, List.map_eq_nil_iff]
  exact left.2

variable {size : Node → Nat}
  (positive : ∀ info ∈ survivors recipe classes, 0 < size (classNode hash recipe hierarchy info))
include positive

/-- What the nodes of a package's classes come to, against all its classes. -/
theorem total_children_fullPackageNode (package : String) :
    total ((fullPackageNode hash recipe hierarchy classes package).children.map size) ≤
        total (((survivors recipe classes).filter (·.package == package)).map fun info =>
          size (classNode hash recipe hierarchy info)) ∧
      (total ((fullPackageNode hash recipe hierarchy classes package).children.map size) =
          total (((survivors recipe classes).filter (·.package == package)).map fun info =>
            size (classNode hash recipe hierarchy info)) ↔
        recipe.filterDups = false ∨
          (((contents hash recipe hierarchy classes).filter (·.1 == package)).map
            (·.2)).Nodup) := by
  have digests : ((contents hash recipe hierarchy classes).filter (·.1 == package)).map (·.2) =
      (((survivors recipe classes).filter (·.package == package)).map
        (classNode hash recipe hierarchy)).map Node.digest := by
    rw [map_snd_filter_contents, List.map_map]
    rfl
  have nodes := @Node.total_canonical size recipe.filterDups
    (((survivors recipe classes).filter (·.package == package)).map
      (classNode hash recipe hierarchy)) (by
      intro node member
      obtain ⟨info, infoMem, rfl⟩ := List.mem_map.mp member
      exact positive info (List.mem_filter.mp infoMem).1)
  rw [List.map_map] at nodes
  rw [children_fullPackageNode, digests]
  exact nodes

theorem total_children_pos {package : String}
    (used : package ∈ (survivors recipe classes).map ClassInfo.package) :
    0 < total ((fullPackageNode hash recipe hierarchy classes package).children.map size) := by
  obtain ⟨info, left, rfl⟩ := List.mem_map.mp used
  rw [children_fullPackageNode]
  apply total_map_pos
  · rw [← List.length_pos_iff, Node.length_canonical, List.length_pos_iff, ne_eq,
      Digest.canonical_eq_nil_iff, List.map_eq_nil_iff, List.map_eq_nil_iff]
    exact List.ne_nil_of_mem (List.mem_filter.mpr ⟨left, beq_self_eq_true _⟩)
  · intro node member
    obtain ⟨other, otherMem, rfl⟩ := List.mem_map.mp (Node.mem_of_mem_canonical member)
    exact positive other (List.mem_filter.mp otherMem).1

omit positive in
/-- All classes that are left, package by package. -/
theorem total_packages (weight : ClassInfo → Nat) :
    total ((survivors recipe classes).map weight) =
      total ((Text.sortDistinct ((survivors recipe classes).map ClassInfo.package)).map
        fun package =>
          total (((survivors recipe classes).filter (·.package == package)).map weight)) := by
  have groups := flatMap_filter_perm ClassInfo.package (survivors recipe classes)
    (Text.nodup_sortDistinct ((survivors recipe classes).map ClassInfo.package))
  have everything : (survivors recipe classes).filter (fun info =>
      (Text.sortDistinct ((survivors recipe classes).map ClassInfo.package)).contains
        info.package) = survivors recipe classes := by
    apply List.filter_eq_self.mpr
    intro info member
    rw [List.contains_iff_mem, Text.mem_sortDistinct]
    exact List.mem_map_of_mem member
  rw [everything] at groups
  rw [← total_flatMap]
  exact (groups.map weight).sum_eq.symm

omit positive in
theorem map_digest_fullPackageNode :
    ((Text.sortDistinct ((survivors recipe classes).map ClassInfo.package)).map
        (fullPackageNode hash recipe hierarchy classes)).map Node.digest =
      packageDigests hash recipe (contents hash recipe hierarchy classes) := by
  rw [packageDigests, map_fst_contents, List.map_map]
  apply List.map_congr_left
  intro package _
  exact digest_packageNode hash ⟨recipe, .trace⟩ hierarchy classes package

omit positive in
/-- A package without a class that is left has no digests to repeat. -/
theorem undoubled_iff :
    Undoubled hash recipe hierarchy classes ↔
      (packageDigests hash recipe (contents hash recipe hierarchy classes)).Nodup ∧
        ∀ package ∈ Text.sortDistinct ((survivors recipe classes).map ClassInfo.package),
          (((contents hash recipe hierarchy classes).filter (·.1 == package)).map (·.2)).Nodup := by
  constructor
  · rintro ⟨packages, inside⟩
    exact ⟨packages, fun package _ => inside package⟩
  · rintro ⟨packages, inside⟩
    refine ⟨packages, fun package => ?_⟩
    by_cases used : package ∈ (survivors recipe classes).map ClassInfo.package
    · exact inside package (Text.mem_sortDistinct.mpr used)
    · have nothing : ((contents hash recipe hierarchy classes).filter (·.1 == package)).map
          (·.2) = [] := by
        rw [List.eq_nil_iff_forall_not_mem]
        intro digest member
        obtain ⟨info, left, rfl, -⟩ := mem_digests_contents.mp member
        exact used (List.mem_map_of_mem left)
      rw [nothing]
      exact List.nodup_nil

/-- What all class nodes come to, against all classes that are left. Packages are left out as a
whole, and from those that are kept some classes. -/
theorem total_classNodes :
    total (((packageNodes hash ⟨recipe, .trace⟩ hierarchy classes).flatMap Node.children).map
        size) ≤
        total ((survivors recipe classes).map fun info =>
          size (classNode hash recipe hierarchy info)) ∧
      (total (((packageNodes hash ⟨recipe, .trace⟩ hierarchy classes).flatMap Node.children).map
          size) =
          total ((survivors recipe classes).map fun info =>
            size (classNode hash recipe hierarchy info)) ↔
        recipe.filterDups = false ∨ Undoubled hash recipe hierarchy classes) := by
  have packages := @Node.total_canonical (fun node => total (node.children.map size))
    recipe.filterDups ((Text.sortDistinct ((survivors recipe classes).map ClassInfo.package)).map
      (fullPackageNode hash recipe hierarchy classes)) (by
      intro node member
      obtain ⟨package, used, rfl⟩ := List.mem_map.mp member
      exact total_children_pos positive (Text.mem_sortDistinct.mp used))
  have inside := total_map_of_le fun package
      (_ : package ∈ Text.sortDistinct ((survivors recipe classes).map ClassInfo.package)) =>
    (total_children_fullPackageNode positive package).1
  rw [← total_packages] at inside
  rw [map_digest_fullPackageNode, ← packageNodes_trace, ← total_flatMap, List.map_map] at packages
  refine ⟨Nat.le_trans packages.1 inside.1, ?_⟩
  have both {low middle high : Nat} (first : low ≤ middle) (second : middle ≤ high) :
      low = high ↔ low = middle ∧ middle = high := by omega
  rw [both packages.1 inside.1]
  refine (and_congr packages.2 inside.2).trans ?_
  simp only [(total_children_fullPackageNode positive _).2, undoubled_iff]
  cases recipe.filterDups <;> simp

end Sizes

/-! ## Counts of a tree -/

section Build

variable (hash : List UInt8 → Digest) (config : TreeConfig) (hierarchy : Hierarchy)
  (classes : List ClassInfo)

/-- As many packages are counted, at any level, as there are nodes for them. -/
theorem stats_packages_eq :
    (buildFrom hash config hierarchy classes).stats.packages =
      (countNodes (buildFrom hash ⟨config.recipe, .trace⟩ hierarchy classes)).packages := by
  have digests : (buildFrom hash config hierarchy classes).packages.map Node.digest =
      (buildFrom hash ⟨config.recipe, .trace⟩ hierarchy classes).packages.map Node.digest := by
    rw [map_digest_packages_buildFrom, map_digest_packages_buildFrom]
  rw [stats_buildFrom, digests, List.length_map]
  rfl

/-- Every class that is left is counted, and there are fewer nodes as soon as one is left out. -/
theorem stats_classes :
    (countNodes (buildFrom hash ⟨config.recipe, .trace⟩ hierarchy classes)).classes ≤
        (buildFrom hash config hierarchy classes).stats.classes ∧
      ((countNodes (buildFrom hash ⟨config.recipe, .trace⟩ hierarchy classes)).classes =
          (buildFrom hash config hierarchy classes).stats.classes ↔
        config.recipe.filterDups = false ∨
          Undoubled hash config.recipe hierarchy classes) := by
  have nodes := @total_classNodes hash config.recipe hierarchy classes (fun _ => 1)
    fun _ _ => Nat.one_pos
  rw [total_map_one, total_map_one, ← packages_buildFrom] at nodes
  rw [stats_buildFrom]
  exact nodes

/-- Methods are counted with the classes they belong to, whether or not these are kept. -/
theorem stats_methods :
    (countNodes (buildFrom hash ⟨config.recipe, .trace⟩ hierarchy classes)).methods ≤
        (buildFrom hash config hierarchy classes).stats.methods ∧
      ((countNodes (buildFrom hash ⟨config.recipe, .trace⟩ hierarchy classes)).methods =
          (buildFrom hash config hierarchy classes).stats.methods ↔
        config.recipe.filterDups = false ∨
          Undoubled hash config.recipe hierarchy classes) := by
  have nodes := @total_classNodes hash config.recipe hierarchy classes
    (fun node => node.children.length) (by
      intro info left
      rw [length_children_classNode, List.length_pos_iff]
      exact methodDigests_ne_nil (mem_survivors.mp left).2)
  simp only [length_children_classNode, ← packages_buildFrom] at nodes
  have counted : (countNodes (buildFrom hash ⟨config.recipe, .trace⟩ hierarchy classes)).methods =
      total (((buildFrom hash ⟨config.recipe, .trace⟩ hierarchy classes).packages.flatMap
        Node.children).map fun node => node.children.length) :=
    List.length_flatMap
  rw [stats_buildFrom, counted]
  exact nodes

end Build

/-- The packages that are counted are the package nodes. Of classes and methods there are as many
nodes as are counted when siblings of equal digest are all kept or when no packages, and no classes
of one package, are of equal digest, and fewer otherwise. -/
theorem stats_build (config : TreeConfig) (hierarchy : Hierarchy) :
    let hash := config.recipe.algorithm.digest
    let counted := (build config hierarchy).stats
    let nodes := countNodes (build { config with verboseness := .trace } hierarchy)
    let repetitionFree := config.recipe.filterDups = false ∨
      Undoubled hash config.recipe hierarchy hierarchy.appClasses
    counted.packages = nodes.packages ∧
      counted.classes = (config.recipe.classesOf hierarchy).length ∧
      counted.methods = total ((config.recipe.classesOf hierarchy).map fun info =>
        (methodDigests hash config.recipe hierarchy info).length) ∧
      nodes.classes ≤ counted.classes ∧ nodes.methods ≤ counted.methods ∧
      (counted.classes = nodes.classes ↔ repetitionFree) ∧
      (counted.methods = nodes.methods ↔ repetitionFree) := by
  intro hash counted nodes repetitionFree
  obtain ⟨fewerClasses, sameClasses⟩ := stats_classes hash config hierarchy hierarchy.appClasses
  obtain ⟨fewerMethods, sameMethods⟩ := stats_methods hash config hierarchy hierarchy.appClasses
  have stats := stats_buildFrom hash config hierarchy hierarchy.appClasses
  rw [survivors_appClasses, survivors_eq_classesOf] at stats
  exact ⟨stats_packages_eq hash config hierarchy hierarchy.appClasses,
    congrArg TreeStats.classes stats, congrArg TreeStats.methods stats, fewerClasses,
    fewerMethods, eq_comm.trans sameClasses, eq_comm.trans sameMethods⟩

/-- Two classes of one package with the same method are both counted, while there is one node for
them when siblings of equal digest are kept once. -/
theorem stats_ne_countNodes_of_twins :
    let get : Method := ⟨"get", .single .isPublic, false, false, [], ⟨"I"⟩⟩
    let hierarchy := Hierarchy.ofClasses none
      [⟨"a.B", none, true, [get]⟩, ⟨"a.C", none, true, [get]⟩] Hierarchy.defaultFramework
    let recipe : Recipe := { Recipe.standard with filterDups := true }
    let counted := (build ⟨recipe, .trace⟩ hierarchy).stats
    let nodes := countNodes (build ⟨recipe, .trace⟩ hierarchy)
    counted.classes ≠ nodes.classes ∧ counted.methods ≠ nodes.methods := by
  intro get hierarchy recipe counted nodes
  have once : recipe.filterDups = true := rfl
  have gists : classGist recipe hierarchy ⟨"a.B", none, true, [get]⟩ =
      classGist recipe hierarchy ⟨"a.C", none, true, [get]⟩ := by decide +kernel
  have digests := @classDigest_of_classGist recipe.algorithm.digest recipe once hierarchy hierarchy
    ⟨"a.B", none, true, [get]⟩ ⟨"a.C", none, true, [get]⟩ gists
  have left : (survivors recipe hierarchy.appClasses).filter (·.package == "a") =
      [⟨"a.B", none, true, [get]⟩, ⟨"a.C", none, true, [get]⟩] := by decide +kernel
  have doubled : ¬ (recipe.filterDups = false ∨
      Undoubled recipe.algorithm.digest recipe hierarchy hierarchy.appClasses) := by
    rintro (kept | undoubled)
    · rw [once] at kept
      cases kept
    · have distinct := undoubled.classes "a"
      rw [map_snd_filter_contents, left, List.map_cons, List.nodup_cons] at distinct
      exact distinct.1 (List.mem_cons.mpr (.inl digests))
  exact ⟨fun same => doubled ((stats_classes _ ⟨recipe, .trace⟩ hierarchy _).2.mp same.symm),
    fun same => doubled ((stats_methods _ ⟨recipe, .trace⟩ hierarchy _).2.mp same.symm)⟩

end HashTree

end LibPrint
