import LibPrint.Proofs.Package.Walking
import LibPrint.Proofs.Sorting
import Mathlib.Algebra.BigOperators.Group.List.Lemmas

/-!
# A package tree as a counting map

What a tree tells about packages is told by the names it was given and nothing else: how often each
accepted name was given, up to empty segments, and which names these begin with. This is read off
the tree by different ways, following a path, walking it, and taking heights and sums, and all of
them give the same account, whatever the order of the names.
-/

namespace LibPrint

namespace Package

/-- The name of the same package without empty segments. -/
def normal (name : String) : String :=
  join (segments name)

end Package

namespace PackageTree

open PackageNode

/-- The names that are accepted, each without its empty segments and as often as it occurs. -/
def recorded (packages : List String) : List String :=
  (packages.filter accepts).map Package.normal

/-- The tree tells what the names say that it was given. -/
structure Counts (packages : List String) (tree : PackageTree) : Prop where
  packagesAscend : (tree.packages.map Prod.fst).Pairwise (· < ·)
  mem_packages : ∀ name count, (name, count) ∈ tree.packages ↔
    0 < count ∧ count = (recorded packages).count name
  classCount : tree.classCount = (packages.filter accepts).length
  allPackagesAscend : tree.allPackages.Pairwise (· < ·)
  mem_allPackages : ∀ name, name ∈ tree.allPackages ↔ ∃ package ∈ packages,
    accepts package = true ∧ ∃ front, front ≠ [] ∧ front <+: Package.segments package ∧
      name = Package.join front
  exists_locate? : ∀ name, (∃ node, tree.locate? name = some node) ↔
    Package.normal name = "" ∨ Package.normal name ∈ tree.allPackages
  /-- The node of a package counts the calls with its name. -/
  classCount_of_locate? : ∀ name node, tree.locate? name = some node →
    node.classCount = (recorded packages).count (Package.normal name)
  contains : ∀ name, tree.contains name = true ↔
    Package.normal name = "" ∨ Package.normal name ∈ tree.allPackages
  depth_le_iff : ∀ bound, tree.depth ≤ bound ↔
    ∀ package ∈ packages, accepts package = true → Package.depth package ≤ bound
  depth_le_maxDepth : tree.depth ≤ maxDepth
  siblings : ∀ package node, (package, node) ∈ tree.walk →
    (node.children.map PackageNode.name).Nodup ∧
      Package.AreSegments (node.children.map PackageNode.name)

/-- Trees that give the same account of packages. -/
structure SameViews (left right : PackageTree) : Prop where
  packages : left.packages = right.packages
  classCount : left.classCount = right.classCount
  allPackages : left.allPackages = right.allPackages
  locate? : ∀ name, (left.locate? name).map PackageNode.classCount =
    (right.locate? name).map PackageNode.classCount
  contains : ∀ name, left.contains name = right.contains name
  depth : left.depth = right.depth

/-! ## The names of a tree -/

theorem recorded_eq (packages : List String) :
    recorded packages = (paths packages).map Package.join := by
  rw [recorded, paths, List.map_map]
  rfl

/-- Names are counted as the paths they spell. -/
theorem count_recorded (packages : List String) {way : List String}
    (valid : Package.AreSegments way) :
    (recorded packages).count (Package.join way) = (paths packages).count way := by
  rw [recorded_eq, List.count, List.countP_map, List.count]
  apply List.countP_congr
  intro path member
  simp [Package.join_inj (areSegments_of_mem_paths path member) valid]

section Views

variable {tree : PackageTree} {packages : List String}
  (records : tree.root.Records (paths packages))
include records

/-! ## Following and walking -/

/-- Nodes lie at the paths that recorded ones begin with. -/
theorem exists_node_iff {way : List String} :
    (∃ node, tree.root.locate? way = some node) ↔
      way = [] ∨ ∃ path ∈ paths packages, way <+: path := by
  rw [records.exists_locate?_iff]
  apply or_congr_right
  constructor
  · rintro ⟨rest, member⟩
    exact ⟨_, member, List.prefix_append way rest⟩
  · rintro ⟨_, member, rest, rfl⟩
    exact ⟨rest, member⟩

theorem areSegments_of_node {way : List String} {node : PackageNode}
    (found : tree.root.locate? way = some node) : Package.AreSegments way := by
  rcases (exists_node_iff records).mp ⟨node, found⟩ with rfl | ⟨path, member, start⟩
  · nofun
  · exact (areSegments_of_mem_paths path member).of_subset start.subset

/-- The node a path leads to counts how often the path was recorded. -/
theorem classCount_of_node {way : List String} {node : PackageNode}
    (found : tree.root.locate? way = some node) :
    node.classCount = (recorded packages).count (Package.join way) := by
  have below := records.of_locate? found
  rw [count_recorded packages (areSegments_of_node records found), below.classCount_eq,
    count_restsAlong, List.append_nil]

theorem mem_walk_iff {name : String} {node : PackageNode} :
    (name, node) ∈ tree.walk ↔
      ∃ way, tree.root.locate? way = some node ∧ name = Package.join way := by
  have top : Package.AreSegments [] := by nofun
  exact records.mem_walk_iff areSegments_of_mem_paths top

/-! ## The packages with classes -/

/-- The packages met on a walk that have classes, with their counts. -/
theorem mem_entries_iff {name : String} {count : Nat} :
    (∃ node, (name, node) ∈ tree.walk ∧ node.hasClasses = true ∧ node.classCount = count) ↔
      0 < count ∧ count = (recorded packages).count name := by
  constructor
  · rintro ⟨node, member, occupied, rfl⟩
    obtain ⟨way, found, rfl⟩ := (mem_walk_iff records).mp member
    exact ⟨of_decide_eq_true occupied, classCount_of_node records found⟩
  · rintro ⟨positive, rfl⟩
    have called := List.count_pos_iff.mp positive
    rw [recorded_eq] at called
    obtain ⟨path, member, rfl⟩ := List.mem_map.mp called
    obtain ⟨node, found⟩ := (exists_node_iff records).mpr (.inr ⟨path, member, List.prefix_rfl⟩)
    have counted := classCount_of_node records found
    refine ⟨node, (mem_walk_iff records).mpr ⟨path, found, rfl⟩, ?_, counted⟩
    rw [hasClasses, counted]
    exact decide_eq_true positive

/-- Entries of one name have one count, so it does not matter which of them is kept. -/
theorem mem_packages_iff {name : String} {count : Nat} :
    (name, count) ∈ tree.packages ↔ 0 < count ∧ count = (recorded packages).count name := by
  let found := (tree.walk.filter (·.2.hasClasses)).map fun entry => (entry.1, entry.2.classCount)
  have mem_found (entry : String × Nat) :
      entry ∈ found ↔ 0 < entry.2 ∧ entry.2 = (recorded packages).count entry.1 := by
    rw [← mem_entries_iff records]
    simp only [found, List.mem_map, List.mem_filter, Prod.exists]
    constructor
    · rintro ⟨package, node, ⟨member, occupied⟩, rfl⟩
      exact ⟨node, member, occupied, rfl⟩
    · rintro ⟨node, member, occupied, counted⟩
      exact ⟨entry.1, node, ⟨member, occupied⟩, Prod.ext rfl counted⟩
  have kept (entry : String × Nat) (member : entry ∈ tree.packages) : entry ∈ found := by
    rw [PackageTree.packages, eraseRepsBy_eq_destutter] at member
    exact List.mem_reverse.mp
      (List.mem_mergeSort.mp ((List.destutter_sublist _ _).subset member))
  refine ⟨fun member => (mem_found _).mp (kept _ member), ?_⟩
  intro counted
  have key : name ∈ tree.packages.map Prod.fst := by
    rw [PackageTree.packages, Text.map_fst_eraseRepsBy, Text.mem_sortDistinct, List.map_reverse,
      List.mem_reverse]
    exact List.mem_map_of_mem ((mem_found (name, count)).mpr counted)
  obtain ⟨⟨_, other⟩, member, rfl⟩ := List.mem_map.mp key
  have same : other = count := ((mem_found _).mp (kept _ member)).2.trans counted.2.symm
  rwa [← same]

omit records in
theorem pairwise_packages (tree : PackageTree) :
    (tree.packages.map Prod.fst).Pairwise (· < ·) := by
  rw [PackageTree.packages, Text.map_fst_eraseRepsBy]
  exact Text.pairwise_sortDistinct _

/-- Every accepted call is counted once. -/
theorem classCount_eq : tree.classCount = (packages.filter accepts).length := by
  have keys : (tree.packages.map Prod.fst).Perm (recorded packages).dedup := by
    have distinct := (pairwise_packages tree).imp String.ne_of_lt
    apply (List.perm_ext_iff_of_nodup distinct (List.nodup_dedup _)).mpr
    intro name
    rw [List.mem_dedup]
    constructor
    · intro key
      obtain ⟨⟨_, count⟩, entry, rfl⟩ := List.mem_map.mp key
      obtain ⟨positive, counted⟩ := (mem_packages_iff records).mp entry
      exact List.count_pos_iff.mp (counted ▸ positive)
    · intro called
      have entry := (mem_packages_iff records).mpr ⟨List.count_pos_iff.mpr called, rfl⟩
      exact List.mem_map.mpr ⟨_, entry, rfl⟩
  have counts : tree.packages.map Prod.snd =
      (tree.packages.map Prod.fst).map fun name => (recorded packages).count name := by
    rw [List.map_map]
    apply List.map_congr_left
    rintro ⟨name, count⟩ member
    exact ((mem_packages_iff records).mp member).2
  calc tree.classCount = (tree.packages.map Prod.snd).sum := rfl
    _ = ((recorded packages).dedup.map fun name => (recorded packages).count name).sum := by
      rw [counts, (keys.map _).sum_eq]
    _ = (packages.filter accepts).length := by
      rw [List.sum_map_count_dedup_eq_length, recorded, List.length_map]

/-! ## All packages -/

theorem mem_allPackages_iff {name : String} :
    name ∈ tree.allPackages ↔ name ≠ "" ∧
      ∃ way node, tree.root.locate? way = some node ∧ name = Package.join way := by
  rw [allPackages, Text.mem_sortDistinct, List.mem_filter, bne_iff_ne, and_comm]
  apply and_congr_right
  intro _
  constructor
  · intro member
    obtain ⟨⟨_, node⟩, inWalk, rfl⟩ := List.mem_map.mp member
    obtain ⟨way, found, named⟩ := (mem_walk_iff records).mp inWalk
    exact ⟨way, node, found, named⟩
  · rintro ⟨way, node, found, named⟩
    exact List.mem_map.mpr ⟨_, (mem_walk_iff records).mpr ⟨way, found, named⟩, rfl⟩

/-- All packages are what the accepted ones begin with. -/
theorem mem_allPackages_iff_prefix {name : String} :
    name ∈ tree.allPackages ↔ ∃ package ∈ packages, accepts package = true ∧
      ∃ front, front ≠ [] ∧ front <+: Package.segments package ∧ name = Package.join front := by
  rw [mem_allPackages_iff records]
  constructor
  · rintro ⟨occupied, way, node, found, rfl⟩
    rcases (exists_node_iff records).mp ⟨node, found⟩ with rfl | ⟨path, member, start⟩
    · exact absurd rfl occupied
    · obtain ⟨package, chosen, rfl⟩ := List.mem_map.mp member
      obtain ⟨packageMem, accepted⟩ := List.mem_filter.mp chosen
      refine ⟨package, packageMem, accepted, way, ?_, start, rfl⟩
      rintro rfl
      exact occupied rfl
  · rintro ⟨package, packageMem, accepted, front, occupied, start, rfl⟩
    have member : Package.segments package ∈ paths packages :=
      List.mem_map_of_mem (List.mem_filter.mpr ⟨packageMem, accepted⟩)
    have valid := (Package.areSegments_segments package).of_subset start.subset
    obtain ⟨node, found⟩ := (exists_node_iff records).mpr (.inr ⟨_, member, start⟩)
    exact ⟨(Package.join_eq_empty_iff valid).not.mpr occupied, front, node, found, rfl⟩

/-- A name leads to a node when it is the default package or one of all packages, written with or
without empty segments. -/
theorem exists_locate?_iff {name : String} :
    (∃ node, tree.locate? name = some node) ↔
      Package.normal name = "" ∨ Package.normal name ∈ tree.allPackages := by
  have valid := Package.areSegments_segments name
  rw [mem_allPackages_iff records]
  constructor
  · rintro ⟨node, found⟩
    by_cases top : Package.normal name = ""
    · exact .inl top
    · exact .inr ⟨top, Package.segments name, node, found, rfl⟩
  · rintro (top | ⟨-, way, node, found, same⟩)
    · refine ⟨tree.root, ?_⟩
      rw [PackageTree.locate?, (Package.join_eq_empty_iff valid).mp top]
      rfl
    · have reached := areSegments_of_node records found
      refine ⟨node, ?_⟩
      rwa [PackageTree.locate?, (Package.join_inj valid reached).mp same]

/-! ## The shape of the tree -/

theorem depth_le_iff {bound : Nat} :
    tree.depth ≤ bound ↔
      ∀ package ∈ packages, accepts package = true → Package.depth package ≤ bound := by
  rw [PackageTree.depth, records.height_le_iff, paths, List.forall_mem_map]
  simp only [List.mem_filter, and_imp]
  rfl

theorem siblings_of_mem_walk {package : String} {node : PackageNode}
    (member : (package, node) ∈ tree.walk) :
    (node.children.map PackageNode.name).Nodup ∧
      Package.AreSegments (node.children.map PackageNode.name) := by
  obtain ⟨way, found, rfl⟩ := (mem_walk_iff records).mp member
  have below := records.of_locate? found
  refine ⟨below.nodup, below.areSegments_names ?_⟩
  intro rest left
  exact (areSegments_of_mem_paths _ (mem_restsAlong.mp left)).of_subset
    (List.subset_append_right way rest)

/-- A tree that stands for the accepted names tells what they say. -/
theorem counts_of_records : Counts packages tree where
  packagesAscend := pairwise_packages tree
  mem_packages _ _ := mem_packages_iff records
  classCount := classCount_eq records
  allPackagesAscend := Text.pairwise_sortDistinct _
  mem_allPackages _ := mem_allPackages_iff_prefix records
  exists_locate? _ := exists_locate?_iff records
  classCount_of_locate? _ _ := classCount_of_node records
  contains _ := Option.isSome_iff_exists.trans (exists_locate?_iff records)
  depth_le_iff _ := depth_le_iff records
  depth_le_maxDepth := (depth_le_iff records).mpr fun _ _ => of_decide_eq_true
  siblings _ _ := siblings_of_mem_walk records

end Views

/-! ## One account -/

theorem Counts.located {tree : PackageTree} {packages : List String} (counts : Counts packages tree)
    (name : String) :
    (tree.locate? name).map PackageNode.classCount =
      if tree.contains name then some ((recorded packages).count (Package.normal name))
      else none := by
  rw [PackageTree.contains]
  cases found : tree.locate? name with
  | none => rfl
  | some node => exact congrArg some (counts.classCount_of_locate? name node found)

/-- What the names say leaves nothing open. -/
theorem Counts.sameViews {left right : PackageTree} {packages : List String}
    (first : Counts packages left) (second : Counts packages right) : SameViews left right := by
  have allPackages : left.allPackages = right.allPackages := by
    apply Text.eq_of_ascending id first.allPackagesAscend second.allPackagesAscend
    intro name
    rw [first.mem_allPackages, second.mem_allPackages]
  have contains (name : String) : left.contains name = right.contains name := by
    rw [Bool.eq_iff_iff, first.contains, second.contains, allPackages]
  have depth : left.depth = right.depth :=
    Nat.le_antisymm ((first.depth_le_iff _).mpr ((second.depth_le_iff _).mp (Nat.le_refl _)))
      ((second.depth_le_iff _).mpr ((first.depth_le_iff _).mp (Nat.le_refl _)))
  refine ⟨?_, first.classCount.trans second.classCount.symm, allPackages, ?_, contains, depth⟩
  · apply Text.eq_of_ascending Prod.fst (List.pairwise_map.mp first.packagesAscend)
      (List.pairwise_map.mp second.packagesAscend)
    rintro ⟨name, count⟩
    rw [first.mem_packages, second.mem_packages]
  · intro name
    rw [first.located, second.located, contains]

/-- Recording packages counts them: an accepted name counts once, another one changes nothing, and
what the tree tells is the same for every order of the names. -/
theorem ofPackages_counts (packages : List String) :
    (∀ (tree : PackageTree) (package : String),
      (accepts package = true ↔ (Package.segments package).length ≤ 64) ∧
      (accepts package = false → tree.record package = tree)) ∧
    Counts packages (ofPackages packages) ∧
    ∀ others, packages.Perm others → SameViews (ofPackages packages) (ofPackages others) := by
  refine ⟨?_, counts_of_records (records_ofPackages packages), ?_⟩
  · intro tree package
    refine ⟨decide_eq_true_iff, ?_⟩
    intro refused
    rw [record, refused]
    rfl
  · intro others perm
    have records := (records_ofPackages others).of_perm (paths_perm perm.symm)
    exact (counts_of_records (records_ofPackages packages)).sameViews (counts_of_records records)

/-- Two spellings of one package, two of the default one, and a name of 65 segments, which is not
counted. -/
theorem ofPackages_counts_spellings :
    let deep := Package.join (List.replicate 65 "x")
    let packages := ["a..b", "", deep, ".", "a.b", "a.c"]
    let tree := ofPackages packages.reverse
    packages.Perm packages.reverse ∧ accepts deep = false ∧ ("", 2) ∈ tree.packages ∧
      ("a.b", 2) ∈ tree.packages ∧ tree.classCount = 5 ∧ "a" ∈ tree.allPackages := by
  intro deep packages tree
  have perm : packages.Perm packages.reverse := (List.reverse_perm packages).symm
  have refused : accepts deep = false := by
    have valid : Package.AreSegments (List.replicate 65 "x") := by
      intro segment member
      rw [List.eq_of_mem_replicate member]
      decide
    rw [accepts, Package.depth, Package.segments_join valid]
    rfl
  have left : packages.filter accepts = ["a..b", "", ".", "a.b", "a.c"] := by
    rw [List.filter_cons_of_pos (by decide), List.filter_cons_of_pos (by decide),
      List.filter_cons_of_neg (by simp [refused])]
    decide +kernel
  obtain ⟨-, counts, same⟩ := ofPackages_counts packages
  have views : SameViews (ofPackages packages) tree := same _ perm
  rw [← views.packages, ← views.allPackages, ← views.classCount, counts.classCount,
    counts.mem_packages, counts.mem_packages, counts.mem_allPackages, recorded, left]
  refine ⟨perm, refused, by decide +kernel, by decide +kernel, rfl, "a.c", ?_⟩
  refine ⟨by simp [packages], by decide +kernel, ["a"], ?_⟩
  decide +kernel

end PackageTree

end LibPrint
