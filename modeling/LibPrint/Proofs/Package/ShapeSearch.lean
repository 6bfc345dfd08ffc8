import LibPrint.Proofs.Package.Comparison
import LibPrint.Proofs.Package.Topmost

/-!
# Finding packages by their shape

The search works off a stack of packages, puts the children of a package in its place when it has
not the shape looked for, and keeps all comparisons. What it finds are the topmost packages that
have the shape when compared anew. So it finds a layout that was renamed, at its place or above, and
what it finds is a layout into which the one looked for folds.
-/

namespace LibPrint

namespace PackageNode

/-- The topmost packages below a package that pass a test, by name. -/
def placesFrom (test : PackageNode → Bool) (entry : String × PackageNode) : List String :=
  (entry.2.topmost test).map fun way => way.foldl qualify entry.1

theorem placesFrom_eq (test : PackageNode → Bool) (package : String) (node : PackageNode) :
    placesFrom test (package, node) =
      if test node then [package] else (placedChildren package node).flatMap (placesFrom test) := by
  rw [placesFrom, topmost_eq]
  split
  · rfl
  · rw [List.map_flatMap, placedChildren, List.flatMap_map]
    simp only [List.map_map, placesFrom]
    rfl

theorem foldl_qualify {front way : List String} (valid : Package.AreSegments (front ++ way)) :
    way.foldl qualify (Package.join front) = Package.join (front ++ way) := by
  induction way generalizing front with
  | nil => rw [List.append_nil, List.foldl_nil]
  | cons segment way ih =>
      have first : Package.AreSegments front := valid.of_subset (List.subset_append_left _ _)
      have parts : front ++ segment :: way = (front ++ [segment]) ++ way := by simp
      rw [parts] at valid ⊢
      rw [List.foldl_cons, qualify_join first, ih valid]

/-- A part of a tree can be taken out wherever there is a node. -/
theorem exists_copyAlong? {node last : PackageNode} {way : List String}
    (found : node.locate? way = some last) : ∃ copy, node.copyAlong? way = some copy := by
  induction way generalizing node with
  | nil => exact ⟨node, rfl⟩
  | cons segment way ih =>
      obtain ⟨child, first, below⟩ := Option.bind_eq_some_iff.mp found
      obtain ⟨copy, copied⟩ := ih below
      exact ⟨.mk node.name node.classCount [copy], by simp [copyAlong?, first, copied]⟩

end PackageNode

namespace PackageTree

open PackageNode

variable {tree wanted : PackageTree} {packages wantedPackages : List String}

section Search

variable (records : tree.root.Records (paths packages))
  (wantedRecords : wanted.root.Records (paths wantedPackages)) {wantedPackage : String}
  {anchor : PackageNode} (anchored : wanted.locate? wantedPackage = some anchor)

include records wantedRecords anchored

/-- From a stack of packages the search finds the topmost ones that have the shape, and what it
learns on the way stays right. -/
theorem finds_shapesFrom {stack : List (String × PackageNode)}
    (placed : ∀ entry ∈ stack, tree.locate? entry.1 = some entry.2) :
    Finds tree wanted (anchor.shapesFrom wantedPackage stack)
      (stack.flatMap (placesFrom (·.holdsShape anchor))) := by
  induction stack using shapesFrom.induct with
  | case1 =>
      rw [shapesFrom]
      exact finds_pure []
  | case2 package node stack aside below =>
      obtain ⟨here, rest⟩ := List.forall_mem_cons.mp placed
      rw [shapesFrom, List.flatMap_cons, placesFrom_eq]
      refine (finds_compareShape records wantedRecords here anchored).bind ?_
      cases node.holdsShape anchor with
      | true => exact (aside rest).bind (finds_pure _)
      | false =>
          have placedBelow : ∀ entry ∈ placedChildren package node ++ stack,
              tree.locate? entry.1 = some entry.2 := by
            intro entry member
            rcases List.mem_append.mp member with inChildren | inRest
            · obtain ⟨child, childMem, rfl⟩ := List.mem_map.mp inChildren
              exact locate?_qualify records here childMem
            · exact rest entry inRest
          rw [if_neg Bool.false_ne_true, if_neg Bool.false_ne_true, ← List.flatMap_append]
          exact below placedBelow

end Search

section Anchored

variable (records : tree.root.Records (paths packages))
  (wantedRecords : wanted.root.Records (paths wantedPackages)) {anchor : PackageNode}
  (anchored : wanted.locate? wanted.anchorPackage = some anchor)

include records wantedRecords anchored

/-- The packages found are the topmost ones that have the shape of the anchor. -/
theorem findByShape_eq :
    tree.findByShape wanted =
      (tree.root.topmost (·.holdsShape anchor)).map Package.join := by
  have top : ∀ entry ∈ [("", tree.root)], tree.locate? entry.1 = some entry.2 := by
    intro entry member
    rw [List.mem_singleton.mp member]
    rfl
  have found := (finds_shapesFrom records wantedRecords anchored top [] agrees_nil).1
  rw [findByShape, anchor?, anchored, Option.map_some]
  simp only [found, List.flatMap_singleton, placesFrom]
  apply List.map_congr_left
  intro way member
  obtain ⟨last, reached, -⟩ := (records.mem_topmost_iff.mp member).passes
  have valid : Package.AreSegments ([] ++ way) := areSegments_of_node records reached
  exact foldl_qualify valid

theorem mem_findByShape_iff {package : String} :
    package ∈ tree.findByShape wanted ↔
      ∃ way, IsTopmost (·.holdsShape anchor) tree.root way ∧ package = Package.join way := by
  rw [findByShape_eq records wantedRecords anchored, List.mem_map]
  simp only [records.mem_topmost_iff, eq_comm]

end Anchored

theorem mem_shapeMatches_iff {found : ShapeMatch} :
    found ∈ tree.shapeMatches wanted ↔ found.package ∈ tree.findByShape wanted ∧
      tree.restrict? found.package = some found.subtree := by
  simp only [shapeMatches, List.mem_filterMap, Option.map_eq_some_iff]
  constructor
  · rintro ⟨package, member, subtree, copied, rfl⟩
    exact ⟨member, copied⟩
  · rintro ⟨member, copied⟩
    exact ⟨_, member, _, copied, rfl⟩

/-- There is a match for every package found. -/
theorem map_package_shapeMatches (records : tree.root.Records (paths packages))
    (wantedRecords : wanted.root.Records (paths wantedPackages)) :
    (tree.shapeMatches wanted).map ShapeMatch.package = tree.findByShape wanted := by
  obtain ⟨anchor, anchored, -⟩ := exists_anchor wantedRecords
  have copied : ∀ package ∈ tree.findByShape wanted,
      ((tree.restrict? package).map fun subtree =>
        (⟨package, subtree⟩ : ShapeMatch)).map ShapeMatch.package = some package := by
    intro package member
    obtain ⟨way, topmost, rfl⟩ := (mem_findByShape_iff records wantedRecords anchored).mp member
    obtain ⟨last, found, -⟩ := topmost.passes
    obtain ⟨copy, taken⟩ := exists_copyAlong? found
    rw [restrict?, Package.segments_join (areSegments_of_node records found), taken]
    rfl
  rw [shapeMatches, List.map_filterMap, List.filterMap_congr copied, List.filterMap_some]

theorem exists_match_of_mem_findByShape {package : String}
    (listed : package ∈ (ofPackages packages).findByShape (ofPackages wantedPackages)) :
    ∃ found ∈ (ofPackages packages).shapeMatches (ofPackages wantedPackages),
      found.package = package := by
  rw [← map_package_shapeMatches (records_ofPackages _) (records_ofPackages _)] at listed
  exact List.mem_map.mp listed

/-! ## What the search lists -/

/-- The matches are the topmost packages that pass the test. -/
structure ListsTopmost (packages : List String) (test : PackageNode → Bool)
    (matches_ : List ShapeMatch) : Prop where
  mem_iff : ∀ package, package ∈ matches_.map ShapeMatch.package ↔
    ∃ way, IsTopmost test (ofPackages packages).root way ∧ package = Package.join way
  nodup : (matches_.map ShapeMatch.package).Nodup
  /-- Parents come before children, and siblings in the order in which they were recorded. -/
  ordered : (matches_.map ShapeMatch.package).Pairwise fun first second =>
    Before (paths packages) (Package.segments first) (Package.segments second)
  apart : (matches_.map ShapeMatch.package).Pairwise fun first second =>
    Package.isWithin first second = false ∧ Package.isWithin second first = false
  subtree : ∀ found ∈ matches_, (ofPackages packages).restrict? found.package = some found.subtree

/-- Packages found in their order are different, and none lies in another. -/
theorem listsTopmost_of_map_eq {packages : List String} {test : PackageNode → Bool}
    {matches_ : List ShapeMatch}
    (names : matches_.map ShapeMatch.package =
      ((ofPackages packages).root.topmost test).map Package.join)
    (subtree : ∀ found ∈ matches_,
      (ofPackages packages).restrict? found.package = some found.subtree) :
    ListsTopmost packages test matches_ := by
  have records := records_ofPackages packages
  have valid (way : List String) (member : way ∈ (ofPackages packages).root.topmost test) :
      Package.AreSegments way := by
    obtain ⟨last, found, -⟩ := (records.mem_topmost_iff.mp member).passes
    exact areSegments_of_node records found
  have ways : ((ofPackages packages).root.topmost test).Pairwise (Before (paths packages)) := by
    rw [root_ofPackages]
    exact pairwise_topmost test "Root" (paths packages)
  have ordered : (matches_.map ShapeMatch.package).Pairwise fun first second =>
      Before (paths packages) (Package.segments first) (Package.segments second) := by
    rw [names, List.pairwise_map]
    refine ways.imp_of_mem ?_
    intro first second firstMem secondMem before
    rwa [Package.segments_join (valid first firstMem),
      Package.segments_join (valid second secondMem)]
  have apart : (matches_.map ShapeMatch.package).Pairwise fun first second =>
      Package.isWithin first second = false ∧ Package.isWithin second first = false := by
    rw [names, List.pairwise_map]
    refine ways.imp_of_mem ?_
    intro first second firstMem secondMem before
    have different : first ≠ second := by
      rintro rfl
      exact not_before_self _ _ before
    have firstTop := records.mem_topmost_iff.mp firstMem
    have secondTop := records.mem_topmost_iff.mp secondMem
    rw [Bool.eq_false_iff, Bool.eq_false_iff, ne_eq, ne_eq,
      Package.isWithin_join (valid first firstMem) (valid second secondMem),
      Package.isWithin_join (valid second secondMem) (valid first firstMem)]
    exact ⟨fun start => different (secondTop.eq_of_prefix firstTop start).symm,
      fun start => different (firstTop.eq_of_prefix secondTop start)⟩
  refine ⟨?_, ?_, ordered, apart, subtree⟩
  · intro package
    rw [names, List.mem_map]
    simp only [records.mem_topmost_iff, eq_comm]
  · refine ordered.imp ?_
    rintro first second before rfl
    exact not_before_self _ _ before

/-- The search for a shape lists the topmost packages whose nodes have the shape of the anchor when
they are compared anew, each with its part of the tree. -/
theorem shapeMatches_ofPackages (packages wantedPackages : List String) :
    ∃ anchor, (ofPackages wantedPackages).locate? (ofPackages wantedPackages).anchorPackage =
        some anchor ∧
      ListsTopmost packages (·.holdsShape anchor)
        ((ofPackages packages).shapeMatches (ofPackages wantedPackages)) := by
  have records := records_ofPackages packages
  have wantedRecords := records_ofPackages wantedPackages
  obtain ⟨anchor, anchored, -⟩ := exists_anchor wantedRecords
  refine ⟨anchor, anchored, listsTopmost_of_map_eq ?_ ?_⟩
  · rw [map_package_shapeMatches records wantedRecords,
      findByShape_eq records wantedRecords anchored]
  · exact fun found member => (mem_shapeMatches_iff.mp member).2

/-! ## Renamed layouts -/

/-- A layout that was renamed is found, at its place or above. -/
theorem exists_match_of_isomorphic (packages wantedPackages : List String) {place : String}
    {node anchor : PackageNode} (found : (ofPackages packages).locate? place = some node)
    (anchored : (ofPackages wantedPackages).locate?
      (ofPackages wantedPackages).anchorPackage = some anchor)
    (same : Isomorphic anchor node) :
    ∃ front, front <+: Package.segments place ∧
      Package.join front ∈
        ((ofPackages packages).shapeMatches (ofPackages wantedPackages)).map
          ShapeMatch.package := by
  have records := records_ofPackages packages
  have wantedRecords := records_ofPackages wantedPackages
  obtain ⟨front, start, topmost⟩ :=
    records.exists_isTopmost (·.holdsShape anchor) found same.foldsInto.holdsShape
  refine ⟨front, start, ?_⟩
  rw [map_package_shapeMatches records wantedRecords,
    mem_findByShape_iff records wantedRecords anchored]
  exact ⟨front, topmost, rfl⟩

/-- Names and the order of children differ. -/
theorem exists_match_of_isomorphic_swapped :
    let tree := ofPackages ["p.v", "p.u.c", "r", "p.u.d"]
    let wanted := ofPackages ["lib.x.a", "lib.x.b", "lib.y"]
    ∃ node anchor, tree.locate? "p" = some node ∧
      wanted.locate? wanted.anchorPackage = some anchor ∧ Isomorphic anchor node ∧
      ∃ front, front <+: Package.segments "p" ∧
        Package.join front ∈ (tree.shapeMatches wanted).map ShapeMatch.package := by
  have found : (ofPackages ["p.v", "p.u.c", "r", "p.u.d"]).locate? "p" =
      some (.mk "p" 0 [.mk "v" 1 [], .mk "u" 0 [.mk "c" 1 [], .mk "d" 1 []]]) := by
    cbv
  have anchored : (ofPackages ["lib.x.a", "lib.x.b", "lib.y"]).locate?
      (ofPackages ["lib.x.a", "lib.x.b", "lib.y"]).anchorPackage =
        some (.mk "lib" 0 [.mk "x" 0 [.mk "a" 1 [], .mk "b" 1 []], .mk "y" 1 []]) := by
    cbv
  have leaf (name other : String) : Isomorphic (.mk name 1 []) (.mk other 1 []) :=
    isomorphic_of_isLeaf rfl rfl
  have same : Isomorphic (.mk "lib" 0 [.mk "x" 0 [.mk "a" 1 [], .mk "b" 1 []], .mk "y" 1 []])
      (.mk "p" 0 [.mk "v" 1 [], .mk "u" 0 [.mk "c" 1 [], .mk "d" 1 []]]) :=
    isomorphic_of_swapped (isomorphic_of_swapped (leaf "a" "d") (leaf "b" "c")) (leaf "y" "v")
  exact ⟨_, _, found, anchored, same, exists_match_of_isomorphic _ _ found anchored same⟩

/-! ## What a match contains -/

/-- The layout looked for folds into every match. -/
theorem foldsInto_of_mem_shapeMatches {packages wantedPackages : List String} {found : ShapeMatch}
    (member : found ∈ (ofPackages packages).shapeMatches (ofPackages wantedPackages)) :
    ∃ anchor node, (ofPackages wantedPackages).locate? (ofPackages wantedPackages).anchorPackage =
        some anchor ∧
      (ofPackages packages).locate? found.package = some node ∧ FoldsInto anchor node := by
  have records := records_ofPackages packages
  have wantedRecords := records_ofPackages wantedPackages
  obtain ⟨anchor, anchored, -⟩ := exists_anchor wantedRecords
  obtain ⟨listed, -⟩ := mem_shapeMatches_iff.mp member
  obtain ⟨way, topmost, named⟩ := (mem_findByShape_iff records wantedRecords anchored).mp listed
  obtain ⟨node, reached, holds⟩ := topmost.passes
  refine ⟨anchor, node, anchored, ?_, holdsShape_iff_foldsInto.mp holds⟩
  rw [named, locate?_join records reached]

/-- Of three children two fall together, and the one without children keeps apart. -/
theorem foldsInto_of_mem_shapeMatches_three :
    let tree := ofPackages ["q.u.c", "q.v", "q.w"]
    let wanted := ofPackages ["lib.x.a", "lib.y.b", "lib.z"]
    ∃ found ∈ tree.shapeMatches wanted, found.package = "q" ∧
      ∃ anchor node, wanted.locate? wanted.anchorPackage = some anchor ∧
        tree.locate? found.package = some node ∧ FoldsInto anchor node := by
  have anchored : (ofPackages ["lib.x.a", "lib.y.b", "lib.z"]).locate?
      (ofPackages ["lib.x.a", "lib.y.b", "lib.z"]).anchorPackage =
        some (.mk "lib" 0 [.mk "x" 0 [.mk "a" 1 []], .mk "y" 0 [.mk "b" 1 []], .mk "z" 1 []]) := by
    cbv
  have places : (ofPackages ["q.u.c", "q.v", "q.w"]).findByShape
      (ofPackages ["lib.x.a", "lib.y.b", "lib.z"]) = ["q"] := by
    rw [findByShape_eq (records_ofPackages _) (records_ofPackages _) anchored]
    cbv
  obtain ⟨found, member, named⟩ :=
    exists_match_of_mem_findByShape (places ▸ List.mem_singleton_self "q")
  exact ⟨found, member, named, foldsInto_of_mem_shapeMatches member⟩

/-- Two children that have the shape of one and the same child are found there, although there is no
second child for them. -/
theorem shapeMatches_of_one_partner :
    let tree := ofPackages ["q.u.c", "q.v"]
    let wanted := ofPackages ["lib.x.a", "lib.y.b"]
    ∃ found ∈ tree.shapeMatches wanted,
      ∃ anchor node, wanted.locate? wanted.anchorPackage = some anchor ∧
        tree.locate? found.package = some node ∧ ¬ EmbedsIn anchor node := by
  have anchored : (ofPackages ["lib.x.a", "lib.y.b"]).locate?
      (ofPackages ["lib.x.a", "lib.y.b"]).anchorPackage =
        some (.mk "lib" 0 [.mk "x" 0 [.mk "a" 1 []], .mk "y" 0 [.mk "b" 1 []]]) := by
    cbv
  have places : (ofPackages ["q.u.c", "q.v"]).findByShape
      (ofPackages ["lib.x.a", "lib.y.b"]) = ["q"] := by
    rw [findByShape_eq (records_ofPackages _) (records_ofPackages _) anchored]
    cbv
  have reached : (ofPackages ["q.u.c", "q.v"]).locate? "q" =
      some (.mk "q" 0 [.mk "u" 0 [.mk "c" 1 []], .mk "v" 1 []]) := by
    cbv
  obtain ⟨found, member, named⟩ :=
    exists_match_of_mem_findByShape (places ▸ List.mem_singleton_self "q")
  refine ⟨found, member, _, _, anchored, by rw [named]; exact reached, ?_⟩
  intro embeds
  exact absurd embeds.countP_le (by decide)

end PackageTree

end LibPrint
