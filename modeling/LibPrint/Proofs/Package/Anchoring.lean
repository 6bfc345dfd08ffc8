import LibPrint.Package.Search
import LibPrint.Proofs.Package.Counting

/-!
# Where a searched-for tree is anchored

The root package of a tree is put together from the names on a way down the tree, and it is found
there again. So a tree that was searched for always has a node to start from: the node of its root
package, or the top when it has none.
-/

namespace LibPrint

namespace PackageNode

variable {node child last : PackageNode} {paths : List (List String)} {front way : List String}

/-! ## Following a path in two parts -/

theorem locate?_append (node : PackageNode) (front way : List String) :
    node.locate? (front ++ way) = (node.locate? front).bind (locate? way) := by
  induction front generalizing node with
  | nil => rfl
  | cons segment front ih =>
      rw [List.cons_append, locate?, locate?, Option.bind_assoc]
      exact congrArg _ (funext ih)

theorem locate?_append_of_some (found : node.locate? front = some child) (way : List String) :
    node.locate? (front ++ way) = child.locate? way := by
  rw [locate?_append, found, Option.bind_some]

/-- Below a child one goes on from the child. -/
theorem Records.locate?_cons (records : node.Records paths) (member : child ∈ node.children)
    (way : List String) : node.locate? (child.name :: way) = child.locate? way := by
  rw [locate?, records.child?_eq_some_iff.mpr ⟨member, rfl⟩, Option.bind_some]

/-- A node at the end of a path with a last segment has that name. -/
theorem name_of_locate?_concat {segment : String}
    (found : node.locate? (front ++ [segment]) = some last) : last.name = segment := by
  rw [locate?_append] at found
  obtain ⟨above, -, below⟩ := Option.bind_eq_some_iff.mp found
  obtain ⟨child, first, rest⟩ := Option.bind_eq_some_iff.mp below
  rw [← Option.some.inj rest]
  exact (mem_of_child? first).2

/-! ## Ways down -/

theorem locate?_way (records : node.Records paths) (member : child ∈ node.children)
    (below : ∃ last, child.locate? child.onlyWay = some last) :
    ∃ last, node.locate? child.way = some last := by
  rw [way, records.locate?_cons member]
  split
  · exact ⟨child, rfl⟩
  · exact below

/-- The only way down from a node leads to nodes. -/
theorem Records.exists_locate?_onlyWay (records : node.Records paths) :
    ∃ last, node.locate? node.onlyWay = some last := by
  induction records with
  | @mk name classCount children paths classes nodup segments subtrees ih =>
      have records : Records (.mk name classCount children) paths :=
        .mk classes nodup segments subtrees
      rw [PackageNode.onlyWay_eq]
      rcases children with _ | ⟨only, _ | ⟨second, rest⟩⟩
      · exact ⟨_, rfl⟩
      · have member : only ∈ [only] := List.mem_singleton_self only
        exact locate?_way records member (ih only member)
      · exact ⟨_, rfl⟩

theorem Records.exists_locate?_way (records : node.Records paths) (member : child ∈ node.children) :
    ∃ last, node.locate? child.way = some last :=
  locate?_way records member (records.child member).exists_locate?_onlyWay

end PackageNode

namespace PackageTree

open PackageNode

variable {tree : PackageTree} {packages : List String}

/-- The fork lies at the end of the path to it. -/
theorem locate?_fork (records : tree.root.Records (paths packages)) :
    tree.root.locate? tree.fork.1 = some tree.fork.2 := by
  rw [fork]
  rcases below : tree.root.children with _ | ⟨only, _ | ⟨second, rest⟩⟩
  · rfl
  · have member : only ∈ tree.root.children := below ▸ List.mem_singleton_self only
    simp only
    split
    · exact records.locate?_cons member []
    · rfl
  · rfl

/-- The root package is judged by a path that leads to a node. -/
theorem exists_rootPath (records : tree.root.Records (paths packages)) :
    ∃ path last, tree.root.locate? path = some last ∧ tree.rootPackage? = rootOfPath path := by
  have atFork := locate?_fork records
  have choice := rootPackage?_mem_rootChoices tree
  rw [rootChoices] at choice
  split at choice
  · exact ⟨tree.fork.1, tree.fork.2, atFork, List.mem_singleton.mp choice⟩
  · obtain ⟨node, contender, chosen⟩ := List.mem_map.mp choice
    have member := (mem_contenders.mp contender).1
    obtain ⟨last, found⟩ := (records_fork records).exists_locate?_way member
    refine ⟨tree.fork.1 ++ node.way, last, ?_, chosen.symm⟩
    rw [locate?_append_of_some atFork, found]

/-- The package a tree is anchored at is spelled by a path that leads to a node. -/
theorem exists_anchorPath (records : tree.root.Records (paths packages)) :
    ∃ path anchor, tree.root.locate? path = some anchor ∧
      tree.anchorPackage = Package.join path := by
  obtain ⟨path, last, found, root⟩ := exists_rootPath records
  rw [anchorPackage, root, rootOfPath]
  split
  · exact ⟨[], tree.root, rfl, rfl⟩
  · exact ⟨path, last, found, rfl⟩

/-- A name spelled by a path leads where the path leads. -/
theorem locate?_join (records : tree.root.Records (paths packages)) {path : List String}
    {node : PackageNode} (found : tree.root.locate? path = some node) :
    tree.locate? (Package.join path) = some node := by
  rw [PackageTree.locate?, Package.segments_join (areSegments_of_node records found), found]

/-- There is always an anchor. -/
theorem exists_anchor (records : tree.root.Records (paths packages)) :
    ∃ anchor, tree.locate? tree.anchorPackage = some anchor ∧
      tree.anchor? = some (tree.anchorPackage, anchor) := by
  obtain ⟨path, anchor, found, spelled⟩ := exists_anchorPath records
  have located : tree.locate? tree.anchorPackage = some anchor := by
    rw [spelled, locate?_join records found]
  refine ⟨anchor, located, ?_⟩
  rw [anchor?, located, Option.map_some]

end PackageTree

end LibPrint
