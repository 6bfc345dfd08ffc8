import LibPrint.Proofs.Package.Anchoring
import LibPrint.Proofs.Package.Layout

/-!
# Comparisons that are kept

A comparison of shapes keeps what it found under the names of the two packages, and all comparisons
of one search share what is known. A name leads to one node only, so what is known under two names
is what comparing their nodes anew would find, whichever comparison it came from.
-/

namespace LibPrint

theorem Package.segments_qualify {segment : String} (occupied : segment ≠ "")
    (absent : '.' ∉ segment.toList) (package : String) :
    segments (PackageNode.qualify package segment) = segments package ++ [segment] := by
  have valid : AreSegments [segment] := by
    intro other member
    rw [List.mem_singleton.mp member]
    exact ⟨occupied, absent⟩
  have alone : segments segment = [segment] := by
    have spelled : join [segment] = segment := String.intercalate_singleton
    have read := segments_join valid
    rwa [spelled] at read
  rw [PackageNode.qualify]
  split
  · next top =>
    rw [eq_of_beq top, alone]
    rfl
  · rw [segments_append, alone]

namespace PackageTree

open PackageNode

/-- A child is found under the name put together from that of its parent and its own. -/
theorem locate?_qualify {tree : PackageTree} {packages : List String}
    (records : tree.root.Records (paths packages)) {package : String} {node child : PackageNode}
    (found : tree.locate? package = some node) (member : child ∈ node.children) :
    tree.locate? (qualify package child.name) = some child := by
  have siblings := siblings_of_mem_walk records ((mem_walk_iff records).mpr ⟨_, found, rfl⟩)
  obtain ⟨occupied, absent⟩ := siblings.2 child.name (List.mem_map_of_mem member)
  rw [PackageTree.locate?, Package.segments_qualify occupied absent, locate?_append_of_some found]
  exact (records.of_locate? found).locate?_cons member []

variable {α β : Type} {tree wanted : PackageTree}

/-! ## What is known -/

/-- What is known of two packages is what comparing their nodes anew finds. -/
def Agrees (tree wanted : PackageTree) (known : Known) : Prop :=
  ∀ package wantedPackage answer node wantedNode,
    known.lookup (package, wantedPackage) = some answer → tree.locate? package = some node →
      wanted.locate? wantedPackage = some wantedNode → answer = node.holdsShape wantedNode

theorem agrees_nil : Agrees tree wanted [] := by
  intro package wantedPackage answer node wantedNode known
  cases known

theorem Agrees.keep {known : Known} (agrees : Agrees tree wanted known)
    {package wantedPackage : String} {node wantedNode : PackageNode}
    (found : tree.locate? package = some node)
    (wantedFound : wanted.locate? wantedPackage = some wantedNode) :
    Agrees tree wanted (((package, wantedPackage), node.holdsShape wantedNode) :: known) := by
  intro place wantedPlace answer other wantedOther kept otherFound wantedOtherFound
  rw [List.lookup_cons] at kept
  split at kept
  · next same =>
    obtain ⟨rfl, rfl⟩ := Prod.mk.inj (eq_of_beq same)
    obtain rfl := Option.some.inj (found.symm.trans otherFound)
    obtain rfl := Option.some.inj (wantedFound.symm.trans wantedOtherFound)
    exact (Option.some.inj kept).symm
  · exact agrees _ _ _ _ _ kept otherFound wantedOtherFound

/-- Begun with what agrees, the search finds the answer, and what is known then agrees as well. -/
def Finds (tree wanted : PackageTree) (search : StateM Known α) (answer : α) : Prop :=
  ∀ known, Agrees tree wanted known →
    (search.run known).1 = answer ∧ Agrees tree wanted (search.run known).2

theorem finds_pure (answer : α) : Finds tree wanted (pure answer) answer :=
  fun _ agrees => ⟨rfl, agrees⟩

theorem Finds.bind {search : StateM Known α} {next : α → StateM Known β} {found : α} {answer : β}
    (first : Finds tree wanted search found) (second : Finds tree wanted (next found) answer) :
    Finds tree wanted (search >>= next) answer := by
  intro known agrees
  obtain ⟨rfl, kept⟩ := first known agrees
  exact second _ kept

theorem Finds.anyM {items : List α} {search : α → StateM Known Bool} {answer : α → Bool}
    (each : ∀ item ∈ items, Finds tree wanted (search item) (answer item)) :
    Finds tree wanted (items.anyM search) (items.any answer) := by
  induction items with
  | nil => exact finds_pure false
  | cons item items ih =>
      obtain ⟨first, others⟩ := List.forall_mem_cons.mp each
      refine first.bind ?_
      rw [List.any_cons]
      cases answer item with
      | true => exact finds_pure true
      | false => exact ih others

theorem remember_of_lookup {packages : String × String} {search : StateM Known Bool} {known : Known}
    {answer : Bool} (kept : known.lookup packages = some answer) :
    (remember packages search).run known = (answer, known) := by
  rw [PackageNode.remember, StateT.run_bind, StateT.run_get, pure_bind, kept]
  rfl

theorem remember_of_unknown {packages : String × String} {search : StateM Known Bool}
    {known : Known} (unknown : known.lookup packages = none) :
    (remember packages search).run known =
      ((search.run known).1, (packages, (search.run known).1) :: (search.run known).2) := by
  rw [PackageNode.remember, StateT.run_bind, StateT.run_get, pure_bind, unknown]
  rfl

/-- An answer that is known need not be looked for, and one that was looked for is known. -/
theorem Finds.remember {package wantedPackage : String} {node wantedNode : PackageNode}
    (found : tree.locate? package = some node)
    (wantedFound : wanted.locate? wantedPackage = some wantedNode) {search : StateM Known Bool}
    (finds : Finds tree wanted search (node.holdsShape wantedNode)) :
    Finds tree wanted (remember (package, wantedPackage) search) (node.holdsShape wantedNode) := by
  intro known agrees
  cases kept : known.lookup (package, wantedPackage) with
  | some answer =>
      rw [remember_of_lookup kept]
      exact ⟨agrees _ _ _ _ _ kept found wantedFound, agrees⟩
  | none =>
      obtain ⟨result, agreesAfter⟩ := finds known agrees
      rw [remember_of_unknown kept, result]
      exact ⟨rfl, agreesAfter.keep found wantedFound⟩

/-! ## Comparing -/

theorem finds_compareShapesBelow {package wantedPackage : String}
    {nodes wantedNodes : List PackageNode}
    (each : ∀ child ∈ wantedNodes, ∀ node ∈ nodes, Finds tree wanted
      (compareShape (qualify package node.name) node (qualify wantedPackage child.name) child)
      (node.holdsShape child)) :
    Finds tree wanted (compareShapesBelow package nodes wantedPackage wantedNodes)
      (holdsShapesBelow nodes wantedNodes) := by
  induction wantedNodes with
  | nil => exact finds_pure true
  | cons child wantedNodes ih =>
      obtain ⟨first, others⟩ := List.forall_mem_cons.mp each
      rw [compareShapesBelow, holdsShapesBelow]
      refine (Finds.anyM first).bind ?_
      cases nodes.any fun node => node.holdsShape child with
      | true => exact ih others
      | false => exact finds_pure false

/-- Comparing two packages with what is known finds what comparing their nodes anew finds. -/
theorem finds_compareShape {packages wantedPackages : List String}
    (records : tree.root.Records (paths packages))
    (wantedRecords : wanted.root.Records (paths wantedPackages)) {package wantedPackage : String}
    {node wantedNode : PackageNode} (found : tree.locate? package = some node)
    (wantedFound : wanted.locate? wantedPackage = some wantedNode) :
    Finds tree wanted (compareShape package node wantedPackage wantedNode)
      (node.holdsShape wantedNode) := by
  induction wantedNode using children_induction generalizing package wantedPackage node with
  | step wantedNode ih =>
      have below (child : PackageNode) (member : child ∈ wantedNode.children)
          (other : PackageNode) (otherMem : other ∈ node.children) :
          Finds tree wanted (compareShape (qualify package other.name) other
            (qualify wantedPackage child.name) child) (other.holdsShape child) :=
        ih child member (locate?_qualify records found otherMem)
          (locate?_qualify wantedRecords wantedFound member)
      obtain ⟨name, classCount, children⟩ := wantedNode
      have partners : Finds tree wanted
          (compareShapesBelow package node.children wantedPackage children)
          (holdsShapesBelow node.children children) := finds_compareShapesBelow below
      rw [compareShape]
      apply Finds.remember found wantedFound
      rw [holdsShape]
      split
      · exact finds_pure false
      · split
        · exact finds_pure true
        · refine partners.bind ?_
          cases holdsShapesBelow node.children children with
          | true => exact finds_pure _
          | false => exact finds_pure false

end PackageTree

end LibPrint
