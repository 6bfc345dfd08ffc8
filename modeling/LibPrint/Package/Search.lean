import LibPrint.Package.Tree

/-!
# Searching a package tree

Finding the packages of one tree inside another, by their names or by the shape of the tree alone.
The searched-for tree is anchored at its root package. By name, all packages below the anchor have
to exist below the place found. By shape, only the numbers of children and of leaves count, level by
level, which also finds a layout whose packages were renamed. What one comparison of shapes has
shown about two packages is kept for the rest of the search.
-/

namespace LibPrint

namespace PackageNode

mutual

/-- Whether every package below the wanted node exists below the other, by name. -/
def holdsNames (node : PackageNode) : (wanted : PackageNode) → Bool
  | mk _ _ children =>
      children.length ≤ node.children.length && holdsNamesBelow node.children children

def holdsNamesBelow (nodes : List PackageNode) : (wanted : List PackageNode) → Bool
  | [] => true
  | child :: wanted =>
      (match nodes.find? (·.name == child.name) with
        | some node => holdsNames node child
        | none => false) && holdsNamesBelow nodes wanted

end

/-- Whether both nodes have only leaves as children, and equally many. -/
def sameFan (node wanted : PackageNode) : Bool :=
  node.children.length == wanted.children.length && node.leafCount == wanted.leafCount &&
    node.children.length == node.leafCount

/-- What is known from comparisons so far: whether the first package has the shape of the second. -/
abbrev Known := List ((String × String) × Bool)

/-- The answer known for two packages, or else the one found now, which is kept. -/
def remember (packages : String × String) (find : StateM Known Bool) : StateM Known Bool := do
  match (← get).lookup packages with
  | some answer => return answer
  | none =>
      let answer ← find
      modify ((packages, answer) :: ·)
      return answer

mutual

/-- Whether a node has the shape of the wanted one: no fewer children and leaves, and for each child
of the wanted node a child of its shape. Each node comes with the name of its package. -/
def compareShape (package : String) (node : PackageNode) (wantedPackage : String) :
    (wanted : PackageNode) → StateM Known Bool
  | wanted@(mk _ _ children) => remember (package, wantedPackage) do
      if node.children.length < children.length || node.leafCount < wanted.leafCount then
        return false
      else if node.sameFan wanted then
        return true
      else if ← compareShapesBelow package node.children wantedPackage children then
        return node.isLeaf == wanted.isLeaf
      else
        return false

def compareShapesBelow (package : String) (nodes : List PackageNode) (wantedPackage : String) :
    (wanted : List PackageNode) → StateM Known Bool
  | [] => return true
  | child :: wanted => do
      let found ← nodes.anyM fun node =>
        compareShape (qualify package node.name) node (qualify wantedPackage child.name) child
      if found then compareShapesBelow package nodes wantedPackage wanted else return false

end

/-- The children of a node with the names of their packages. -/
def placedChildren (package : String) (node : PackageNode) : List (String × PackageNode) :=
  node.children.map fun child => (qualify package child.name, child)

@[simp] theorem map_snd_placedChildren (package : String) (node : PackageNode) :
    (placedChildren package node).map (·.2) = node.children := by
  rw [placedChildren, List.map_map]
  exact List.map_id _

theorem sizes_append (nodes others : List PackageNode) :
    sizes (nodes ++ others) = sizes nodes + sizes others := by
  induction nodes with
  | nil => simp [sizes]
  | cons node nodes ih => rw [List.cons_append, sizes, sizes, ih, Nat.add_assoc]

theorem sizes_children_lt_size (node : PackageNode) : sizes node.children < node.size := by
  obtain ⟨name, classCount, children⟩ := node
  exact Nat.lt_succ_self _

/-- The topmost packages of the stack and below it that have the shape of the wanted one, parents
before children. Below a package that was found there is no further search. -/
def shapesFrom (wantedPackage : String) (wanted : PackageNode) :
    (stack : List (String × PackageNode)) → StateM Known (List String)
  | [] => return []
  | (package, node) :: stack => do
      if ← compareShape package node wantedPackage wanted then
        return package :: (← shapesFrom wantedPackage wanted stack)
      else
        shapesFrom wantedPackage wanted (placedChildren package node ++ stack)
termination_by stack => sizes (stack.map (·.2))
decreasing_by
  · have occupied := sizes_children_lt_size node
    simp only [List.map_cons, sizes]
    omega
  · have smaller := sizes_children_lt_size node
    simp only [List.map_append, map_snd_placedChildren, sizes_append, List.map_cons, sizes]
    omega

end PackageNode

namespace PackageTree

/-- The package a tree is anchored at when it is searched for: its root package, or else the top. -/
def anchorPackage (tree : PackageTree) : String :=
  (tree.rootPackage?).getD ""

/-- The package a tree is anchored at, with its node. -/
def anchor? (tree : PackageTree) : Option (String × PackageNode) :=
  (tree.locate? tree.anchorPackage).map fun node => (tree.anchorPackage, node)

/-- The package at which the other tree's packages are found by name. The anchor's own place comes
first, then the packages with the same last segment, parents before children. -/
def findByName? (tree wanted : PackageTree) : Option String := do
  let (package, anchor) ← wanted.anchor?
  let own := (tree.locate? package).any (·.holdsNames anchor)
  if own then some package
  else if package == "" then none
  else
    (tree.walk.find? fun (place, node) =>
      node.name == anchor.name && place != package && node.holdsNames anchor).map (·.1)

/-- The packages at which the other tree's shape is found; none of them lies in another. -/
def findByShape (tree wanted : PackageTree) : List String :=
  match wanted.anchor? with
  | none => []
  | some (package, anchor) => ((anchor.shapesFrom package [("", tree.root)]).run []).1

/-- A place where a shape was found, with the part of the tree on the way to it and below it. -/
structure ShapeMatch where
  package : String
  subtree : PackageTree

/-- The places at which the other tree's shape is found, each with its part of the tree. -/
def shapeMatches (tree wanted : PackageTree) : List ShapeMatch :=
  (tree.findByShape wanted).filterMap fun package =>
    (tree.restrict? package).map fun subtree => ⟨package, subtree⟩

end PackageTree

end LibPrint
