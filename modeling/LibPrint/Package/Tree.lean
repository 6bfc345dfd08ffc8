import LibPrint.Number
import LibPrint.Text.Basic

/-!
# Packages

The names of packages, and the tree of the packages of a unit.
-/

/-!
## Package names

Dotted names and the tree they span. A name is a text; what counts for depth and nesting are its
segments, the pieces between dots that are not empty. The default package has none.
-/

namespace LibPrint.Package

/-- The package part of a dotted name: what stands before the last dot. -/
def parent (name : String) : String :=
  String.ofList ((Text.beforeLast? '.' name.toList).getD [])

/-- The segments of a package name. -/
def segments (name : String) : List String :=
  (Text.pieces '.' name).filter (· != "")

/-- The name made of the given segments. -/
def join (segments : List String) : String :=
  ".".intercalate segments

/-- The number of segments. -/
def depth (name : String) : Nat :=
  (segments name).length

/-- The last segment, or the empty text. -/
def lastSegment (name : String) : String :=
  (segments name).getLastD ""

/-- The first `count` segments, when the package is that deep. A package of exactly that depth is
its own answer. -/
def ancestorAt? (name : String) (count : Nat) : Option String :=
  if count = 0 ∨ depth name < count then none
  else some (join ((segments name).take count))

/-- Whether the package is the given one or below it: every package is below the empty name, and
`com.foobar` is not below `com.foo`. -/
def isWithin (name root : String) : Bool :=
  root == "" ||
    match Text.afterStart? root.toList name.toList with
    | some [] => true
    | some (next :: _) => next == '.'
    | none => false

/-- How two packages lie to each other. -/
inductive Relationship where
  /-- The second package is above the first. -/
  | parent
  /-- The second package is below the first. -/
  | child
  /-- Both have the same depth and the same parent. -/
  | sibling
  | unrelated
deriving DecidableEq, Inhabited

/-- The relationship of two packages, judged by their names. -/
def relationship (first second : String) : Relationship :=
  if depth second < depth first ∧ isWithin first second then .parent
  else if depth first < depth second ∧ isWithin second first then .child
  else if depth first = depth second ∧ parent first = parent second then .sibling
  else .unrelated

/-- The name of a relationship. -/
def Relationship.name : Relationship → String
  | .parent => "Parent"
  | .child => "Child"
  | .sibling => "Sibling"
  | .unrelated => "Unrelated"

end LibPrint.Package

/-!
## Package trees

The packages of a unit as a tree of segments. Every node counts the classes declared in exactly that
package; the root stands for the default package. Children keep the order in which they were first
seen.
-/

namespace LibPrint

/-- One segment of a package tree. -/
inductive PackageNode where
  | mk (name : String) (classCount : Nat) (children : List PackageNode)
deriving Inhabited

namespace PackageNode

def name : PackageNode → String
  | mk name _ _ => name

/-- The number of classes in exactly this package. -/
def classCount : PackageNode → Nat
  | mk _ classCount _ => classCount

def children : PackageNode → List PackageNode
  | mk _ _ children => children

/-- A segment without classes and children. -/
def fresh (name : String) : PackageNode :=
  mk name 0 []

/-- The first child of the given name. -/
def child? (node : PackageNode) (name : String) : Option PackageNode :=
  node.children.find? (·.name == name)

def hasClasses (node : PackageNode) : Bool :=
  0 < node.classCount

def isLeaf (node : PackageNode) : Bool :=
  node.children.isEmpty

/-- The number of children that have no children. -/
def leafCount (node : PackageNode) : Nat :=
  node.children.countP isLeaf

mutual

/-- The number of nodes in the subtree. -/
def size : PackageNode → Nat
  | mk _ _ children => sizes children + 1

def sizes : List PackageNode → Nat
  | [] => 0
  | node :: nodes => size node + sizes nodes

end

mutual

/-- The number of levels below the node. -/
def height : PackageNode → Nat
  | mk _ _ children => heights children

def heights : List PackageNode → Nat
  | [] => 0
  | node :: nodes => max (height node + 1) (heights nodes)

end

/-- Counts one more class at the end of the path, adding the segments that are missing. -/
def count : List String → PackageNode → PackageNode
  | [], mk name classCount children => mk name (classCount + 1) children
  | segment :: path, mk name classCount children =>
      match children.findIdx? (·.name == segment) with
      | some place => mk name classCount (children.modify place (count path))
      | none => mk name classCount (children ++ [count path (fresh segment)])

/-- The node at the end of the path. -/
def locate? : List String → PackageNode → Option PackageNode
  | [], node => some node
  | segment :: path, node => (node.child? segment).bind (locate? path)

/-- The path with the whole subtree at its end, and nothing beside the path. -/
def copyAlong? : List String → PackageNode → Option PackageNode
  | [], node => some node
  | segment :: path, node => do
      let child ← node.child? segment
      let copy ← copyAlong? path child
      some (mk node.name node.classCount [copy])

/-- The start of the path on which no package declares a class; `none` when the path leaves the
tree before that. -/
def classless? : List String → PackageNode → Option (List String)
  | [], _ => some []
  | segment :: path, node => do
      let child ← node.child? segment
      if child.hasClasses then some []
      else
        let more ← classless? path child
        some (child.name :: more)

/-- The name of a child of the given package. -/
def qualify (package segment : String) : String :=
  if package == "" then segment else package ++ "." ++ segment

mutual

/-- All nodes of the subtree with their package names, a node before its children. -/
def walk (package : String) : PackageNode → List (String × PackageNode)
  | node@(mk _ _ children) => (package, node) :: walkAll package children

def walkAll (package : String) : List PackageNode → List (String × PackageNode)
  | [] => []
  | node :: nodes => walk (qualify package node.name) node ++ walkAll package nodes

end

mutual

/-- The names on the way down while there is no choice, up to the first package with classes. -/
def onlyWay : PackageNode → List String
  | mk _ _ children => onlyWayBelow children

def onlyWayBelow : List PackageNode → List String
  | [only] => only.name :: if only.hasClasses then [] else onlyWay only
  | _ => []

end

/-- The first of the nodes with the largest subtree. -/
def largest? : List PackageNode → Option PackageNode
  | [] => none
  | node :: nodes =>
      match largest? nodes with
      | none => some node
      | some other => if node.size < other.size then some other else some node

end PackageNode

/-- The packages of a unit. -/
structure PackageTree where
  root : PackageNode

namespace PackageTree

/-- The tree without packages. -/
def empty : PackageTree :=
  ⟨.fresh "Root"⟩

instance : Inhabited PackageTree := ⟨empty⟩

/-- How deep a package may be nested. -/
def maxDepth : Nat := 64

/-- Whether a package is recorded, and not too deep for it. -/
def accepts (package : String) : Bool :=
  Package.depth package ≤ maxDepth

/-- Records one class of the package; a package nested too deeply changes nothing. -/
def record (tree : PackageTree) (package : String) : PackageTree :=
  if accepts package then ⟨tree.root.count (Package.segments package)⟩ else tree

/-- The tree of the given packages, one class for every occurrence. -/
def ofPackages (packages : List String) : PackageTree :=
  packages.foldl record empty

/-- The tree of the packages of the given classes. -/
def ofClassNames (names : List String) : PackageTree :=
  ofPackages (names.map Package.parent)

/-- The node of a package; the empty name is the root. -/
def locate? (tree : PackageTree) (package : String) : Option PackageNode :=
  tree.root.locate? (Package.segments package)

def contains (tree : PackageTree) (package : String) : Bool :=
  (tree.locate? package).isSome

/-- The top-level names too common to be the root of a library. -/
def commonNamespaces : List String :=
  ["com", "org", "de"]

def isCommon (name : String) : Bool :=
  commonNamespaces.contains name

/-- The package of a path of names, unless it is empty or a common namespace. -/
def rootOfPath (path : List String) : Option String :=
  let package := Package.join path
  if package == "" || isCommon package then none else some package

/-- The way from one of several nodes down: the largest of them is chosen. -/
def wayFromLargest (start : List String) (nodes : List PackageNode) : List String :=
  match PackageNode.largest? nodes with
  | none => start
  | some node =>
      start ++ node.name :: if node.hasClasses then [] else node.onlyWay

/-- The package all others are taken to lie in. From the top the only way is followed down to the
first package with classes. Where there is a choice at the start, or right below one of the common
namespaces, the child with the most packages is taken. -/
def rootPackage? (tree : PackageTree) : Option String :=
  match tree.root.children with
  | [] => none
  | [only] =>
      if isCommon only.name then
        match only.children with
        | [] => none
        | children => rootOfPath (wayFromLargest [only.name] children)
      else rootOfPath tree.root.onlyWay
  | children => rootOfPath (wayFromLargest [] children)

/-- The longest start of a package on which no package declares classes. -/
def rootPackageFor? (tree : PackageTree) (package : String) : Option String :=
  (tree.root.classless? (Package.segments package)).map Package.join

/-- All nodes with their package names, parents first. -/
def walk (tree : PackageTree) : List (String × PackageNode) :=
  tree.root.walk ""

/-- The packages that declare classes, in order, with their counts. -/
def packages (tree : PackageTree) : List (String × Nat) :=
  let found := (tree.walk.filter (·.2.hasClasses)).map fun (package, node) =>
    (package, node.classCount)
  (found.reverse.mergeSort fun left right => Text.le left.1 right.1).eraseRepsBy fun left right =>
    left.1 == right.1

/-- All packages but the default one, in order, those without classes included. -/
def allPackages (tree : PackageTree) : List String :=
  Text.sortDistinct ((tree.walk.map (·.1)).filter (· != ""))

/-- The number of classes in all packages. -/
def classCount (tree : PackageTree) : Nat :=
  total (tree.packages.map (·.2))

/-- The depth of the deepest package. -/
def depth (tree : PackageTree) : Nat :=
  tree.root.height

/-- The part of the tree on the way to a package and below it. -/
def restrict? (tree : PackageTree) (package : String) : Option PackageTree :=
  (tree.root.copyAlong? (Package.segments package)).map PackageTree.mk

/-- Whether two trees hold the same packages. -/
def samePackages (left right : PackageTree) : Bool :=
  left.allPackages == right.allPackages

/-- The root package in words. -/
def display (tree : PackageTree) : String :=
  (tree.rootPackage?).getD "- none -"

end PackageTree

/-!
## Drawing a package tree

One line for each node, with lines that show where it hangs.
-/

namespace PackageNode

/-- The name of a node, with its number of classes if wanted and not zero. -/
def label (withCounts : Bool) (node : PackageNode) : String :=
  if withCounts && node.hasClasses then
    node.name ++ " (" ++ toString node.classCount ++ ")"
  else node.name

mutual

/-- The lines of a subtree; `margin` stands before each, and the last sibling has a corner. -/
def draw (withCounts : Bool) (margin : String) (isLast : Bool) : PackageNode → String
  | node@(mk _ _ children) =>
      margin ++ (if isLast then "└── " else "├── ") ++ node.label withCounts ++ "\n" ++
        drawAll withCounts (margin ++ if isLast then "    " else "│   ") children

def drawAll (withCounts : Bool) (margin : String) : List PackageNode → String
  | [] => ""
  | [last] => draw withCounts margin true last
  | node :: nodes => draw withCounts margin false node ++ drawAll withCounts margin nodes

end

end PackageNode

namespace PackageTree

/-- The drawing of the whole tree. -/
def render (withCounts : Bool) (tree : PackageTree) : String :=
  tree.root.draw withCounts "" true

end PackageTree

end LibPrint
