import LibPrint.Code.Class
import LibPrint.Code.Hierarchy
import LibPrint.Digest.Algorithm
import LibPrint.Number
import LibPrint.Package.Tree
import LibPrint.Text.Basic

/-!
# Hash trees

Trees of digests over the packages, classes and methods of a unit: how they are asked for, what they
are made of, and how they are built.
-/

/-!
## Tree configurations

How a hash tree is built. The recipe decides the hashes, and only trees of one recipe can be
compared; the verboseness decides what is kept beside the hashes for people to read.
-/

namespace LibPrint

/-- How much a tree keeps beside its hashes; every level keeps what the ones before it keep. -/
inductive Verboseness where
  /-- Package hashes. -/
  | terse
  /-- The names of packages. -/
  | minimal
  /-- The nodes of classes. -/
  | normal
  /-- The names of classes. -/
  | debug
  /-- The nodes of methods, with their signatures. -/
  | trace
deriving DecidableEq, Inhabited

namespace Verboseness

/-- All levels from the least to the most verbose. -/
def all : List Verboseness :=
  [terse, minimal, normal, debug, trace]

/-- The place of a level among all. -/
def rank : Verboseness → Nat
  | terse => 0
  | minimal => 1
  | normal => 2
  | debug => 3
  | trace => 4

def name : Verboseness → String
  | terse => "terse"
  | minimal => "minimal"
  | normal => "normal"
  | debug => "debug"
  | trace => "trace"

/-- The level of exactly this name. -/
def ofName? (text : String) : Option Verboseness :=
  all.find? (·.name == text)

def keepsPackageNames (level : Verboseness) : Bool := minimal.rank ≤ level.rank

def keepsClassNodes (level : Verboseness) : Bool := normal.rank ≤ level.rank

def keepsClassNames (level : Verboseness) : Bool := debug.rank ≤ level.rank

def keepsMethodNodes (level : Verboseness) : Bool := trace.rank ≤ level.rank

end Verboseness

/-- What decides the hashes of a tree. -/
structure Recipe where
  algorithm : Digest.Algorithm
  /-- Methods that carry one of these flags are left out. -/
  accessFilter : AccessFlags
  /-- Siblings of equal hash are kept once. -/
  filterDups : Bool
  /-- Nested classes are left out. -/
  filterInner : Bool
deriving DecidableEq

namespace Recipe

/-- MD5 over everything. -/
def standard : Recipe :=
  ⟨.md5, AccessFlags.none, false, false⟩

def display (recipe : Recipe) : String :=
  recipe.algorithm.name ++ ", access filter: " ++ recipe.accessFilter.display ++
    ", filter dups: " ++ toString recipe.filterDups ++
    ", filter inner classes: " ++ toString recipe.filterInner

end Recipe

/-- A recipe and a verboseness. -/
structure TreeConfig where
  recipe : Recipe
  verboseness : Verboseness
deriving DecidableEq

namespace TreeConfig

/-- The standard recipe at normal verboseness. -/
def standard : TreeConfig :=
  ⟨.standard, .normal⟩

/-- Whether trees of the two configurations can be compared. -/
def comparable (left right : TreeConfig) : Bool :=
  left.recipe == right.recipe

def display (config : TreeConfig) : String :=
  config.recipe.display

/-- The configurations of every profile: everything, public methods only, and each hash once. -/
def profileSet (verboseness : Verboseness) : List TreeConfig :=
  [⟨.standard, verboseness⟩,
    ⟨{ Recipe.standard with accessFilter := .hidden }, verboseness⟩,
    ⟨{ Recipe.standard with filterDups := true }, verboseness⟩]

end TreeConfig

/-!
## Nodes of a hash tree

A node is a digest with what was kept beside it: its level, perhaps a label, perhaps its children.
Two nodes are the same for matching when their digests are equal, whatever else they carry. Siblings
are kept in canonical order, by digest and then by label, so that their combined digest does not
depend on the order in which they were found.
-/

/-- The level of a node. -/
inductive Level where
  | root
  | package
  | «class»
  | method
deriving DecidableEq, Inhabited

/-- The level of a node with its label: a package name, a class name or a method signature. -/
inductive NodeKind where
  | root
  | package (name : Option String)
  | «class» (name : Option String)
  | method (signature : Option String)
deriving DecidableEq, Inhabited

namespace NodeKind

def level : NodeKind → Level
  | root => .root
  | package _ => .package
  | «class» _ => .class
  | method _ => .method

def label : NodeKind → Option String
  | root => none
  | package label | «class» label | method label => label

end NodeKind

/-- A node of a hash tree with its children. -/
inductive Node where
  | mk (digest : Digest) (kind : NodeKind) (children : List Node)
deriving Inhabited

namespace Node

def digest : Node → Digest
  | mk digest _ _ => digest

def kind : Node → NodeKind
  | mk _ kind _ => kind

def children : Node → List Node
  | mk _ _ children => children

def level (node : Node) : Level :=
  node.kind.level

def label (node : Node) : Option String :=
  node.kind.label

/-- The name of a package node. -/
def packageName? (node : Node) : Option String :=
  match node.kind with
  | .package name => name
  | _ => none

/-- The order of siblings: by digest, then by label. -/
def compareSiblings (left right : Node) : Ordering :=
  (compare left.digest right.digest).then (Text.compareOptional left.label right.label)

/-- The nodes in canonical order. With `filterDups` only the first of each digest is kept. -/
def canonical (filterDups : Bool) (nodes : List Node) : List Node :=
  let sorted := nodes.mergeSort fun left right => (compareSiblings left right).isLE
  if filterDups then sorted.eraseRepsBy fun left right => left.digest == right.digest
  else sorted

/-- The digest of the nodes' digests, one after the other. -/
def combined (hash : List UInt8 → Digest) (nodes : List Node) : Digest :=
  hash (nodes.flatMap (·.digest.bytes))

/-- Whether a node of the given digest is among the nodes. -/
def hasDigest (nodes : List Node) (digest : Digest) : Bool :=
  nodes.any (·.digest == digest)

end Node

/-!
## Trees

A tree of digests over the packages, classes and methods of a unit, with the configuration it was
built by.
-/

/-- Counts taken while a tree is built; they do not depend on what the tree keeps. -/
structure TreeStats where
  packages : Nat
  classes : Nat
  methods : Nat
deriving DecidableEq

/-- A hash tree. -/
structure HashTree where
  config : TreeConfig
  root : Node
  stats : TreeStats

namespace HashTree

/-- The package nodes, in canonical order. -/
def packages (tree : HashTree) : List Node :=
  tree.root.children

/-- Whether nothing was left to hash. -/
def isEmpty (tree : HashTree) : Bool :=
  tree.packages.isEmpty

/-- The names of the package nodes that have one. -/
def packageNames (tree : HashTree) : List String :=
  tree.packages.filterMap Node.packageName?

/-- The labels of the method nodes. -/
def signatures (tree : HashTree) : List String :=
  tree.packages.flatMap fun package =>
    package.children.flatMap fun info => info.children.filterMap Node.label

/-- A tree whose root is combined from the given package nodes. -/
def ofPackages (config : TreeConfig) (packages : List Node) (stats : TreeStats) : HashTree :=
  ⟨config, .mk (Node.combined config.recipe.algorithm.digest packages) .root packages, stats⟩

/-- The tree over the packages at or below the given one; `none` when no package name is. -/
def restrict? (tree : HashTree) (root : String) : Option HashTree :=
  let packages := tree.packages.filter fun node =>
    node.packageName?.any fun name => Package.isWithin name root
  if packages.isEmpty then none
  else
    some (ofPackages tree.config packages
      ⟨packages.length, total (packages.map (·.children.length)), 0⟩)

/-- The first tree that can be compared with trees of the configuration. -/
def find? (trees : List HashTree) (config : TreeConfig) : Option HashTree :=
  trees.find? (·.config.comparable config)

end HashTree

end LibPrint

/-!
## Building hash trees

A method's digest is that of its fuzzy descriptor; above it, a digest is that of the digests below
in canonical order. Classes without a method left and packages without a class left do not occur.
The digest function is an argument, so nothing here depends on the algorithm.
-/

namespace LibPrint.HashTree

/-- A class that is left after filtering: its package, its node, and the number of its methods. -/
structure ClassEntry where
  package : String
  node : Node
  methods : Nat

variable (hash : List UInt8 → Digest) (config : TreeConfig) (hierarchy : Hierarchy)

/-- Whether a class can be part of a tree. -/
def admits (info : ClassInfo) : Bool :=
  info.isFingerprintable && !(config.recipe.filterInner && info.isInner)

/-- Whether a method of such a class can be part of a tree. -/
def admitsMethod (method : Method) : Bool :=
  !method.isSynthetic && method.access.passes config.recipe.accessFilter

/-- The node of a method. -/
def methodNode (info : ClassInfo) (method : Method) : Node :=
  .mk (hash (Text.encode (hierarchy.fuzzyDescriptor info method)))
    (.method (if config.verboseness.keepsMethodNodes then some (info.signature method) else none))
    []

/-- What a class contributes: nothing when it is not admitted or no method of it is. -/
def entryOf? (info : ClassInfo) : Option ClassEntry :=
  let admitted := info.methods.filter (admitsMethod config)
  if !admits config info || admitted.isEmpty then none
  else
    let methods := Node.canonical config.recipe.filterDups
      (admitted.map (methodNode hash config hierarchy info))
    let name := if config.verboseness.keepsClassNames then some info.name else none
    let kept := if config.verboseness.keepsMethodNodes then methods else []
    some ⟨info.package, .mk (Node.combined hash methods) (.class name) kept, methods.length⟩

/-- The node of a package over the classes in it. -/
def packageNode (entries : List ClassEntry) (package : String) : Node :=
  let classes := Node.canonical config.recipe.filterDups
    ((entries.filter (·.package == package)).map (·.node))
  let name := if config.verboseness.keepsPackageNames then some package else none
  let kept := if config.verboseness.keepsClassNodes then classes else []
  .mk (Node.combined hash classes) (.package name) kept

/-- The tree over the given classes, with types seen as the hierarchy has them. -/
def buildFrom (classes : List ClassInfo) : HashTree :=
  let entries := classes.filterMap (entryOf? hash config hierarchy)
  let names := Text.sortDistinct (entries.map (·.package))
  let packages := Node.canonical config.recipe.filterDups
    (names.map (packageNode hash config entries))
  ⟨config, .mk (Node.combined hash packages) .root packages,
    ⟨packages.length, entries.length, total (entries.map (·.methods))⟩⟩

/-- The tree over all fingerprintable classes of the hierarchy. -/
def build : HashTree :=
  buildFrom config.recipe.algorithm.digest config hierarchy hierarchy.appClasses

end LibPrint.HashTree
