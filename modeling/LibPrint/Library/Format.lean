import LibPrint.Binary.Codec
import LibPrint.Library.Profile

/-!
# The format of stored profiles

A version number, then the profile: its description, its package tree and its hash trees, each with
its fields in a fixed order. Bytes after the profile do not matter.
-/

namespace LibPrint

namespace Codec

/-- A date as its text; one that is left open may also be a text of blanks. -/
def date : Codec (Option Date) :=
  (option text).convert (·.map Date.text) fun
    | none => some none
    | some text => Date.readOptional? text

/-- A description. -/
def description : Codec Description :=
  (text.pair ((oneOf Category.all).pair ((option text).pair (date.pair (option text))))).convert
    (fun value => (value.name, value.category, value.version, value.date, value.comment))
    fun (name, category, version, date, comment) => some ⟨name, category, version, date, comment⟩

mutual

/-- A package with the packages below it. -/
def writePackage : PackageNode → List UInt8
  | .mk name classCount children =>
      text.write name ++ size.write classCount ++ size.write children.length ++
        writePackages children

def writePackages : List PackageNode → List UInt8
  | [] => []
  | node :: nodes => writePackage node ++ writePackages nodes

end

/-- Reads a package; the first argument is how deep packages may be nested. -/
def readPackage : Nat → List UInt8 → Option (PackageNode × List UInt8)
  | 0, _ => none
  | depth + 1, bytes => do
      let (name, bytes) ← text.read bytes
      let (classCount, bytes) ← size.read bytes
      let (children, bytes) ← readAll (readPackage depth) bytes
      some (.mk name classCount children, bytes)

/-- A package tree. Every package takes some bytes, so their number bounds the nesting. -/
def packageTree : Codec PackageTree where
  write tree := writePackage tree.root
  read bytes := do
    let (root, bytes) ← readPackage bytes.length bytes
    some (⟨root⟩, bytes)

/-- A digest as its bytes. -/
def digest : Codec Digest :=
  (list byte).convert (·.bytes) fun bytes => some ⟨bytes⟩

/-- A level and, below the root, a label. -/
def nodeKind : Codec NodeKind where
  write
    | .root => (word 4).write 0
    | .package name => (word 4).write 1 ++ (option text).write name
    | .class name => (word 4).write 2 ++ (option text).write name
    | .method signature => (word 4).write 3 ++ (option text).write signature
  read bytes := do
    let (level, bytes) ← (word 4).read bytes
    if level = 0 then some (.root, bytes)
    else
      let (label, bytes) ← (option text).read bytes
      match level with
      | 1 => some (.package label, bytes)
      | 2 => some (.class label, bytes)
      | 3 => some (.method label, bytes)
      | _ => none

mutual

/-- A node with the nodes below it. -/
def writeNode : Node → List UInt8
  | .mk hash kind children =>
      digest.write hash ++ nodeKind.write kind ++ size.write children.length ++
        writeNodes children

def writeNodes : List Node → List UInt8
  | [] => []
  | node :: nodes => writeNode node ++ writeNodes nodes

end

/-- Reads a node; the first argument is how deep nodes may be nested. -/
def readNode : Nat → List UInt8 → Option (Node × List UInt8)
  | 0, _ => none
  | depth + 1, bytes => do
      let (hash, bytes) ← digest.read bytes
      let (kind, bytes) ← nodeKind.read bytes
      let (children, bytes) ← readAll (readNode depth) bytes
      some (.mk hash kind children, bytes)

/-- A node and all below it. Every node takes some bytes, so their number bounds the nesting. -/
def node : Codec Node where
  write := writeNode
  read bytes := readNode bytes.length bytes

/-- A configuration; a mask of flags is taken as it is. -/
def treeConfig : Codec TreeConfig :=
  ((oneOf Digest.Algorithm.all).pair ((word 4).pair (bool.pair (bool.pair
    (oneOf Verboseness.all))))).convert
    (fun config => (config.recipe.algorithm, config.recipe.accessFilter.bits.toNat,
      config.recipe.filterDups, config.recipe.filterInner, config.verboseness))
    fun (algorithm, bits, filterDups, filterInner, verboseness) =>
      some ⟨⟨algorithm, ⟨UInt32.ofNat bits⟩, filterDups, filterInner⟩, verboseness⟩

def treeStats : Codec TreeStats :=
  (size.pair (size.pair size)).convert
    (fun stats => (stats.packages, stats.classes, stats.methods))
    fun (packages, classes, methods) => some ⟨packages, classes, methods⟩

def hashTree : Codec HashTree :=
  (treeConfig.pair (node.pair treeStats)).convert
    (fun tree => (tree.config, tree.root, tree.stats))
    fun (config, root, stats) => some ⟨config, root, stats⟩

def libProfile : Codec LibProfile :=
  (description.pair (packageTree.pair (list hashTree))).convert
    (fun profile => (profile.description, profile.packageTree, profile.hashTrees))
    fun (description, packageTree, hashTrees) => some ⟨description, packageTree, hashTrees⟩

end Codec

namespace LibProfile

/-- The version of the format. -/
def formatVersion : Nat := 1

/-- A version number and a profile. -/
def format : Codec (Nat × LibProfile) :=
  (Codec.word 4).pair Codec.libProfile

/-- The bytes a profile is stored as. -/
def toBytes (profile : LibProfile) : List UInt8 :=
  format.write (formatVersion, profile)

end LibProfile

end LibPrint
