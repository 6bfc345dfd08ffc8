import LibPrint.HashTree
import LibPrint.Proofs.HashTree.Canonical
import Mathlib.Algebra.BigOperators.Group.List.Basic

/-!
# What a tree is made of

A tree is built from the classes that are left after filtering, and its hashes only from the fuzzy
descriptors of their methods. The definitions below say which classes those are and what the digest
of a class and of a package is, without nodes, labels or levels of verboseness; the lemmas say that
building a tree computes just these.
-/

namespace LibPrint.HashTree

/-! ## Classes that are left -/

/-- The methods of a class that can be part of a tree. -/
def admitted (recipe : Recipe) (info : ClassInfo) : List Method :=
  info.methods.filter fun method =>
    !method.isSynthetic && method.access.passes recipe.accessFilter

/-- Whether a class is left after filtering. -/
def survives (recipe : Recipe) (info : ClassInfo) : Bool :=
  info.isFingerprintable && !(recipe.filterInner && info.isInner) &&
    !(admitted recipe info).isEmpty

/-- The classes that are left after filtering. -/
def survivors (recipe : Recipe) (classes : List ClassInfo) : List ClassInfo :=
  classes.filter (survives recipe)

theorem mem_survivors {recipe : Recipe} {classes : List ClassInfo} {info : ClassInfo} :
    info ∈ survivors recipe classes ↔ info ∈ classes ∧ survives recipe info = true :=
  List.mem_filter

theorem isFingerprintable_of_survives {recipe : Recipe} {info : ClassInfo}
    (left : survives recipe info = true) : info.isFingerprintable = true := by
  simp only [survives, Bool.and_eq_true] at left
  exact left.1.1

/-- Resources and classes of other units do not matter for what is left. -/
theorem survivors_appClasses (recipe : Recipe) (hierarchy : Hierarchy) :
    survivors recipe hierarchy.appClasses = survivors recipe hierarchy.classes := by
  rw [survivors, survivors, Hierarchy.appClasses, List.filter_filter]
  congr 1
  funext info
  cases fingerprintable : info.isFingerprintable <;> simp [survives, fingerprintable]

/-! ## Digests -/

section Digests

variable (hash : List UInt8 → Digest) (recipe : Recipe) (hierarchy : Hierarchy)

/-- The digest of a method. -/
def methodDigest (info : ClassInfo) (method : Method) : Digest :=
  hash (Text.encode (hierarchy.fuzzyDescriptor info method))

/-- The digests of a class's methods, in order. -/
def methodDigests (info : ClassInfo) : List Digest :=
  Digest.canonical recipe.filterDups
    ((admitted recipe info).map (methodDigest hash hierarchy info))

/-- The digest of a class. -/
def classDigest (info : ClassInfo) : Digest :=
  Digest.combined hash (methodDigests hash recipe hierarchy info)

/-- The package and the digest of every class that is left. -/
def contents (classes : List ClassInfo) : List (String × Digest) :=
  (survivors recipe classes).map fun info =>
    (info.package, classDigest hash recipe hierarchy info)

/-- The digest of a package, from the classes in it. -/
def packageDigest (contents : List (String × Digest)) (package : String) : Digest :=
  Digest.combined hash (Digest.canonical recipe.filterDups
    ((contents.filter (·.1 == package)).map (·.2)))

/-- The digests of all packages, in the order of their names. -/
def packageDigests (contents : List (String × Digest)) : List Digest :=
  (Text.sortDistinct (contents.map (·.1))).map (packageDigest hash recipe contents)

/-- The packages of the classes that are left. -/
theorem map_fst_contents (classes : List ClassInfo) :
    (contents hash recipe hierarchy classes).map (·.1) =
      (survivors recipe classes).map ClassInfo.package := by
  rw [contents, List.map_map]
  rfl

/-- The digests of the classes of a package. -/
theorem map_snd_filter_contents (classes : List ClassInfo) (package : String) :
    ((contents hash recipe hierarchy classes).filter (·.1 == package)).map (·.2) =
      ((survivors recipe classes).filter (·.package == package)).map
        (classDigest hash recipe hierarchy) := by
  rw [contents, List.filter_map, List.map_map]
  rfl

variable {hash recipe hierarchy} in
theorem mem_digests_contents {classes : List ClassInfo} {package : String} {digest : Digest} :
    digest ∈ ((contents hash recipe hierarchy classes).filter (·.1 == package)).map (·.2) ↔
      ∃ info ∈ survivors recipe classes, info.package = package ∧
        classDigest hash recipe hierarchy info = digest := by
  rw [map_snd_filter_contents]
  simp [and_assoc]

variable {hash recipe} in
theorem packageDigests_eq_nil_iff {contents : List (String × Digest)} :
    packageDigests hash recipe contents = [] ↔ contents = [] := by
  rw [packageDigests, List.map_eq_nil_iff, Text.sortDistinct_eq_nil_iff, List.map_eq_nil_iff]

theorem packageDigest_eq_of_perm {left right : List (String × Digest)} (perm : left.Perm right)
    (package : String) :
    packageDigest hash recipe left package = packageDigest hash recipe right package := by
  have members := (perm.filter (·.1 == package)).map (·.2)
  rw [packageDigest, packageDigest, Digest.canonical_eq_of_perm recipe.filterDups members]

/-- When equal names go with equal keys, the distinct names are those of the distinct keys. -/
theorem sortDistinct_perm_keys {α κ : Type} [DecidableEq κ] (items : List α) (key : α → κ)
    (name : κ → String)
    (injective : ∀ first ∈ items, ∀ second ∈ items,
      name (key first) = name (key second) → key first = key second) :
    (Text.sortDistinct (items.map fun item => name (key item))).Perm
      ((items.map key).dedup.map name) := by
  apply (List.perm_ext_iff_of_nodup (Text.nodup_sortDistinct _) _).mpr
  · intro text
    simp
  · apply (List.nodup_dedup _).map_on
    intro first firstMem second secondMem equal
    obtain ⟨item, itemMem, rfl⟩ := List.mem_map.mp (List.mem_dedup.mp firstMem)
    obtain ⟨other, otherMem, rfl⟩ := List.mem_map.mp (List.mem_dedup.mp secondMem)
    exact injective item itemMem other otherMem equal

/-- Package digests do not depend on the names of the packages, only on which classes share one.
Each item is a class with its package under two namings and its digest. -/
theorem packageDigests_regroup (classes : List (String × String × Digest))
    (grouping : ∀ first ∈ classes, ∀ second ∈ classes,
      first.1 = second.1 ↔ first.2.1 = second.2.1) :
    (packageDigests hash recipe (classes.map fun info => (info.1, info.2.2))).Perm
      (packageDigests hash recipe (classes.map fun info => info.2)) := by
  -- The groups under either naming are the pairs of names that occur.
  let names : String × String × Digest → String × String := fun info => (info.1, info.2.1)
  let groups := (classes.map names).dedup
  have leftNames : (Text.sortDistinct (classes.map (·.1))).Perm (groups.map (·.1)) := by
    apply sortDistinct_perm_keys classes names (·.1)
    intro first firstMem second secondMem equal
    exact Prod.ext equal ((grouping first firstMem second secondMem).mp equal)
  have rightNames : (Text.sortDistinct (classes.map (·.2.1))).Perm (groups.map (·.2)) := by
    apply sortDistinct_perm_keys classes names (·.2)
    intro first firstMem second secondMem equal
    exact Prod.ext ((grouping first firstMem second secondMem).mpr equal) equal
  let left := packageDigest hash recipe (classes.map fun info => (info.1, info.2.2))
  let right := packageDigest hash recipe (classes.map fun info => info.2)
  have digests : ∀ group ∈ groups, left group.1 = right group.2 := by
    intro group member
    obtain ⟨info, infoMem, rfl⟩ := List.mem_map.mp (List.mem_dedup.mp member)
    have members : (classes.filter fun other => other.1 == info.1) =
        classes.filter fun other => other.2.1 == info.2.1 := by
      apply List.filter_congr
      intro other otherMem
      rw [Bool.eq_iff_iff, beq_iff_eq, beq_iff_eq]
      exact grouping other otherMem info infoMem
    simp only [left, right, names, packageDigest, List.filter_map, List.map_map,
      Function.comp_def, members]
  have leftDigests := leftNames.map left
  have rightDigests := rightNames.map right
  have same : (groups.map (·.1)).map left = (groups.map (·.2)).map right := by
    rw [List.map_map, List.map_map]
    exact List.map_congr_left digests
  rw [same] at leftDigests
  have result := leftDigests.trans rightDigests.symm
  simpa only [packageDigests, List.map_map, Function.comp_def] using result

end Digests

/-! ## Building -/

@[simp] theorem config_build (config : TreeConfig) (hierarchy : Hierarchy) :
    (build config hierarchy).config = config :=
  rfl

section Build

variable (hash : List UInt8 → Digest) (config : TreeConfig) (hierarchy : Hierarchy)

/-- What a class that is left contributes. -/
def entry (info : ClassInfo) : ClassEntry :=
  let methods := Node.canonical config.recipe.filterDups
    ((admitted config.recipe info).map (methodNode hash config hierarchy info))
  let name := if config.verboseness.keepsClassNames then some info.name else none
  let kept := if config.verboseness.keepsMethodNodes then methods else []
  ⟨info.package, .mk (classDigest hash config.recipe hierarchy info) (.class name) kept,
    (methodDigests hash config.recipe hierarchy info).length⟩

theorem map_digest_methodNode (info : ClassInfo) (methods : List Method) :
    (methods.map (methodNode hash config hierarchy info)).map Node.digest =
      methods.map (methodDigest hash hierarchy info) := by
  rw [List.map_map]
  rfl

/-- A class contributes its entry when it is left, and nothing otherwise. -/
theorem entryOf?_eq (info : ClassInfo) :
    entryOf? hash config hierarchy info =
      if survives config.recipe info then some (entry hash config hierarchy info) else none := by
  have methods : info.methods.filter (admitsMethod config) = admitted config.recipe info := rfl
  have digests := map_digest_methodNode hash config hierarchy info (admitted config.recipe info)
  simp only [entryOf?, methods, Node.combined_eq, Node.map_digest_canonical, digests,
    Node.length_canonical]
  have decision : survives config.recipe info =
      !(!admits config info || (admitted config.recipe info).isEmpty) := by
    simp only [survives, admits, Bool.not_or, Bool.not_not]
  rw [decision]
  cases !admits config info || (admitted config.recipe info).isEmpty <;> rfl

/-- The entries are those of the classes that are left. -/
theorem filterMap_entryOf? (classes : List ClassInfo) :
    classes.filterMap (entryOf? hash config hierarchy) =
      (survivors config.recipe classes).map (entry hash config hierarchy) := by
  induction classes with
  | nil => rfl
  | cons info classes ih =>
      rw [List.filterMap_cons, entryOf?_eq, ih, survivors, survivors, List.filter_cons]
      cases survives config.recipe info <;> rfl

/-- Building from the classes that take part is building from all. -/
theorem filterMap_entryOf?_appClasses :
    hierarchy.appClasses.filterMap (entryOf? hash config hierarchy) =
      hierarchy.classes.filterMap (entryOf? hash config hierarchy) := by
  rw [filterMap_entryOf?, filterMap_entryOf?, survivors_appClasses]

/-- The class nodes of a package are those of the classes in it. -/
theorem map_node_filter_entries (classes : List ClassInfo) (package : String) :
    ((classes.map (entry hash config hierarchy)).filter (·.package == package)).map (·.node) =
      (classes.filter (·.package == package)).map fun info =>
        (entry hash config hierarchy info).node := by
  rw [List.filter_map, List.map_map]
  rfl

theorem digest_packageNode (classes : List ClassInfo) (package : String) :
    (packageNode hash config
        ((survivors config.recipe classes).map (entry hash config hierarchy)) package).digest =
      packageDigest hash config.recipe (contents hash config.recipe hierarchy classes) package := by
  simp only [packageNode, Node.digest, Node.combined_eq, Node.map_digest_canonical, packageDigest,
    contents, List.filter_map, List.map_map]
  rfl

variable (classes : List ClassInfo)

/-- The package nodes of the tree over the given classes, in canonical order. -/
def packageNodes : List Node :=
  Node.canonical config.recipe.filterDups
    ((Text.sortDistinct ((survivors config.recipe classes).map ClassInfo.package)).map
      (packageNode hash config
        ((survivors config.recipe classes).map (entry hash config hierarchy))))

/-- A tree consists of its package nodes and of what is counted. -/
theorem buildFrom_eq :
    buildFrom hash config hierarchy classes =
      ⟨config,
        .mk (Node.combined hash (packageNodes hash config hierarchy classes)) .root
          (packageNodes hash config hierarchy classes),
        ⟨(packageNodes hash config hierarchy classes).length,
          (survivors config.recipe classes).length,
          total ((survivors config.recipe classes).map fun info =>
            (methodDigests hash config.recipe hierarchy info).length)⟩⟩ := by
  simp only [buildFrom, filterMap_entryOf?, List.map_map, List.length_map]
  rfl

theorem packages_buildFrom :
    (buildFrom hash config hierarchy classes).packages =
      packageNodes hash config hierarchy classes := by
  rw [buildFrom_eq]
  rfl

theorem level_of_mem_packageNodes {node : Node}
    (member : node ∈ packageNodes hash config hierarchy classes) : node.level = .package := by
  obtain ⟨package, _, rfl⟩ := List.mem_map.mp (Node.mem_of_mem_canonical member)
  rfl

/-- The digests of the package nodes are those of the packages with a class that is left. -/
theorem map_digest_packages_buildFrom :
    (buildFrom hash config hierarchy classes).packages.map Node.digest =
      Digest.canonical config.recipe.filterDups
        (packageDigests hash config.recipe (contents hash config.recipe hierarchy classes)) := by
  simp only [buildFrom, packages, Node.children, Node.map_digest_canonical, filterMap_entryOf?,
    List.map_map, packageDigests, map_fst_contents]
  congr 1
  apply List.map_congr_left
  intro package _
  exact digest_packageNode hash config hierarchy classes package

/-- A tree is empty exactly when no class is left after filtering. -/
theorem packages_buildFrom_eq_nil_iff :
    (buildFrom hash config hierarchy classes).packages = [] ↔
      survivors config.recipe classes = [] := by
  have digests := map_digest_packages_buildFrom hash config hierarchy classes
  rw [← List.map_eq_nil_iff (f := Node.digest), digests]
  rw [Digest.canonical_eq_nil_iff, packageDigests_eq_nil_iff, contents, List.map_eq_nil_iff]

variable {hash config hierarchy classes} in
theorem mem_digests_buildFrom {digest : Digest} :
    digest ∈ (buildFrom hash config hierarchy classes).packages.map Node.digest ↔
      ∃ package ∈ (survivors config.recipe classes).map ClassInfo.package,
        packageDigest hash config.recipe (contents hash config.recipe hierarchy classes) package =
          digest := by
  simp only [map_digest_packages_buildFrom, Digest.mem_canonical, packageDigests,
    map_fst_contents, List.mem_map, Text.mem_sortDistinct]

theorem digest_root_buildFrom :
    (buildFrom hash config hierarchy classes).root.digest =
      Digest.combined hash ((buildFrom hash config hierarchy classes).packages.map Node.digest) :=
  Node.combined_eq hash _

/-- The counts of a tree are those of its packages, of the classes that are left and of the
digests of their methods. -/
theorem stats_buildFrom :
    (buildFrom hash config hierarchy classes).stats =
      ⟨((buildFrom hash config hierarchy classes).packages.map Node.digest).length,
        (survivors config.recipe classes).length,
        total ((survivors config.recipe classes).map fun info =>
          (methodDigests hash config.recipe hierarchy info).length)⟩ := by
  simp only [buildFrom, packages, Node.children, filterMap_entryOf?, List.length_map,
    List.map_map]
  rfl

end Build

/-! ## Trees of the same hashes -/

/-- Two trees that agree in the root hash, the counts and the package hashes in their order. -/
structure SameHashes (left right : HashTree) : Prop where
  root : left.root.digest = right.root.digest
  stats : left.stats = right.stats
  packages : left.packages.map Node.digest = right.packages.map Node.digest

/-- Trees have the same hashes when their package digests are the same ones and the numbers of
methods of their classes are equal in order. -/
theorem sameHashes_buildFrom {hash : List UInt8 → Digest} {config : TreeConfig}
    {left right : Hierarchy} {classes others : List ClassInfo}
    (digests : (packageDigests hash config.recipe
        (contents hash config.recipe left classes)).Perm
      (packageDigests hash config.recipe (contents hash config.recipe right others)))
    (methods : ((survivors config.recipe classes).map fun info =>
        (methodDigests hash config.recipe left info).length) =
      (survivors config.recipe others).map fun info =>
        (methodDigests hash config.recipe right info).length) :
    SameHashes (buildFrom hash config left classes) (buildFrom hash config right others) := by
  have packages : (buildFrom hash config left classes).packages.map Node.digest =
      (buildFrom hash config right others).packages.map Node.digest := by
    rw [map_digest_packages_buildFrom, map_digest_packages_buildFrom,
      Digest.canonical_eq_of_perm _ digests]
  have counts := congrArg List.length methods
  rw [List.length_map, List.length_map] at counts
  constructor
  · rw [digest_root_buildFrom, digest_root_buildFrom, packages]
  · rw [stats_buildFrom, stats_buildFrom, packages, counts, methods]
  · exact packages

end LibPrint.HashTree
