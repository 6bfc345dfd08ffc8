import LibPrint.Library.Format
import LibPrint.Proofs.Binary.Codec
import LibPrint.Proofs.Library.Date

/-!
# Profiles in binary form

Each part of a profile is restored from what is written for it, the packages and the nodes with all
that is nested in them. Nothing is asked of the texts, the digests or the shape of the trees; the
counts have to be numbers of 64 bits.
-/

namespace LibPrint

theorem Category.mem_all (category : Category) : category ∈ Category.all := by
  cases category <;> decide

theorem Digest.Algorithm.mem_all (algorithm : Digest.Algorithm) :
    algorithm ∈ Digest.Algorithm.all := by
  cases algorithm <;> decide

theorem Verboseness.mem_all (verboseness : Verboseness) : verboseness ∈ Verboseness.all := by
  cases verboseness <;> decide

namespace PackageNode

theorem walkAll_eq_flatMap (package : String) (nodes : List PackageNode) :
    walkAll package nodes = nodes.flatMap fun node => node.walk (qualify package node.name) := by
  induction nodes with
  | nil => rfl
  | cons node nodes ih => rw [walkAll, ih, List.flatMap_cons]

theorem mem_walk_of_mem_children {package name : String} {classCount : Nat}
    {children : List PackageNode} {child : PackageNode} {entry : String × PackageNode}
    (member : child ∈ children) (below : entry ∈ child.walk (qualify package child.name)) :
    entry ∈ (mk name classCount children).walk package := by
  rw [walk, walkAll_eq_flatMap]
  exact List.mem_cons_of_mem _ (List.mem_flatMap.mpr ⟨child, member, below⟩)

end PackageNode

namespace Codec

/-! ## Descriptions -/

theorem optionalText_restores (value : Option String) : (option text).Restores value :=
  option_restores fun content _ => text_restores content

theorem date_restores (value : Option Date) : date.Restores value := by
  refine (optionalText_restores _).convert ?_
  cases value with
  | none => rfl
  | some value => exact value.readOptional?_text

theorem description_restores (value : Description) : description.Restores value := by
  refine Restores.convert ?_ rfl
  exact (text_restores _).pair ((oneOf_restores value.category.mem_all (by decide)).pair
    ((optionalText_restores _).pair ((date_restores _).pair (optionalText_restores _))))

/-! ## Packages -/

theorem writePackages_eq_flatMap (nodes : List PackageNode) :
    writePackages nodes = nodes.flatMap writePackage := by
  induction nodes with
  | nil => rfl
  | cons node nodes ih => simp [writePackages, ih]

/-- A package is written field by field, its children with a lower limit of depth. -/
theorem package_layer (depth : Nat) :
    Codec.mk writePackage (readPackage (depth + 1)) =
      (text.pair (size.pair (list ⟨writePackage, readPackage depth⟩))).convert
        (fun node => (node.name, node.classCount, node.children))
        fun (name, classCount, children) => some (.mk name classCount children) := by
  simp only [convert, pair, list, Codec.mk.injEq]
  constructor
  · funext node
    cases node
    simp [writePackage, writePackages_eq_flatMap, writeAll, PackageNode.name,
      PackageNode.classCount, PackageNode.children]
  · funext bytes
    simp [readPackage, Option.bind_assoc]

theorem package_restores {depth : Nat} {node : PackageNode} {package : String}
    (deep : (writePackage node).length ≤ depth)
    (counted : ∀ entry ∈ node.walk package, entry.2.classCount < 2 ^ 64) :
    (Codec.mk writePackage (readPackage depth)).Restores node := by
  refine nested_restores package_layer (fun node => by cases node; rfl)
    (fun node => ∃ package, ∀ entry ∈ node.walk package, entry.2.classCount < 2 ^ 64) ?_
    ⟨package, counted⟩ deep
  rintro ⟨name, classCount, children⟩ ⟨package, counted⟩
  refine ⟨text_restores name, size_restores ?_, fun child member => ?_⟩
  · exact counted (package, .mk name classCount children) (by simp [PackageNode.walk])
  · exact ⟨_, fun entry below =>
      counted entry (PackageNode.mem_walk_of_mem_children member below)⟩

theorem packageTree_restores {tree : PackageTree}
    (counted : ∀ entry ∈ tree.walk, entry.2.classCount < 2 ^ 64) : packageTree.Restores tree := by
  have root (rest : List UInt8) :
      (Codec.mk writePackage (readPackage (writePackage tree.root ++ rest).length)).Restores
        tree.root :=
    package_restores (by simp) counted
  refine ⟨(root []).occupied, fun short rest => ?_⟩
  have found : readPackage (writePackage tree.root ++ rest).length
      (writePackage tree.root ++ rest) = some (tree.root, rest) :=
    (root rest).read_write short rest
  simp only [packageTree, found, Option.bind_eq_bind, Option.bind_some]

/-! ## Hash trees -/

theorem digest_restores (value : Digest) : digest.Restores value := by
  refine Restores.convert ?_ rfl
  exact list_restores fun content _ => byte_restores content

theorem nodeKind_restores (value : NodeKind) : nodeKind.Restores value where
  occupied := by
    cases value with
    | root => simp [nodeKind, word]
    | package name | «class» name | method name =>
        simp only [nodeKind, word, List.length_append, length_writeWord]
        omega
  read_write := by
    intro short rest
    have level {number : Nat} (small : number < 4) (rest : List UInt8) :
        (word 4).read ((word 4).write number ++ rest) = some (number, rest) :=
      readWord_writeWord (by omega) rest
    have label {value : Option String} (short : ((option text).write value).length < 2 ^ 64) :
        (option text).read ((option text).write value ++ rest) = some (value, rest) :=
      (optionalText_restores value).read_write short rest
    cases value with
    | root => simp [nodeKind, level]
    | package name | «class» name | method name =>
        simp only [nodeKind, List.length_append] at short
        simp [nodeKind, level, label (by omega : ((option text).write name).length < 2 ^ 64)]

theorem writeNodes_eq_flatMap (nodes : List Node) :
    writeNodes nodes = nodes.flatMap writeNode := by
  induction nodes with
  | nil => rfl
  | cons node nodes ih => simp [writeNodes, ih]

/-- A node is written field by field, its children with a lower limit of depth. -/
theorem node_layer (depth : Nat) :
    Codec.mk writeNode (readNode (depth + 1)) =
      (digest.pair (nodeKind.pair (list ⟨writeNode, readNode depth⟩))).convert
        (fun node => (node.digest, node.kind, node.children))
        fun (hash, kind, children) => some (.mk hash kind children) := by
  simp only [convert, pair, list, Codec.mk.injEq]
  constructor
  · funext node
    cases node
    simp [writeNode, writeNodes_eq_flatMap, writeAll, Node.digest, Node.kind, Node.children]
  · funext bytes
    simp [readNode, Option.bind_assoc]

theorem node_restores (value : Node) : node.Restores value := by
  have within (rest : List UInt8) :
      (Codec.mk writeNode (readNode (writeNode value ++ rest).length)).Restores value :=
    nested_restores node_layer (fun node => by cases node; rfl) (fun _ => True)
      (fun node _ => ⟨digest_restores _, nodeKind_restores _, fun _ _ => trivial⟩) trivial (by simp)
  exact ⟨(within []).occupied, fun short rest => (within rest).read_write short rest⟩

theorem treeConfig_restores (value : TreeConfig) : treeConfig.Restores value := by
  refine Restores.convert ?_ ?_
  · exact (oneOf_restores value.recipe.algorithm.mem_all (by decide)).pair
      ((word_restores (by decide) (UInt32.toNat_lt _)).pair ((bool_restores _).pair
        ((bool_restores _).pair (oneOf_restores value.verboseness.mem_all (by decide)))))
  · simp

theorem treeStats_restores {value : TreeStats} (packages : value.packages < 2 ^ 64)
    (classes : value.classes < 2 ^ 64) (methods : value.methods < 2 ^ 64) :
    treeStats.Restores value := by
  refine Restores.convert ?_ rfl
  exact (size_restores packages).pair ((size_restores classes).pair (size_restores methods))

theorem hashTree_restores {value : HashTree} (stats : treeStats.Restores value.stats) :
    hashTree.Restores value := by
  refine Restores.convert ?_ rfl
  exact (treeConfig_restores _).pair ((node_restores _).pair stats)

end Codec

/-! ## Profiles -/

namespace LibProfile

/-- The counts of a profile, and the number of the bytes it is stored as, have 64 bits. -/
structure Fits (profile : LibProfile) : Prop where
  bytes : profile.toBytes.length < 2 ^ 64
  classCounts : ∀ entry ∈ profile.packageTree.walk, entry.2.classCount < 2 ^ 64
  stats : ∀ tree ∈ profile.hashTrees,
    tree.stats.packages < 2 ^ 64 ∧ tree.stats.classes < 2 ^ 64 ∧ tree.stats.methods < 2 ^ 64

instance (profile : LibProfile) : Decidable profile.Fits :=
  decidable_of_iff (profile.toBytes.length < 2 ^ 64 ∧
      (∀ entry ∈ profile.packageTree.walk, entry.2.classCount < 2 ^ 64) ∧
      ∀ tree ∈ profile.hashTrees,
        tree.stats.packages < 2 ^ 64 ∧ tree.stats.classes < 2 ^ 64 ∧ tree.stats.methods < 2 ^ 64)
    ⟨fun ⟨bytes, classCounts, stats⟩ => ⟨bytes, classCounts, stats⟩,
      fun fits => ⟨fits.bytes, fits.classCounts, fits.stats⟩⟩

theorem libProfile_restores {profile : LibProfile} (fits : profile.Fits) :
    Codec.libProfile.Restores profile := by
  refine Codec.Restores.convert ?_ rfl
  refine (Codec.description_restores _).pair ((Codec.packageTree_restores fits.classCounts).pair
    (Codec.list_restores fun tree member => ?_))
  obtain ⟨packages, classes, methods⟩ := fits.stats tree member
  exact Codec.hashTree_restores (Codec.treeStats_restores packages classes methods)

/-- A profile is read from the bytes it is stored as, whatever bytes come after them. -/
theorem read_toBytes {profile : LibProfile} (fits : profile.Fits) (rest : List UInt8) :
    format.read (profile.toBytes ++ rest) = some ((formatVersion, profile), rest) :=
  ((Codec.word_restores (by decide) (by decide)).pair (libProfile_restores fits)).read_write
    fits.bytes rest

end LibProfile

end LibPrint
