import LibPrint.Proofs.HashTree.Content

/-!
# The meaning of a tree

What a tree is, said without building it: there is a node for each package with a class that takes
part, below it one for each such class, and below that one for each method that takes part. Siblings
ascend, and an inner digest is made of the digests below it in that order. The most verbose tree is
described in this way, as long as siblings of equal digest are all kept.
-/

namespace LibPrint

/-! ## What takes part -/

namespace Recipe

variable (recipe : Recipe)

/-- A method takes part when it is declared in the source and carries some flag, but none of the
filter's. -/
structure AdmitsMethod (method : Method) : Prop where
  declared : method.isSynthetic = false
  flagged : method.access.bits ≠ 0
  unfiltered : method.access.bits &&& recipe.accessFilter.bits = 0

instance (method : Method) : Decidable (recipe.AdmitsMethod method) :=
  decidable_of_iff
    (method.isSynthetic = false ∧ method.access.bits ≠ 0 ∧
      method.access.bits &&& recipe.accessFilter.bits = 0)
    ⟨fun ⟨declared, flagged, unfiltered⟩ => ⟨declared, flagged, unfiltered⟩,
      fun ⟨declared, flagged, unfiltered⟩ => ⟨declared, flagged, unfiltered⟩⟩

/-- The methods of a class that take part. -/
def methodsOf (info : ClassInfo) : List Method :=
  info.methods.filter (recipe.AdmitsMethod ·)

/-- A class takes part when it belongs in a fingerprint, is not left out for being nested, and has a
method that takes part. -/
structure AdmitsClass (info : ClassInfo) : Prop where
  fingerprintable : info.isFingerprintable = true
  nesting : recipe.filterInner = true → info.isInner = false
  method : ∃ method ∈ info.methods, recipe.AdmitsMethod method

instance (info : ClassInfo) : Decidable (recipe.AdmitsClass info) :=
  decidable_of_iff
    (info.isFingerprintable = true ∧ (recipe.filterInner = true → info.isInner = false) ∧
      ∃ method ∈ info.methods, recipe.AdmitsMethod method)
    ⟨fun ⟨fingerprintable, nesting, method⟩ => ⟨fingerprintable, nesting, method⟩,
      fun ⟨fingerprintable, nesting, method⟩ => ⟨fingerprintable, nesting, method⟩⟩

/-- The classes of a unit that take part. -/
def classesOf (hierarchy : Hierarchy) : List ClassInfo :=
  hierarchy.classes.filter (recipe.AdmitsClass ·)

/-- The packages with a class that takes part, each once. -/
def packagesOf (hierarchy : Hierarchy) : List String :=
  ((recipe.classesOf hierarchy).map ClassInfo.package).dedup

end Recipe

namespace HashTree

variable {recipe : Recipe}

theorem admitted_eq_methodsOf (info : ClassInfo) :
    admitted recipe info = recipe.methodsOf info := by
  apply List.filter_congr
  intro method _
  rw [Bool.eq_iff_iff, decide_eq_true_iff]
  constructor
  · intro passes
    simp only [AccessFlags.passes, AccessFlags.isEmpty, AccessFlags.intersects, Bool.and_eq_true,
      Bool.not_eq_true', beq_eq_false_iff_ne, bne_eq_false_iff_eq] at passes
    exact ⟨passes.1, passes.2.1, passes.2.2⟩
  · rintro ⟨declared, flagged, unfiltered⟩
    simp [AccessFlags.passes, AccessFlags.isEmpty, AccessFlags.intersects, declared, flagged,
      unfiltered]

theorem survives_iff_admitsClass {info : ClassInfo} :
    survives recipe info = true ↔ recipe.AdmitsClass info := by
  have occupied : (!(recipe.methodsOf info).isEmpty) = true ↔
      ∃ method ∈ info.methods, recipe.AdmitsMethod method := by
    simp [Recipe.methodsOf, List.filter_eq_nil_iff]
  rw [survives, admitted_eq_methodsOf, Bool.and_eq_true, occupied, Bool.and_eq_true]
  constructor
  · rintro ⟨⟨fingerprintable, unnested⟩, method⟩
    refine ⟨fingerprintable, ?_, method⟩
    intro filters
    rwa [filters, Bool.true_and, Bool.not_eq_true'] at unnested
  · rintro ⟨fingerprintable, nesting, method⟩
    refine ⟨⟨fingerprintable, ?_⟩, method⟩
    cases filters : recipe.filterInner with
    | false => rfl
    | true => rw [nesting filters]; rfl

theorem survivors_eq_classesOf (hierarchy : Hierarchy) :
    survivors recipe hierarchy.classes = recipe.classesOf hierarchy := by
  apply List.filter_congr
  intro info _
  rw [Bool.eq_iff_iff, decide_eq_true_iff]
  exact survives_iff_admitsClass

/-! ## Nodes that stand for something -/

/-- There is one node for each item, and each node stands for its item. -/
def OneEach {α : Type} (stands : α → Node → Prop) (items : List α) (nodes : List Node) : Prop :=
  ∃ listed, items.Perm listed ∧ List.Forall₂ stands listed nodes

/-- An inner node is made of its children in ascending order. -/
structure IsCombined (hash : List UInt8 → Digest) (node : Node) : Prop where
  ascending : node.children.Pairwise fun left right =>
    (Node.compareSiblings left right).isLE = true
  digest : node.digest = hash (node.children.flatMap (·.digest.bytes))

section Description

variable (hash : List UInt8 → Digest) (recipe : Recipe) (hierarchy : Hierarchy)

structure IsMethodNode (info : ClassInfo) (method : Method) (node : Node) : Prop where
  kind : node.kind = .method (some (info.signature method))
  digest : node.digest = hash (Text.encode (hierarchy.fuzzyDescriptor info method))
  childless : node.children = []

structure IsClassNode (info : ClassInfo) (node : Node) : Prop where
  kind : node.kind = .class (some info.name)
  methods : OneEach (IsMethodNode hash hierarchy info) (recipe.methodsOf info) node.children
  combined : IsCombined hash node
  occupied : node.children ≠ []

structure IsPackageNode (package : String) (node : Node) : Prop where
  kind : node.kind = .package (some package)
  classes : OneEach (IsClassNode hash recipe hierarchy)
    ((recipe.classesOf hierarchy).filter (·.package == package)) node.children
  combined : IsCombined hash node
  occupied : node.children ≠ []

/-- The tree of what takes part in a unit. -/
structure Describes (tree : HashTree) : Prop where
  kind : tree.root.kind = .root
  packages : OneEach (IsPackageNode hash recipe hierarchy) (recipe.packagesOf hierarchy)
    tree.packages
  combined : IsCombined hash tree.root
  stats : tree.stats = ⟨(recipe.packagesOf hierarchy).length,
    (recipe.classesOf hierarchy).length,
    total ((recipe.classesOf hierarchy).map fun info => (recipe.methodsOf info).length)⟩

end Description

theorem OneEach.of_perm {α : Type} {stands : α → Node → Prop} {items others : List α}
    {nodes : List Node} (each : OneEach stands items nodes) (perm : others.Perm items) :
    OneEach stands others nodes := by
  obtain ⟨listed, same, paired⟩ := each
  exact ⟨listed, perm.trans same, paired⟩

theorem OneEach.length_eq {α : Type} {stands : α → Node → Prop} {items : List α}
    {nodes : List Node} (each : OneEach stands items nodes) : nodes.length = items.length := by
  obtain ⟨listed, same, paired⟩ := each
  rw [← paired.length_eq, same.length_eq]

/-- When the children of each node stand for a part of its item, all children together stand for all
parts. -/
theorem OneEach.children {α β : Type} {stands : α → Node → Prop} {part : β → Node → Prop}
    {parts : α → List β} {items : List α} {nodes : List Node} (each : OneEach stands items nodes)
    (below : ∀ item node, stands item node → OneEach part (parts item) node.children) :
    OneEach part (items.flatMap parts) (nodes.flatMap Node.children) := by
  obtain ⟨listed, same, paired⟩ := each
  refine OneEach.of_perm ?_ (same.flatMap_right parts)
  clear same
  induction paired with
  | nil => exact ⟨[], .refl _, .nil⟩
  | @cons item node listed nodes stood _ ih =>
      obtain ⟨first, firstSame, firstPaired⟩ := below item node stood
      obtain ⟨rest, restSame, restPaired⟩ := ih
      rw [List.flatMap_cons, List.flatMap_cons]
      exact ⟨first ++ rest, firstSame.append restSame, List.rel_append firstPaired restPaired⟩

theorem OneEach.length_children {α : Type} {stands : α → Node → Prop} {size : α → Nat}
    {items : List α} {nodes : List Node} (each : OneEach stands items nodes)
    (sizes : ∀ item node, stands item node → node.children.length = size item) :
    (nodes.flatMap Node.children).length = total (items.map size) := by
  obtain ⟨listed, same, paired⟩ := each
  have sums : total (items.map size) = total (listed.map size) := (same.map size).sum_eq
  rw [sums]
  clear same sums
  induction paired with
  | nil => rfl
  | @cons item node listed nodes stood _ ih =>
      rw [List.flatMap_cons, List.length_append, ih, sizes item node stood]
      rfl

/-- Items fall into groups by their names. -/
theorem flatMap_filter_perm {α : Type} (name : α → String) (items : List α) {names : List String}
    (distinct : names.Nodup) :
    (names.flatMap fun wanted => items.filter fun item => name item == wanted).Perm
      (items.filter fun item => names.contains (name item)) := by
  induction distinct with
  | nil => simp
  | @cons wanted names fresh _ ih =>
      have split := List.filter_append_perm (fun item => name item == wanted)
        (items.filter fun item => (wanted :: names).contains (name item))
      rw [List.filter_filter, List.filter_filter] at split
      have absent : wanted ∉ names := fun member => fresh wanted member rfl
      have chosen : (fun item => name item == wanted &&
          (wanted :: names).contains (name item)) = fun item => name item == wanted := by
        funext item
        by_cases same : name item = wanted <;> simp [same]
      have others : (fun item => !(name item == wanted) &&
          (wanted :: names).contains (name item)) = fun item => names.contains (name item) := by
        funext item
        by_cases same : name item = wanted <;> simp [same, absent]
      rw [chosen, others] at split
      rw [List.flatMap_cons]
      exact (ih.append_left _).trans split

/-- Nodes in canonical order stand for the items they were made from. -/
theorem oneEach_canonical {α : Type} {stands : α → Node → Prop} {items : List α} {node : α → Node}
    (made : ∀ item ∈ items, stands item (node item)) :
    OneEach stands items (Node.canonical false (items.map node)) := by
  have paired : List.Forall₂ stands items (items.map node) := by
    rw [List.forall₂_map_right_iff, List.forall₂_same]
    exact made
  have ordered : (items.map node).Perm (Node.canonical false (items.map node)) :=
    (List.mergeSort_perm _ _).symm
  have composed : Relation.Comp (List.Forall₂ stands) List.Perm items
      (Node.canonical false (items.map node)) := ⟨_, paired, ordered⟩
  rwa [List.forall₂_comp_perm_eq_perm_comp_forall₂] at composed

/-- A node over others in canonical order is made of them. -/
theorem isCombined_canonical (hash : List UInt8 → Digest) (kind : NodeKind) (nodes : List Node) :
    IsCombined hash (.mk (Node.combined hash (Node.canonical false nodes)) kind
      (Node.canonical false nodes)) :=
  ⟨pairwise_mergeSort_isLE Node.compareSiblings nodes, rfl⟩

theorem length_canonical_of_kept (nodes : List Node) :
    (Node.canonical false nodes).length = nodes.length :=
  List.length_mergeSort _

theorem canonical_ne_nil {nodes : List Node} (occupied : nodes ≠ []) :
    Node.canonical false nodes ≠ [] := by
  rw [← List.length_pos_iff] at occupied ⊢
  rwa [length_canonical_of_kept]

/-! ## Counting nodes -/

/-- The numbers of package, class and method nodes of a tree. -/
def countNodes (tree : HashTree) : TreeStats :=
  let classes := tree.packages.flatMap Node.children
  ⟨tree.packages.length, classes.length, (classes.flatMap Node.children).length⟩

namespace Describes

variable {hash : List UInt8 → Digest} {recipe : Recipe} {hierarchy : Hierarchy} {tree : HashTree}

/-- All class nodes of a tree together stand for the classes that take part. -/
theorem classes (described : Describes hash recipe hierarchy tree) :
    OneEach (IsClassNode hash recipe hierarchy) (recipe.classesOf hierarchy)
      (tree.packages.flatMap Node.children) := by
  have grouped := described.packages.children fun _ _ node => node.classes
  refine grouped.of_perm ?_
  have groups := flatMap_filter_perm ClassInfo.package (recipe.classesOf hierarchy)
    (List.nodup_dedup ((recipe.classesOf hierarchy).map ClassInfo.package))
  have all : (recipe.classesOf hierarchy).filter (fun info =>
      (recipe.packagesOf hierarchy).contains info.package) = recipe.classesOf hierarchy := by
    apply List.filter_eq_self.mpr
    intro info member
    rw [List.contains_iff_mem]
    exact List.mem_dedup.mpr (List.mem_map_of_mem member)
  rw [← Recipe.packagesOf, all] at groups
  exact groups.symm

/-- The counts of a tree are those of its nodes. -/
theorem stats_eq_countNodes (described : Describes hash recipe hierarchy tree) :
    tree.stats = countNodes tree := by
  have packages := described.packages.length_eq
  have classes := described.classes.length_eq
  have methods := described.classes.length_children fun _ _ node => node.methods.length_eq
  rw [described.stats, countNodes, packages, classes, methods]

end Describes

/-! ## Building what is described -/

section Build

variable (hash : List UInt8 → Digest) {recipe : Recipe} (keepsDups : recipe.filterDups = false)
  (hierarchy : Hierarchy)
include keepsDups

/-- A class that takes part gets its node. -/
theorem isClassNode_entry {info : ClassInfo} (admits : recipe.AdmitsClass info) :
    IsClassNode hash recipe hierarchy info
      (entry hash ⟨recipe, .trace⟩ hierarchy info).node := by
  let nodes := (recipe.methodsOf info).map (methodNode hash ⟨recipe, .trace⟩ hierarchy info)
  have shape : (entry hash ⟨recipe, .trace⟩ hierarchy info).node =
      .mk (Node.combined hash (Node.canonical false nodes)) (.class (some info.name))
        (Node.canonical false nodes) := by
    rw [Node.combined_eq, Node.map_digest_canonical, map_digest_methodNode]
    simp only [entry, classDigest, methodDigests, keepsDups, admitted_eq_methodsOf]
    rfl
  have occupied : nodes ≠ [] := by
    obtain ⟨method, member, admitsMethod⟩ := admits.method
    apply List.ne_nil_of_mem
    apply List.mem_map_of_mem
    exact List.mem_filter.mpr ⟨member, decide_eq_true admitsMethod⟩
  rw [shape]
  refine ⟨rfl, ?_, isCombined_canonical hash _ nodes, canonical_ne_nil occupied⟩
  apply oneEach_canonical
  intro method _
  exact ⟨rfl, rfl, rfl⟩

/-- A package with a class that takes part gets its node. -/
theorem isPackageNode_packageNode {package : String}
    (member : package ∈ recipe.packagesOf hierarchy) :
    IsPackageNode hash recipe hierarchy package
      (packageNode hash ⟨recipe, .trace⟩
        ((recipe.classesOf hierarchy).map (entry hash ⟨recipe, .trace⟩ hierarchy)) package) := by
  let classes := (recipe.classesOf hierarchy).filter (·.package == package)
  let nodes := classes.map fun info => (entry hash ⟨recipe, .trace⟩ hierarchy info).node
  have shape : packageNode hash ⟨recipe, .trace⟩
      ((recipe.classesOf hierarchy).map (entry hash ⟨recipe, .trace⟩ hierarchy)) package =
      .mk (Node.combined hash (Node.canonical false nodes)) (.package (some package))
        (Node.canonical false nodes) := by
    simp only [packageNode, map_node_filter_entries, keepsDups]
    rfl
  have occupied : nodes ≠ [] := by
    obtain ⟨info, infoMem, rfl⟩ := List.mem_map.mp (List.mem_dedup.mp member)
    apply List.ne_nil_of_mem
    apply List.mem_map_of_mem
    exact List.mem_filter.mpr ⟨infoMem, beq_self_eq_true _⟩
  rw [shape]
  refine ⟨rfl, ?_, isCombined_canonical hash _ nodes, canonical_ne_nil occupied⟩
  apply oneEach_canonical
  intro info infoMem
  have admits := of_decide_eq_true (List.mem_filter.mp (List.mem_filter.mp infoMem).1).2
  exact isClassNode_entry hash keepsDups hierarchy admits

/-- The tree with everything kept is described by what takes part. -/
theorem describes_buildFrom :
    Describes hash recipe hierarchy
      (buildFrom hash ⟨recipe, .trace⟩ hierarchy hierarchy.appClasses) := by
  let names := (recipe.classesOf hierarchy).map ClassInfo.package
  let nodes := (Text.sortDistinct names).map (packageNode hash ⟨recipe, .trace⟩
    ((recipe.classesOf hierarchy).map (entry hash ⟨recipe, .trace⟩ hierarchy)))
  have perm : (recipe.packagesOf hierarchy).Perm (Text.sortDistinct names) := by
    apply (List.perm_ext_iff_of_nodup (List.nodup_dedup _) (Text.nodup_sortDistinct _)).mpr
    intro package
    rw [Text.mem_sortDistinct]
    exact List.mem_dedup
  have left := survivors_appClasses recipe hierarchy
  have shape : packageNodes hash ⟨recipe, .trace⟩ hierarchy hierarchy.appClasses =
      Node.canonical false nodes := by
    simp only [packageNodes, left, survivors_eq_classesOf, keepsDups]
    rfl
  rw [buildFrom_eq, shape]
  refine ⟨rfl, ?_, isCombined_canonical hash _ nodes, ?_⟩
  · refine OneEach.of_perm (oneEach_canonical ?_) perm
    intro package member
    exact isPackageNode_packageNode hash keepsDups hierarchy (perm.mem_iff.mpr member)
  · simp only [left, survivors_eq_classesOf, methodDigests, keepsDups, admitted_eq_methodsOf]
    have methods (info : ClassInfo) :
        (Digest.canonical false
            ((recipe.methodsOf info).map (methodDigest hash hierarchy info))).length =
          (recipe.methodsOf info).length := by
      rw [Digest.canonical, if_neg Bool.false_ne_true, List.length_mergeSort, List.length_map]
    simp only [methods, length_canonical_of_kept, nodes, List.length_map, perm.length_eq]

end Build

/-- The tree with everything kept, under any recipe that keeps siblings of equal digest, is
described by what takes part, and it counts its nodes. -/
theorem describes_build {recipe : Recipe} (keepsDups : recipe.filterDups = false)
    (hierarchy : Hierarchy) :
    Describes recipe.algorithm.digest recipe hierarchy (build ⟨recipe, .trace⟩ hierarchy) ∧
      (build ⟨recipe, .trace⟩ hierarchy).stats =
        countNodes (build ⟨recipe, .trace⟩ hierarchy) := by
  have described := describes_buildFrom recipe.algorithm.digest keepsDups hierarchy
  exact ⟨described, described.stats_eq_countNodes⟩

/-- Of two classes of one name both take part, a nested one without visible methods does not. -/
theorem describes_build_twins :
    let get : Method := ⟨"get", .single .isPublic, false, false, [], ⟨"I"⟩⟩
    let bridge : Method := ⟨"get", .single .isPublic, false, true, [], ⟨"La/C"⟩⟩
    let hidden : Method := ⟨"set", .none, false, false, [⟨"I"⟩], ⟨"V"⟩⟩
    let hierarchy := Hierarchy.ofClasses none
      [⟨"a.C", none, true, [get, bridge]⟩, ⟨"a.C$D", none, true, [hidden]⟩,
        ⟨"a.C", none, true, [get]⟩]
      Hierarchy.defaultFramework
    Recipe.standard.filterDups = false ∧
      (build ⟨.standard, .trace⟩ hierarchy).stats = ⟨1, 2, 2⟩ := by
  intro get bridge hidden hierarchy
  have keepsDups : Recipe.standard.filterDups = false := rfl
  obtain ⟨described, -⟩ := describes_build keepsDups hierarchy
  refine ⟨keepsDups, described.stats.trans ?_⟩
  decide +kernel

end HashTree

end LibPrint
