import LibPrint.Proofs.Code.Descriptor
import LibPrint.Proofs.HashTree.Content

/-!
# Trees do not depend on the order of a dump

Front ends list classes and methods in any order. With distinct class names the whole tree is the
same for every order: ties between siblings are always between equal nodes, since a label either
tells the siblings apart or is not kept for any of them.
-/

namespace LibPrint

/-- Two records of a class that list its methods in different orders. -/
structure ClassInfo.Reordered (info other : ClassInfo) : Prop where
  name : info.name = other.name
  superclass : info.superclass = other.superclass
  isApp : info.isApp = other.isApp
  methods : info.methods.Perm other.methods

/-- Two hierarchies that list the same classes in different orders, each class perhaps with its
methods in another order. -/
structure Hierarchy.Reordered (left right : Hierarchy) : Prop where
  framework : left.framework = right.framework
  classes : ∃ listed, List.Forall₂ ClassInfo.Reordered left.classes listed ∧
    listed.Perm right.classes

/-! ## Descriptors -/

namespace Hierarchy.Reordered

variable {left right : Hierarchy}

theorem distinct (reordered : left.Reordered right) (distinct : left.Distinct) :
    right.Distinct := by
  obtain ⟨listed, paired, perm⟩ := reordered.classes
  have names : left.classes.map ClassInfo.name = listed.map ClassInfo.name :=
    map_eq_map_of_forall₂ paired fun _ _ same => same.name
  rw [Hierarchy.Distinct, names] at distinct
  exact (perm.map ClassInfo.name).nodup_iff.mp distinct

/-- A look-up finds the same class, its methods perhaps in another order. -/
theorem lookup? (reordered : left.Reordered right) (distinct : left.Distinct) (name : String) :
    Option.Rel ClassInfo.Reordered (left.lookup? name) (right.lookup? name) := by
  obtain ⟨listed, paired, perm⟩ := reordered.classes
  cases found : left.lookup? name with
  | none =>
      have absent : right.lookup? name = none := by
        rw [lookup?_eq_none_iff] at found ⊢
        intro other otherMem
        obtain ⟨info, infoMem, same⟩ :=
          exists_mem_left_of_forall₂ paired (perm.mem_iff.mpr otherMem)
        rw [← same.name]
        exact found info infoMem
      rw [absent]
      exact .none
  | some info =>
      obtain ⟨infoMem, rfl⟩ := mem_of_lookup? found
      obtain ⟨other, otherMem, same⟩ := exists_mem_right_of_forall₂ paired infoMem
      rw [same.name, (reordered.distinct distinct).lookup?_name (perm.mem_iff.mp otherMem)]
      exact .some same

theorem isInternal (reordered : left.Reordered right) (distinct : left.Distinct)
    (type : TypeRef) : left.isInternal type = right.isInternal type := by
  cases named : type.className? with
  | none => simp only [Hierarchy.isInternal, named]
  | some name =>
      have known := map_eq_map_of_rel (reordered.lookup? distinct name)
        fun _ _ same => same.isApp
      have framework : left.isFramework name = right.isFramework name := by
        rw [isFramework, isFramework, reordered.framework]
      rw [isInternal_of_className named, isInternal_of_className named, known, framework]

theorem superclass (reordered : left.Reordered right) (distinct : left.Distinct)
    (name : String) :
    (left.lookup? name).bind (·.superclass) = (right.lookup? name).bind (·.superclass) :=
  bind_eq_bind_of_rel (reordered.lookup? distinct name) fun _ _ same => same.superclass

theorem fuzzyDescriptor (reordered : left.Reordered right) (distinct : left.Distinct)
    {info other : ClassInfo} (name : info.name = other.name) (method : Method) :
    left.fuzzyDescriptor info method = right.fuzzyDescriptor other method := by
  have render : left.render = right.render := by
    funext type
    rw [Hierarchy.render, Hierarchy.render, reordered.isInternal distinct]
  have nested : info.isNestedAnonymous = other.isNestedAnonymous := by
    simp only [ClassInfo.isNestedAnonymous, ClassInfo.nesting, name]
  have anonymous : info.isAnonymous = other.isAnonymous := by
    simp only [ClassInfo.isAnonymous, ClassInfo.nesting, name]
  have enclosing : info.enclosing? = other.enclosing? := by
    rw [ClassInfo.enclosing?, ClassInfo.enclosing?, ClassInfo.isInner, ClassInfo.isInner, name]
  have passes (first second : TypeRef) :
      left.passesSuperclass info first second = right.passesSuperclass other first second := by
    rw [Bool.eq_iff_iff, passesSuperclass_iff, passesSuperclass_iff]
    simp only [anonymous, enclosing, reordered.isInternal distinct,
      reordered.superclass distinct]
  simp only [fuzzyDescriptor_eq_descriptorOf, elides, render, nested, passes]

end Hierarchy.Reordered

/-! ## Trees -/

namespace HashTree

variable (hash : List UInt8 → Digest) (config : TreeConfig)

/-- The tree over the given entries, each a class that is left. -/
def ofEntries (entries : List ClassEntry) : HashTree :=
  let names := Text.sortDistinct (entries.map (·.package))
  let packages := Node.canonical config.recipe.filterDups
    (names.map (packageNode hash config entries))
  ⟨config, .mk (Node.combined hash packages) .root packages,
    ⟨packages.length, entries.length, total (entries.map (·.methods))⟩⟩

theorem buildFrom_eq_ofEntries (hierarchy : Hierarchy) (classes : List ClassInfo) :
    buildFrom hash config hierarchy classes =
      ofEntries hash config (classes.filterMap (entryOf? hash config hierarchy)) := rfl

/-- The order of the entries does not matter when tied class nodes are equal. -/
theorem ofEntries_eq_of_perm {left right : List ClassEntry} (perm : left.Perm right)
    (ties : ∀ first ∈ left, ∀ second ∈ left, first.node.digest = second.node.digest →
      first.node.label = second.node.label → first.node = second.node) :
    ofEntries hash config left = ofEntries hash config right := by
  have names : Text.sortDistinct (left.map (·.package)) =
      Text.sortDistinct (right.map (·.package)) :=
    Text.sortDistinct_eq_of_perm (perm.map _)
  have nodes (package : String) :
      packageNode hash config left package = packageNode hash config right package := by
    have members := (perm.filter (·.package == package)).map (·.node)
    have classes := Node.canonical_eq_of_perm config.recipe.filterDups members (by
      intro first firstMem second secondMem digest label
      obtain ⟨entry, entryMem, rfl⟩ := List.mem_map.mp firstMem
      obtain ⟨other, otherMem, rfl⟩ := List.mem_map.mp secondMem
      exact ties entry (List.mem_filter.mp entryMem).1 other (List.mem_filter.mp otherMem).1
        digest label)
    simp only [packageNode, classes]
  have methods : total (left.map (·.methods)) = total (right.map (·.methods)) :=
    (perm.map _).sum_eq
  have sameNodes : packageNode hash config left = packageNode hash config right := funext nodes
  simp only [ofEntries, names, sameNodes, perm.length_eq, methods]

variable {hash config} {left right : Hierarchy}

/-- A class contributes the same whatever the order of classes and of its methods is. -/
theorem entryOf?_eq_of_reordered (reordered : left.Reordered right) (distinct : left.Distinct)
    {info other : ClassInfo} (same : info.Reordered other) :
    entryOf? hash config left info = entryOf? hash config right other := by
  have kept := same.methods.filter (admitsMethod config)
  have nodes (method : Method) :
      methodNode hash config left info method = methodNode hash config right other method := by
    simp only [methodNode, ClassInfo.signature, same.name,
      reordered.fuzzyDescriptor distinct same.name]
  have admitted : admits config info = admits config other := by
    simp only [admits, ClassInfo.isFingerprintable, ClassInfo.isResource, ClassInfo.simpleName,
      ClassInfo.isInner, same.name, same.isApp]
  have ordered := Node.canonical_eq_of_perm config.recipe.filterDups
    (kept.map (methodNode hash config left info)) (by
      intro first firstMem second secondMem digest label
      obtain ⟨method, _, rfl⟩ := List.mem_map.mp firstMem
      obtain ⟨twin, _, rfl⟩ := List.mem_map.mp secondMem
      simp only [methodNode, Node.digest, Node.label, Node.kind, NodeKind.label] at digest label ⊢
      rw [digest, label])
  have sameNode : methodNode hash config left info = methodNode hash config right other :=
    funext nodes
  rw [sameNode] at ordered
  simp only [entryOf?, admitted, kept.isEmpty_eq, ClassInfo.package, same.name, sameNode, ordered]

/-- Reordered hierarchies contribute the same entries, in some order. -/
theorem entries_perm (reordered : left.Reordered right) (distinct : left.Distinct) :
    (left.appClasses.filterMap (entryOf? hash config left)).Perm
      (right.appClasses.filterMap (entryOf? hash config right)) := by
  obtain ⟨listed, paired, perm⟩ := reordered.classes
  rw [filterMap_entryOf?_appClasses, filterMap_entryOf?_appClasses]
  have mapped : left.classes.map (entryOf? hash config left) =
      listed.map (entryOf? hash config right) :=
    map_eq_map_of_forall₂ paired fun _ _ same => entryOf?_eq_of_reordered reordered distinct same
  have same : left.classes.filterMap (entryOf? hash config left) =
      listed.filterMap (entryOf? hash config right) := by
    have kept := congrArg (List.filterMap id) mapped
    rwa [List.filterMap_map, List.filterMap_map] at kept
  rw [same]
  exact perm.filterMap _

/-- Class nodes of a tree that are tied are equal when class names are distinct. -/
theorem node_eq_of_tie {hierarchy : Hierarchy} (distinct : hierarchy.Distinct)
    {info other : ClassInfo} (infoMem : info ∈ hierarchy.classes)
    (otherMem : other ∈ hierarchy.classes)
    (digest : (entry hash config hierarchy info).node.digest =
      (entry hash config hierarchy other).node.digest)
    (label : (entry hash config hierarchy info).node.label =
      (entry hash config hierarchy other).node.label) :
    (entry hash config hierarchy info).node = (entry hash config hierarchy other).node := by
  simp only [entry, Node.digest, Node.label, Node.kind, NodeKind.label] at digest label ⊢
  cases names : config.verboseness.keepsClassNames with
  | true =>
      simp only [names, if_true, Option.some.injEq] at label
      rw [distinct.eq_of_name infoMem otherMem label]
  | false =>
      have methods : config.verboseness.keepsMethodNodes = false := by
        cases level : config.verboseness <;> simp_all [Verboseness.keepsClassNames,
          Verboseness.keepsMethodNodes, Verboseness.rank]
      simp [methods, digest]

theorem buildFrom_eq_of_reordered (reordered : left.Reordered right) (distinct : left.Distinct)
    (hash : List UInt8 → Digest) (config : TreeConfig) :
    buildFrom hash config left left.appClasses = buildFrom hash config right right.appClasses := by
  rw [buildFrom_eq_ofEntries, buildFrom_eq_ofEntries]
  apply ofEntries_eq_of_perm
  · exact entries_perm reordered distinct
  · intro first firstMem second secondMem digest label
    rw [filterMap_entryOf?, List.mem_map] at firstMem secondMem
    obtain ⟨info, infoMem, rfl⟩ := firstMem
    obtain ⟨other, otherMem, rfl⟩ := secondMem
    rw [survivors_appClasses, mem_survivors] at infoMem otherMem
    exact node_eq_of_tie distinct infoMem.1 otherMem.1 digest label

/-- The order of classes and of the methods inside a class does not matter for a tree, whatever
the digest function and the configuration are. -/
theorem build_eq_of_reordered (reordered : left.Reordered right) (distinct : left.Distinct) :
    (∀ hash : List UInt8 → Digest,
      buildFrom hash config left left.appClasses =
        buildFrom hash config right right.appClasses) ∧
    build config left = build config right := by
  have sameTree (hash : List UInt8 → Digest) :=
    buildFrom_eq_of_reordered reordered distinct hash config
  exact ⟨sameTree, sameTree _⟩

/-- Two classes with the same methods are tied; swapping them and their methods changes nothing. -/
theorem build_eq_of_reordered_tie :
    let get : Method := ⟨"get", .single .isPublic, false, false, [], ⟨"I"⟩⟩
    let set : Method := ⟨"set", .single .isPublic, false, false, [⟨"La/C"⟩], ⟨"V"⟩⟩
    let left := Hierarchy.ofClasses none
      [⟨"a.B", none, true, [get, set]⟩, ⟨"a.C", none, true, [get, set]⟩]
      Hierarchy.defaultFramework
    let right := Hierarchy.ofClasses none
      [⟨"a.C", none, true, [set, get]⟩, ⟨"a.B", none, true, [get, set]⟩]
      Hierarchy.defaultFramework
    left.Reordered right ∧ left.Distinct ∧
      build ⟨{ Recipe.standard with filterDups := true }, .trace⟩ left =
        build ⟨{ Recipe.standard with filterDups := true }, .trace⟩ right := by
  intro get set left right
  have reordered : left.Reordered right := by
    refine ⟨rfl, [⟨"a.B", none, true, [get, set]⟩, ⟨"a.C", none, true, [set, get]⟩], ?_, ?_⟩
    · exact .cons ⟨rfl, rfl, rfl, .refl _⟩ (.cons ⟨rfl, rfl, rfl, .swap _ _ _⟩ .nil)
    · exact .swap _ _ _
  have distinct : left.Distinct := by
    change ["a.B", "a.C"].Nodup
    decide
  exact ⟨reordered, distinct, (build_eq_of_reordered reordered distinct).2⟩

end HashTree

end LibPrint
