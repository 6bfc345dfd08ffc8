import LibPrint.Proofs.HashTree.Content

/-!
# Verboseness only erases

A level of verboseness decides what a tree keeps beside its hashes. Erasing from a tree what a level
does not keep is defined here for any tree, without looking at how it was built, and building at a
level turns out to be building at a higher one and erasing. Labels break ties between siblings
before anything is erased, so the canonical order has to survive the erasing, which it does for one
of two reasons: either the labels stay, or nothing but the digests does.
-/

namespace LibPrint

/-! ## What a level keeps -/

namespace Verboseness

/-- Whether nodes of the given level of a tree are kept. -/
def keepsNodes (verboseness : Verboseness) : Level → Bool
  | .root | .package => true
  | .class => verboseness.keepsClassNodes
  | .method => verboseness.keepsMethodNodes

variable {lower upper : Verboseness}

/-- What is kept from some level on is kept at every higher one. -/
theorem keeps_of_le {least : Verboseness} (below : lower.rank ≤ upper.rank)
    (keeps : decide (least.rank ≤ lower.rank) = true) :
    decide (least.rank ≤ upper.rank) = true := by
  rw [decide_eq_true_eq] at keeps ⊢
  exact Nat.le_trans keeps below

/-- No level is above the most verbose one. -/
theorem rank_le_trace (level : Verboseness) : level.rank ≤ trace.rank := by
  cases level <;> decide

/-- Without the names of packages no classes are kept. -/
theorem keepsClassNodes_of_not (hidden : lower.keepsPackageNames = false) :
    lower.keepsClassNodes = false := by
  cases lower with
  | terse => rfl
  | minimal | normal | debug | trace => cases hidden

/-- Without the names of classes no methods are kept. -/
theorem keepsMethodNodes_of_not (hidden : lower.keepsClassNames = false) :
    lower.keepsMethodNodes = false := by
  cases lower with
  | terse | minimal | normal => rfl
  | debug | trace => cases hidden

end Verboseness

/-! ## Erasing -/

/-- The kind of a node with its label if that is kept. -/
def NodeKind.erase (verboseness : Verboseness) : NodeKind → NodeKind
  | .root => .root
  | .package name => .package (if verboseness.keepsPackageNames then name else none)
  | .class name => .class (if verboseness.keepsClassNames then name else none)
  | .method signature => .method (if verboseness.keepsMethodNodes then signature else none)

namespace Node

mutual

/-- The node with its label and the nodes below it as far as they are kept. -/
def erase (verboseness : Verboseness) : Node → Node
  | mk digest kind children => mk digest (kind.erase verboseness) (eraseAll verboseness children)

def eraseAll (verboseness : Verboseness) : List Node → List Node
  | [] => []
  | node :: nodes =>
      if verboseness.keepsNodes node.level then
        erase verboseness node :: eraseAll verboseness nodes
      else eraseAll verboseness nodes

end

variable (verboseness : Verboseness)

@[simp] theorem digest_erase (node : Node) : (node.erase verboseness).digest = node.digest := by
  cases node
  rfl

/-- A package keeps its name where names are kept. -/
@[simp] theorem packageName?_erase (node : Node) :
    (node.erase verboseness).packageName? =
      if verboseness.keepsPackageNames then node.packageName? else none := by
  obtain ⟨digest, kind, children⟩ := node
  cases kind with
  | package name => rfl
  | root | «class» | method => simp [packageName?, erase, kind, NodeKind.erase]

theorem combined_map_erase (hash : List UInt8 → Digest) (nodes : List Node) :
    combined hash (nodes.map (erase verboseness)) = combined hash nodes := by
  rw [combined_eq, combined_eq, List.map_map]
  congr 1
  apply List.map_congr_left
  intro node _
  exact digest_erase verboseness node

/-- Nodes of one level are kept all or not at all. -/
theorem eraseAll_of_level {nodes : List Node} {level : Level} (kept : Bool)
    (uniform : ∀ node ∈ nodes, node.level = level)
    (keeps : verboseness.keepsNodes level = kept) :
    eraseAll verboseness nodes = if kept then nodes.map (erase verboseness) else [] := by
  induction nodes with
  | nil => cases kept <;> rfl
  | cons node nodes ih =>
      have rest := ih fun other member => uniform other (List.mem_cons_of_mem node member)
      rw [eraseAll, uniform node List.mem_cons_self, keeps, rest]
      cases kept <;> rfl

/-- It does not matter if nodes were left out before that are not kept anyway. -/
theorem eraseAll_of_shown {nodes : List Node} {level : Level} (kept shown : Bool)
    (uniform : ∀ node ∈ nodes, node.level = level)
    (keeps : verboseness.keepsNodes level = kept) (implied : kept = true → shown = true) :
    eraseAll verboseness (if shown then nodes else []) =
      if kept then nodes.map (erase verboseness) else [] := by
  cases shown with
  | true => exact eraseAll_of_level verboseness kept uniform keeps
  | false =>
      cases kept with
      | false => rfl
      | true => cases implied rfl

/-- Erasing keeps the canonical order when labels stay, or when nothing but digests does. -/
theorem map_erase_canonical (filterDups : Bool) {nodes : List Node}
    (settled : (∀ node ∈ nodes, (node.erase verboseness).label = node.label) ∨
      ∃ kind, ∀ node ∈ nodes, node.erase verboseness = .mk node.digest kind []) :
    (canonical filterDups nodes).map (erase verboseness) =
      canonical filterDups (nodes.map (erase verboseness)) := by
  rcases settled with labels | ⟨kind, bare⟩
  · exact map_canonical_of_label filterDups _ nodes (fun node _ => digest_erase verboseness node)
      labels
  · exact map_canonical_of_digest filterDups _ nodes (fun digest => .mk digest kind [])
      (fun _ => rfl) bare

end Node

namespace HashTree

/-- The tree as a level of verboseness keeps it. -/
def erase (verboseness : Verboseness) (tree : HashTree) : HashTree :=
  ⟨{ tree.config with verboseness := verboseness }, tree.root.erase verboseness, tree.stats⟩

/-! ## Building at two levels -/

section Build

variable (hash : List UInt8 → Digest) (recipe : Recipe) {lower upper : Verboseness}
  (below : lower.rank ≤ upper.rank) (hierarchy : Hierarchy)
include below

theorem erase_methodNode (info : ClassInfo) (method : Method) :
    (methodNode hash ⟨recipe, upper⟩ hierarchy info method).erase lower =
      methodNode hash ⟨recipe, lower⟩ hierarchy info method := by
  simp only [methodNode, Node.erase, NodeKind.erase, Node.eraseAll]
  cases keeps : lower.keepsMethodNodes with
  | false => rfl
  | true =>
      have also : upper.keepsMethodNodes = true := Verboseness.keeps_of_le below keeps
      rw [also]
      rfl

/-- The nodes of a class's methods when they are kept. -/
theorem map_erase_methodNodes (keeps : lower.keepsMethodNodes = true) (info : ClassInfo)
    (methods : List Method) :
    (Node.canonical recipe.filterDups
        (methods.map (methodNode hash ⟨recipe, upper⟩ hierarchy info))).map (Node.erase lower) =
      Node.canonical recipe.filterDups
        (methods.map (methodNode hash ⟨recipe, lower⟩ hierarchy info)) := by
  have also : upper.keepsMethodNodes = true := Verboseness.keeps_of_le below keeps
  rw [Node.map_erase_canonical, List.map_map]
  · congr 1
    apply List.map_congr_left
    intro method _
    exact erase_methodNode hash recipe below hierarchy info method
  · left
    intro node member
    obtain ⟨method, _, rfl⟩ := List.mem_map.mp member
    rw [erase_methodNode hash recipe below hierarchy info method]
    simp only [methodNode, Node.label, Node.kind, keeps, also]

/-- A class contributes at a level what is left of its contribution to a higher one. -/
theorem erase_entry (info : ClassInfo) :
    (entry hash ⟨recipe, upper⟩ hierarchy info).node.erase lower =
      (entry hash ⟨recipe, lower⟩ hierarchy info).node := by
  have uniform : ∀ node ∈ Node.canonical recipe.filterDups
      ((admitted recipe info).map (methodNode hash ⟨recipe, upper⟩ hierarchy info)),
      node.level = .method := by
    intro node member
    obtain ⟨method, _, rfl⟩ := List.mem_map.mp (Node.mem_of_mem_canonical member)
    rfl
  have methods := Node.eraseAll_of_shown lower lower.keepsMethodNodes upper.keepsMethodNodes
    uniform rfl (Verboseness.keeps_of_le below)
  simp only [entry, Node.erase, NodeKind.erase, methods]
  congr 1
  · cases keeps : lower.keepsClassNames with
    | false => rfl
    | true =>
        have also : upper.keepsClassNames = true := Verboseness.keeps_of_le below keeps
        rw [also]
        rfl
  · cases keeps : lower.keepsMethodNodes with
    | false => rfl
    | true => exact map_erase_methodNodes hash recipe below hierarchy keeps info _

/-- The nodes of classes when they are kept. -/
theorem map_erase_classNodes (classes : List ClassInfo) :
    (Node.canonical recipe.filterDups
        (classes.map fun info => (entry hash ⟨recipe, upper⟩ hierarchy info).node)).map
          (Node.erase lower) =
      Node.canonical recipe.filterDups
        (classes.map fun info => (entry hash ⟨recipe, lower⟩ hierarchy info).node) := by
  rw [Node.map_erase_canonical, List.map_map]
  · congr 1
    apply List.map_congr_left
    intro info _
    exact erase_entry hash recipe below hierarchy info
  · cases keeps : lower.keepsClassNames with
    | true =>
        have also : upper.keepsClassNames = true := Verboseness.keeps_of_le below keeps
        left
        intro node member
        obtain ⟨info, _, rfl⟩ := List.mem_map.mp member
        rw [erase_entry hash recipe below hierarchy info]
        simp only [entry, Node.label, Node.kind, keeps, also]
    | false =>
        right
        refine ⟨.class none, ?_⟩
        intro node member
        obtain ⟨info, _, rfl⟩ := List.mem_map.mp member
        rw [erase_entry hash recipe below hierarchy info]
        simp only [entry, Node.digest, keeps, Verboseness.keepsMethodNodes_of_not keeps]
        rfl

/-- A package with its classes at a level is what is left of it at a higher one. -/
theorem erase_packageNode (classes : List ClassInfo) (package : String) :
    (packageNode hash ⟨recipe, upper⟩
        (classes.map (entry hash ⟨recipe, upper⟩ hierarchy)) package).erase lower =
      packageNode hash ⟨recipe, lower⟩
        (classes.map (entry hash ⟨recipe, lower⟩ hierarchy)) package := by
  have uniform : ∀ node ∈ Node.canonical recipe.filterDups
      ((classes.filter (·.package == package)).map fun info =>
        (entry hash ⟨recipe, upper⟩ hierarchy info).node), node.level = .class := by
    intro node member
    obtain ⟨info, _, rfl⟩ := List.mem_map.mp (Node.mem_of_mem_canonical member)
    rfl
  have kept := Node.eraseAll_of_shown lower lower.keepsClassNodes upper.keepsClassNodes
    uniform rfl (Verboseness.keeps_of_le below)
  have nodes := map_erase_classNodes hash recipe below hierarchy
    (classes.filter (·.package == package))
  simp only [packageNode, map_node_filter_entries, Node.erase, NodeKind.erase, kept]
  rw [← nodes, Node.combined_map_erase]
  congr 1
  cases keeps : lower.keepsPackageNames with
  | false => rfl
  | true =>
      have also : upper.keepsPackageNames = true := Verboseness.keeps_of_le below keeps
      rw [also]
      rfl

theorem map_erase_packageNodes (classes : List ClassInfo) :
    (packageNodes hash ⟨recipe, upper⟩ hierarchy classes).map (Node.erase lower) =
      packageNodes hash ⟨recipe, lower⟩ hierarchy classes := by
  rw [packageNodes, packageNodes, Node.map_erase_canonical, List.map_map]
  · congr 1
    apply List.map_congr_left
    intro package _
    exact erase_packageNode hash recipe below hierarchy _ package
  · cases keeps : lower.keepsPackageNames with
    | true =>
        have also : upper.keepsPackageNames = true := Verboseness.keeps_of_le below keeps
        left
        intro node member
        obtain ⟨package, _, rfl⟩ := List.mem_map.mp member
        rw [erase_packageNode hash recipe below hierarchy _ package]
        simp only [packageNode, Node.label, Node.kind, keeps, also]
    | false =>
        right
        refine ⟨.package none, ?_⟩
        intro node member
        obtain ⟨package, _, rfl⟩ := List.mem_map.mp member
        rw [← Node.digest_erase lower, erase_packageNode hash recipe below hierarchy _ package]
        simp only [packageNode, Node.digest, keeps, Verboseness.keepsClassNodes_of_not keeps]
        rfl

/-- Building at a level is building at a higher one and erasing, whatever the digest function and
the classes are. -/
theorem buildFrom_eq_erase (classes : List ClassInfo) :
    buildFrom hash ⟨recipe, lower⟩ hierarchy classes =
      (buildFrom hash ⟨recipe, upper⟩ hierarchy classes).erase lower := by
  have packages := map_erase_packageNodes hash recipe below hierarchy classes
  have kept := Node.eraseAll_of_level lower true
    (fun _ => level_of_mem_packageNodes hash ⟨recipe, upper⟩ hierarchy classes) rfl
  rw [if_pos rfl, packages] at kept
  rw [buildFrom_eq, buildFrom_eq, erase, Node.erase, kept, ← packages, Node.combined_map_erase,
    List.length_map]
  rfl

/-- The packages of a tree at a level are those at a higher one with less in them. -/
theorem packages_buildFrom_erase (classes : List ClassInfo) :
    (buildFrom hash ⟨recipe, lower⟩ hierarchy classes).packages =
      (buildFrom hash ⟨recipe, upper⟩ hierarchy classes).packages.map (Node.erase lower) := by
  rw [packages_buildFrom, packages_buildFrom, map_erase_packageNodes hash recipe below hierarchy]

theorem sameHashes_of_verboseness (classes : List ClassInfo) :
    SameHashes (buildFrom hash ⟨recipe, lower⟩ hierarchy classes)
      (buildFrom hash ⟨recipe, upper⟩ hierarchy classes) := by
  constructor
  · rw [buildFrom_eq_erase hash recipe below]
    exact Node.digest_erase lower _
  · rw [buildFrom_eq_erase hash recipe below]
    rfl
  · rw [map_digest_packages_buildFrom, map_digest_packages_buildFrom]

/-- The tree at a level is the tree at any higher one with what the level does not keep erased, so
all hashes and counts are the same. -/
theorem build_eq_erase :
    build ⟨recipe, lower⟩ hierarchy = (build ⟨recipe, upper⟩ hierarchy).erase lower ∧
      SameHashes (build ⟨recipe, lower⟩ hierarchy) (build ⟨recipe, upper⟩ hierarchy) :=
  ⟨buildFrom_eq_erase _ recipe below hierarchy _,
    sameHashes_of_verboseness _ recipe below hierarchy _⟩

end Build

/-- The hashes of a tree do not depend on how verbose it is. -/
theorem digests_build_of_verboseness (recipe : Recipe) (hierarchy : Hierarchy)
    (level other : Verboseness) :
    (build ⟨recipe, level⟩ hierarchy).packages.map Node.digest =
      (build ⟨recipe, other⟩ hierarchy).packages.map Node.digest := by
  rw [build, build, map_digest_packages_buildFrom, map_digest_packages_buildFrom]

/-- Two records of one class and a class of the same methods are tied at the lower level, and only
partly at the higher one. -/
theorem build_eq_erase_tie :
    let get : Method := ⟨"get", .single .isPublic, false, false, [], ⟨"I"⟩⟩
    let put : Method := ⟨"put", .single .isPublic, false, false, [], ⟨"I"⟩⟩
    let hierarchy := Hierarchy.ofClasses none
      [⟨"a.C", none, true, [get]⟩, ⟨"a.B", none, true, [put]⟩, ⟨"a.C", none, true, [put]⟩]
      Hierarchy.defaultFramework
    let recipe : Recipe := { Recipe.standard with filterDups := true }
    Verboseness.normal.rank ≤ Verboseness.trace.rank ∧
      build ⟨recipe, .normal⟩ hierarchy = (build ⟨recipe, .trace⟩ hierarchy).erase .normal := by
  intro get put hierarchy recipe
  have below : Verboseness.normal.rank ≤ Verboseness.trace.rank := by decide
  exact ⟨below, (build_eq_erase recipe below hierarchy).1⟩

end HashTree

end LibPrint
