import LibPrint.Proofs.Package.Anchoring
import LibPrint.Proofs.Package.Growth
import Mathlib.Data.List.Nodup
import Mathlib.Data.Set.Basic

/-!
# Finding packages by their names

The packages below the anchor of one tree are looked for below a package of another tree, which is
the anchor itself or has its last segment. They are all there when the nodes agree name by name.
Packages are told by the names of their nodes, and the node at the top has a name too, although no
package is called so: an anchor that ends in this name may be found at the top.
-/

namespace LibPrint

namespace PackageNode

variable {node wanted : PackageNode} {paths : List (List String)}

theorem holdsNames_iff :
    node.holdsNames wanted = true ↔ wanted.children.length ≤ node.children.length ∧
      ∀ child ∈ wanted.children, ∃ other, node.child? child.name = some other ∧
        other.holdsNames child = true := by
  have below (nodes children : List PackageNode) :
      holdsNamesBelow nodes children = true ↔ ∀ child ∈ children, ∃ other,
        nodes.find? (·.name == child.name) = some other ∧ other.holdsNames child = true := by
    induction children with
    | nil => simp [holdsNamesBelow]
    | cons child children ih =>
        rw [holdsNamesBelow, Bool.and_eq_true, ih, List.forall_mem_cons]
        apply and_congr_left
        intro _
        cases nodes.find? (·.name == child.name) with
        | none => simp
        | some other => simp
  obtain ⟨name, classCount, children⟩ := wanted
  rw [holdsNames, Bool.and_eq_true, decide_eq_true_eq, below]
  rfl

/-- All names are there when every path in the wanted subtree can be followed. That there are fewer
children is no reason of its own to fail, since siblings have different names. -/
theorem Records.holdsNames_iff (records : wanted.Records paths) :
    node.holdsNames wanted = true ↔
      ∀ way last, wanted.locate? way = some last → ∃ other, node.locate? way = some other := by
  induction records generalizing node with
  | @mk name classCount children paths classes nodup segments subtrees ih =>
      have records : Records (.mk name classCount children) paths :=
        .mk classes nodup segments subtrees
      rw [PackageNode.holdsNames_iff]
      constructor
      · rintro ⟨-, each⟩ (_ | ⟨segment, way⟩) last found
        · exact ⟨node, rfl⟩
        · obtain ⟨child, first, below⟩ := Option.bind_eq_some_iff.mp found
          obtain ⟨member, rfl⟩ := mem_of_child? first
          obtain ⟨other, otherFirst, holds⟩ := each child member
          obtain ⟨end_, reached⟩ := (ih child member).mp holds way last below
          refine ⟨end_, ?_⟩
          rw [locate?, otherFirst, Option.bind_some, reached]
      · intro follows
        have first (child : PackageNode) (member : child ∈ children) :
            ∃ other, node.child? child.name = some other ∧
              ∀ way, node.locate? (child.name :: way) = other.locate? way := by
          obtain ⟨end_, reached⟩ := follows [child.name] child (records.locate?_cons member [])
          obtain ⟨other, otherFirst, -⟩ := Option.bind_eq_some_iff.mp reached
          refine ⟨other, otherFirst, ?_⟩
          intro way
          rw [locate?, otherFirst, Option.bind_some]
        constructor
        · have named : children.map PackageNode.name ⊆ node.children.map PackageNode.name := by
            intro segment member
            obtain ⟨child, childMem, rfl⟩ := List.mem_map.mp member
            obtain ⟨other, otherFirst, -⟩ := first child childMem
            obtain ⟨otherMem, same⟩ := mem_of_child? otherFirst
            exact same ▸ List.mem_map_of_mem otherMem
          have lengths := (List.subperm_of_subset nodup named).length_le
          rwa [List.length_map, List.length_map] at lengths
        · intro child member
          obtain ⟨other, otherFirst, go⟩ := first child member
          refine ⟨other, otherFirst, (ih child member).mpr ?_⟩
          intro way last found
          rw [← go]
          exact follows (child.name :: way) last ((records.locate?_cons member way).trans found)

end PackageNode

namespace PackageTree

open PackageNode

variable {tree wanted : PackageTree} {packages wantedPackages : List String}

/-! ## Places -/

/-- The paths that lead from a package to those below it. -/
def pathsBelow (tree : PackageTree) (package : String) : Set (List String) :=
  {way | way ≠ [] ∧ ∃ node, tree.root.locate? (Package.segments package ++ way) = some node}

/-- The package holds all packages below the anchor of the wanted tree, and it is that anchor or has
its last segment. -/
structure Offers (tree wanted : PackageTree) (place : String) : Prop where
  named : place = wanted.anchorPackage ∧ tree.contains wanted.anchorPackage = true ∨
    wanted.anchorPackage ≠ "" ∧ place ∈ tree.allPackages ∧
      Package.lastSegment place = Package.lastSegment wanted.anchorPackage
  below : wanted.pathsBelow wanted.anchorPackage ⊆ tree.pathsBelow place

/-- The top holds all packages below an anchor that ends in the name of the node at the top. -/
structure PassesAtTop (tree wanted : PackageTree) : Prop where
  named : Package.lastSegment wanted.anchorPackage = "Root"
  below : wanted.pathsBelow wanted.anchorPackage ⊆ tree.pathsBelow ""

theorem holdsNames_iff_subset (wantedRecords : wanted.root.Records (paths wantedPackages))
    {place wantedPlace : String} {node anchor : PackageNode}
    (found : tree.locate? place = some node)
    (anchored : wanted.locate? wantedPlace = some anchor) :
    node.holdsNames anchor = true ↔ wanted.pathsBelow wantedPlace ⊆ tree.pathsBelow place := by
  rw [(wantedRecords.of_locate? anchored).holdsNames_iff]
  simp only [Set.subset_def, pathsBelow, Set.mem_ofPred_eq, locate?_append_of_some found,
    locate?_append_of_some anchored]
  constructor
  · rintro follows way ⟨occupied, last, reached⟩
    exact ⟨occupied, follows way last reached⟩
  · intro subset way last reached
    by_cases top : way = []
    · exact ⟨node, by rw [top]; rfl⟩
    · exact (subset way ⟨top, last, reached⟩).2

/-- The node of a package is named by its last segment. -/
theorem name_of_locate?_join (records : tree.root.Records (paths packages)) {way : List String}
    {node : PackageNode} (found : tree.root.locate? way = some node) (occupied : way ≠ []) :
    node.name = Package.lastSegment (Package.join way) := by
  rw [Package.lastSegment, Package.segments_join (areSegments_of_node records found)]
  rcases List.eq_nil_or_concat way with rfl | ⟨front, last, rfl⟩
  · exact absurd rfl occupied
  · rw [List.concat_eq_append] at found ⊢
    rw [name_of_locate?_concat found, List.getLastD_concat]

/-! ## The search -/

/-- What is looked for on the walk: a node away from the anchor's own place that has its name and
holds the names below it. -/
def takes (wanted : PackageTree) (anchor : PackageNode) (entry : String × PackageNode) : Bool :=
  entry.2.name == anchor.name && entry.1 != wanted.anchorPackage && entry.2.holdsNames anchor

/-- A package that is offered is there. -/
theorem Offers.exists_locate? {place : String} (offers : Offers tree wanted place)
    (records : tree.root.Records (paths packages)) : ∃ node, tree.locate? place = some node := by
  rcases offers.named with ⟨rfl, there⟩ | ⟨-, listed, -⟩
  · exact Option.isSome_iff_exists.mp there
  · obtain ⟨-, way, node, found, rfl⟩ := (mem_allPackages_iff records).mp listed
    exact ⟨node, locate?_join records found⟩

theorem not_passesAtTop_of_empty (top : wanted.anchorPackage = "") :
    ¬ PassesAtTop tree wanted := by
  intro passes
  have named := passes.named
  rw [top] at named
  exact absurd named (by decide +kernel)

section Search

variable (records : tree.root.Records (paths packages))
  (wantedRecords : wanted.root.Records (paths wantedPackages)) {anchor : PackageNode}
  (anchored : wanted.locate? wanted.anchorPackage = some anchor)

include wantedRecords anchored

theorem name_of_anchor (occupied : wanted.anchorPackage ≠ "") :
    anchor.name = Package.lastSegment wanted.anchorPackage := by
  obtain ⟨way, other, found, spelled⟩ := exists_anchorPath wantedRecords
  have same : other = anchor := by
    rw [spelled, locate?_join wantedRecords found] at anchored
    exact Option.some.inj anchored
  have nonempty : way ≠ [] := by
    rintro rfl
    exact occupied spelled
  rw [← same, name_of_locate?_join wantedRecords found nonempty, spelled]

include records

/-- The anchor's own place is good when the node there holds the names. -/
theorem own_iff_offers :
    (tree.locate? wanted.anchorPackage).any (·.holdsNames anchor) = true ↔
      Offers tree wanted wanted.anchorPackage := by
  constructor
  · intro own
    cases found : tree.locate? wanted.anchorPackage with
    | none => rw [found] at own; cases own
    | some node =>
        rw [found] at own
        refine ⟨.inl ⟨rfl, ?_⟩, (holdsNames_iff_subset wantedRecords found anchored).mp own⟩
        rw [contains, found]
        rfl
  · intro offers
    obtain ⟨node, found⟩ := offers.exists_locate? records
    rw [found]
    exact (holdsNames_iff_subset wantedRecords found anchored).mpr offers.below

omit wantedRecords records in
theorem findByName?_eq :
    tree.findByName? wanted =
      if (tree.locate? wanted.anchorPackage).any (·.holdsNames anchor) then
        some wanted.anchorPackage
      else if wanted.anchorPackage == "" then none
      else (tree.walk.find? (takes wanted anchor)).map (·.1) := by
  rw [findByName?, anchor?, anchored]
  rfl

theorem findByName?_of_offers (offers : Offers tree wanted wanted.anchorPackage) :
    tree.findByName? wanted = some wanted.anchorPackage := by
  rw [findByName?_eq anchored, if_pos ((own_iff_offers records wantedRecords anchored).mpr offers)]

/-- Without a package to start from there is no other place. -/
theorem findByName?_of_empty (elsewhere : ¬ Offers tree wanted wanted.anchorPackage)
    (top : wanted.anchorPackage = "") : tree.findByName? wanted = none := by
  have own := (own_iff_offers records wantedRecords anchored).not.mpr elsewhere
  rw [findByName?_eq anchored, if_neg own, if_pos (beq_iff_eq.mpr top)]

variable (root : tree.root.name = "Root") (occupied : wanted.anchorPackage ≠ "")
  (elsewhere : ¬ Offers tree wanted wanted.anchorPackage)

include root occupied

/-- A node that is met passes when its package is offered, or at the top when the top passes. -/
theorem passes_iff_of_mem_walk {place : String} {node : PackageNode}
    (met : (place, node) ∈ tree.walk) :
    (node.name = anchor.name ∧ node.holdsNames anchor = true) ↔
      if place = "" then PassesAtTop tree wanted else Offers tree wanted place := by
  obtain ⟨way, found, rfl⟩ := (mem_walk_iff records).mp met
  have valid := areSegments_of_node records found
  have holds := holdsNames_iff_subset wantedRecords (locate?_join records found) anchored
  rw [holds, name_of_anchor wantedRecords anchored occupied]
  by_cases top : way = []
  · subst top
    have empty : Package.join [] = "" := rfl
    rw [if_pos empty, empty, ← Option.some.inj found, root]
    exact ⟨fun ⟨named, below⟩ => ⟨named.symm, below⟩, fun ⟨named, below⟩ => ⟨named.symm, below⟩⟩
  · have inside : Package.join way ≠ "" := (Package.join_eq_empty_iff valid).not.mpr top
    have listed : Package.join way ∈ tree.allPackages :=
      (mem_allPackages_iff records).mpr ⟨inside, way, node, found, rfl⟩
    rw [if_neg inside, name_of_locate?_join records found top]
    constructor
    · rintro ⟨named, below⟩
      exact ⟨.inr ⟨occupied, listed, named⟩, below⟩
    · rintro ⟨⟨same, -⟩ | ⟨-, -, named⟩, below⟩
      · exact ⟨by rw [same], below⟩
      · exact ⟨named, below⟩

include elsewhere

/-- Where the anchor's own place is not good, a node met on the walk is taken when it passes. -/
theorem takes_iff_of_mem_walk {place : String} {node : PackageNode}
    (met : (place, node) ∈ tree.walk) :
    takes wanted anchor (place, node) = true ↔
      if place = "" then PassesAtTop tree wanted else Offers tree wanted place := by
  rw [← passes_iff_of_mem_walk records wantedRecords anchored root occupied met, takes]
  simp only [Bool.and_eq_true, beq_iff_eq, bne_iff_ne]
  constructor
  · rintro ⟨⟨named, -⟩, holds⟩
    exact ⟨named, holds⟩
  · rintro ⟨named, holds⟩
    refine ⟨⟨named, ?_⟩, holds⟩
    rintro rfl
    have passes := passes_iff_of_mem_walk records wantedRecords anchored root occupied met
    rw [if_neg occupied] at passes
    exact elsewhere (passes.mp ⟨named, holds⟩)

omit root in
theorem findByName?_eq_find? :
    tree.findByName? wanted = (tree.walk.find? (takes wanted anchor)).map (·.1) := by
  have own := (own_iff_offers records wantedRecords anchored).not.mpr elsewhere
  rw [findByName?_eq anchored, if_neg own, if_neg (beq_iff_eq.not.mpr occupied)]

/-- The top is met first. -/
theorem findByName?_of_passesAtTop (passes : PassesAtTop tree wanted) :
    tree.findByName? wanted = some "" := by
  have start : tree.walk = ("", tree.root) :: tree.walk.tail := by
    rw [walk, walk_eq, List.tail_cons]
  have met : ("", tree.root) ∈ tree.walk := by
    rw [start]
    exact List.mem_cons_self
  have taken : takes wanted anchor ("", tree.root) = true :=
    (takes_iff_of_mem_walk records wantedRecords anchored root occupied elsewhere met).mpr passes
  rw [findByName?_eq_find? records wantedRecords anchored occupied elsewhere, start,
    List.find?_cons_of_pos taken]
  rfl

/-- A place that is found is offered, or it is the top and the top passes. -/
theorem offers_or_passesAtTop_of_findByName? {place : String}
    (found : tree.findByName? wanted = some place) :
    Offers tree wanted place ∨ place = "" ∧ PassesAtTop tree wanted := by
  rw [findByName?_eq_find? records wantedRecords anchored occupied elsewhere] at found
  obtain ⟨⟨place, node⟩, first, rfl⟩ := Option.map_eq_some_iff.mp found
  have passes := (takes_iff_of_mem_walk records wantedRecords anchored root occupied elsewhere
    (List.mem_of_find?_eq_some first)).mp (List.find?_some first)
  by_cases top : place = ""
  · rw [if_pos top] at passes
    exact .inr ⟨top, passes⟩
  · rw [if_neg top] at passes
    exact .inl passes

theorem not_offers_of_findByName? (nowhere : tree.findByName? wanted = none) (place : String) :
    ¬ Offers tree wanted place := by
  intro offers
  rcases offers.named with ⟨rfl, -⟩ | ⟨-, listed, -⟩
  · exact elsewhere offers
  · obtain ⟨inside, way, node, reached, spelled⟩ := (mem_allPackages_iff records).mp listed
    have onWalk : (place, node) ∈ tree.walk := (mem_walk_iff records).mpr ⟨way, reached, spelled⟩
    have taken :=
      takes_iff_of_mem_walk records wantedRecords anchored root occupied elsewhere onWalk
    rw [if_neg inside] at taken
    rw [findByName?_eq_find? records wantedRecords anchored occupied elsewhere,
      Option.map_eq_none_iff] at nowhere
    exact List.find?_eq_none.mp nowhere _ onWalk (taken.mpr offers)

end Search

/-- What a search by name gives. The anchor's own place comes first, every place found is offered,
and nothing is found only where nothing is offered. But an anchor that ends in the name of the top
may be found there, although the top is not offered, and this before any place but its own. -/
theorem findByName?_ofPackages (packages wantedPackages : List String) :
    let tree := ofPackages packages
    let wanted := ofPackages wantedPackages
    (Offers tree wanted wanted.anchorPackage →
      tree.findByName? wanted = some wanted.anchorPackage) ∧
    (¬ Offers tree wanted wanted.anchorPackage → PassesAtTop tree wanted →
      tree.findByName? wanted = some "") ∧
    (∀ place, tree.findByName? wanted = some place →
      Offers tree wanted place ∨ place = "" ∧ PassesAtTop tree wanted) ∧
    (tree.findByName? wanted = none → ∀ place, ¬ Offers tree wanted place) := by
  intro tree wanted
  have records := records_ofPackages packages
  have wantedRecords := records_ofPackages wantedPackages
  have root : tree.root.name = "Root" := by
    rw [root_ofPackages]
    exact name_grow "Root" _
  obtain ⟨anchor, anchored, -⟩ := exists_anchor wantedRecords
  have own := findByName?_of_offers records wantedRecords anchored
  by_cases offers : Offers tree wanted wanted.anchorPackage
  · refine ⟨own, fun elsewhere => absurd offers elsewhere, ?_, ?_⟩
    · intro place found
      rw [own offers] at found
      exact .inl (Option.some.inj found ▸ offers)
    · intro nowhere
      rw [own offers] at nowhere
      cases nowhere
  by_cases top : wanted.anchorPackage = ""
  · have nothing := findByName?_of_empty records wantedRecords anchored offers top
    refine ⟨own, fun _ passes => absurd passes (not_passesAtTop_of_empty top), ?_, ?_⟩
    · intro place found
      rw [nothing] at found
      cases found
    · intro _ place other
      rcases other.named with ⟨rfl, -⟩ | ⟨occupied, -⟩
      · exact offers other
      · exact occupied top
  · exact ⟨own, fun _ => findByName?_of_passesAtTop records wantedRecords anchored root top offers,
      fun _ => offers_or_passesAtTop_of_findByName? records wantedRecords anchored root top offers,
      not_offers_of_findByName? records wantedRecords anchored root top offers⟩

/-- The anchor `com.foo.lib` was moved to `x.y.lib`. -/
theorem findByName?_ofPackages_moved :
    let tree := ofPackages ["x.lib.a", "x.y.lib.b", "x.y.lib.a"]
    let wanted := ofPackages ["com.foo.lib.a", "com.foo.lib.b"]
    tree.findByName? wanted = some "x.y.lib" ∧ Offers tree wanted "x.y.lib" := by
  have found : (ofPackages ["x.lib.a", "x.y.lib.b", "x.y.lib.a"]).findByName?
      (ofPackages ["com.foo.lib.a", "com.foo.lib.b"]) = some "x.y.lib" := by
    cbv
  refine ⟨found, ?_⟩
  rcases (findByName?_ofPackages _ _).2.2.1 _ found with offers | ⟨top, -⟩
  · exact offers
  · exact absurd top (by decide +kernel)

/-- The package `x.Root` has the last segment of the anchor `lib.Root` and all that is below it, but
the top is found. -/
theorem findByName?_eq_top :
    let tree := ofPackages ["b", "x.Root.b"]
    let wanted := ofPackages ["lib.Root", "lib.Root.b"]
    tree.findByName? wanted = some "" ∧ ¬ Offers tree wanted "" ∧ Offers tree wanted "x.Root" := by
  have anchorPackage : (ofPackages ["lib.Root", "lib.Root.b"]).anchorPackage = "lib.Root" := by
    cbv
  have anchored : (ofPackages ["lib.Root", "lib.Root.b"]).locate? "lib.Root" =
      some (.mk "Root" 1 [.mk "b" 1 []]) := by
    cbv
  have reached : (ofPackages ["b", "x.Root.b"]).locate? "x.Root" =
      some (.mk "Root" 0 [.mk "b" 1 []]) := by
    cbv
  refine ⟨?_, ?_, ?_, ?_⟩
  · cbv
  · rintro ⟨⟨empty, -⟩ | ⟨-, listed, -⟩, -⟩
    · rw [anchorPackage] at empty
      exact absurd empty (by decide +kernel)
    · exact ((mem_allPackages_iff (records_ofPackages _)).mp listed).1 rfl
  · right
    rw [anchorPackage]
    refine ⟨by decide +kernel, ?_, by decide +kernel⟩
    exact (mem_allPackages_iff (records_ofPackages _)).mpr
      ⟨by decide +kernel, ["x", "Root"], .mk "Root" 0 [.mk "b" 1 []], by cbv, by decide +kernel⟩
  · rw [anchorPackage]
    exact (holdsNames_iff_subset (records_ofPackages _) reached anchored).mp (by cbv)

end PackageTree

end LibPrint
