import LibPrint.Proofs.Package.Root
import LibPrint.Proofs.Package.Segments
import Mathlib.Data.List.Count

/-!
# Finding the nodes of a package tree

A node is found by following the segments of its name, and all nodes are met on a walk that puts
names together segment by segment. Where the recorded paths are made of segments the two agree:
there is a node at the end of exactly the paths that recorded ones begin with, and its name on the
walk is what these segments spell.
-/

namespace LibPrint

theorem Package.join_eq_empty_iff {list : List String} (valid : AreSegments list) :
    join list = "" ↔ list = [] := by
  have top : AreSegments [] := by nofun
  exact join_inj valid top

theorem PackageTree.areSegments_of_mem_paths {packages : List String} :
    ∀ path ∈ paths packages, Package.AreSegments path := by
  intro path member
  obtain ⟨package, -, rfl⟩ := List.mem_map.mp member
  exact Package.areSegments_segments package

namespace PackageNode

variable {node child last : PackageNode} {paths : List (List String)} {segment name : String}
  {way : List String}

/-! ## Following a path -/

theorem mem_of_child? (found : node.child? segment = some child) :
    child ∈ node.children ∧ child.name = segment := by
  have named := List.find?_some found
  exact ⟨List.mem_of_find?_eq_some found, eq_of_beq named⟩

/-- Siblings have different names, so each is found under its own. -/
theorem Records.child?_eq_some_iff (records : node.Records paths) :
    node.child? segment = some child ↔ child ∈ node.children ∧ child.name = segment := by
  refine ⟨mem_of_child?, ?_⟩
  rintro ⟨member, rfl⟩
  cases found : node.child? child.name with
  | none =>
      have other := List.find?_eq_none.mp found child member
      simp at other
  | some other =>
      obtain ⟨otherMem, named⟩ := mem_of_child? found
      rw [List.inj_on_of_nodup_map records.nodup otherMem member named]

theorem Records.child?_eq_none_iff (records : node.Records paths) :
    node.child? segment = none ↔ ∀ rest, segment :: rest ∉ paths := by
  rw [← not_exists, ← records.mem_names, child?, List.find?_eq_none]
  simp

/-- The node at the end of a path stands for what is left there. -/
theorem Records.of_locate? (records : node.Records paths) (found : node.locate? way = some last) :
    last.Records (PackageTree.restsAlong way paths) := by
  induction way generalizing node paths with
  | nil =>
      obtain rfl := Option.some.inj found
      exact records
  | cons segment way ih =>
      obtain ⟨child, first, below⟩ := Option.bind_eq_some_iff.mp found
      obtain ⟨member, rfl⟩ := mem_of_child? first
      exact ih (records.child member) below

theorem Records.classCount_eq (records : node.Records paths) :
    node.classCount = paths.count [] := by
  obtain ⟨classes, -, -, -⟩ := records
  exact classes

theorem count_rests (segment : String) (rest : List String) (paths : List (List String)) :
    (rests segment paths).count rest = paths.count (segment :: rest) := by
  rw [rests, List.count_filterMap, List.count_eq_countP]
  apply List.countP_congr
  rintro (_ | ⟨first, other⟩) -
  · simp
  · by_cases same : first = segment <;> simp [same]

theorem count_restsAlong (way rest : List String) (paths : List (List String)) :
    (PackageTree.restsAlong way paths).count rest = paths.count (way ++ rest) := by
  induction way generalizing paths with
  | nil => rfl
  | cons segment way ih => exact (ih _).trans (count_rests segment (way ++ rest) paths)

/-- A path leads to a node when it is the start of one that was recorded. -/
theorem Records.exists_locate?_iff (records : node.Records paths) :
    (∃ last, node.locate? way = some last) ↔ way = [] ∨ ∃ rest, way ++ rest ∈ paths := by
  induction way generalizing node paths with
  | nil => simp [locate?]
  | cons segment way ih =>
      rw [locate?]
      cases first : node.child? segment with
      | none => simp [records.child?_eq_none_iff.mp first]
      | some child =>
          obtain ⟨member, rfl⟩ := mem_of_child? first
          have begun := records.mem_names.mp (List.mem_map_of_mem member)
          simp only [Option.bind_some, ih (records.child member), mem_rests, List.cons_append,
            reduceCtorEq, false_or]
          constructor
          · rintro (rfl | more)
            · exact begun
            · exact more
          · exact Or.inr

/-! ## Walking -/

theorem walkAll_eq (package : String) (nodes : List PackageNode) :
    walkAll package nodes = nodes.flatMap fun node => walk (qualify package node.name) node := by
  induction nodes with
  | nil => rfl
  | cons node nodes ih => rw [walkAll, ih, List.flatMap_cons]

theorem walk_eq (package : String) (node : PackageNode) :
    node.walk package =
      (package, node) :: node.children.flatMap fun child =>
        child.walk (qualify package child.name) := by
  obtain ⟨name, classCount, children⟩ := node
  rw [walk, walkAll_eq]
  rfl

theorem qualify_join {front : List String} (valid : Package.AreSegments front)
    (segment : String) :
    qualify (Package.join front) segment = Package.join (front ++ [segment]) := by
  by_cases top : front = []
  · subst top
    exact String.intercalate_singleton.symm
  · have occupied : Package.join front ≠ "" := (Package.join_eq_empty_iff valid).not.mpr top
    rw [qualify, if_neg (by simpa using occupied), Package.join_concat top]

/-- The names of the children of a node that stands for paths made of segments. -/
theorem Records.areSegments_names (records : node.Records paths)
    (valid : ∀ path ∈ paths, Package.AreSegments path) :
    Package.AreSegments (node.children.map PackageNode.name) := by
  intro segment member
  obtain ⟨rest, begun⟩ := records.mem_names.mp member
  exact valid _ begun segment List.mem_cons_self

theorem areSegments_of_mem_rests (valid : ∀ path ∈ paths, Package.AreSegments path) :
    ∀ path ∈ rests segment paths, Package.AreSegments path :=
  fun _ member => (valid _ (mem_rests.mp member)).of_subset (List.subset_cons_self _ _)

/-- A walk meets the nodes that paths lead to, under the names the paths spell. -/
theorem Records.mem_walk_iff (records : node.Records paths)
    (valid : ∀ path ∈ paths, Package.AreSegments path) {front : List String}
    (frontValid : Package.AreSegments front) :
    (name, last) ∈ node.walk (Package.join front) ↔
      ∃ way, node.locate? way = some last ∧ name = Package.join (front ++ way) := by
  induction records generalizing front with
  | @mk own classCount children paths classes nodup segments subtrees ih =>
      have records : Records (.mk own classCount children) paths :=
        .mk classes nodup segments subtrees
      have below {child : PackageNode} (member : child ∈ children) :
          (name, last) ∈ child.walk (qualify (Package.join front) child.name) ↔
            ∃ way, child.locate? way = some last ∧
              name = Package.join (front ++ child.name :: way) := by
        have nameValid : Package.AreSegments [child.name] :=
          (records.areSegments_names valid).of_subset
            (List.cons_subset.mpr ⟨List.mem_map_of_mem member, List.nil_subset _⟩)
        rw [qualify_join frontValid, ih child member (areSegments_of_mem_rests valid)
          (frontValid.append nameValid)]
        simp only [List.append_assoc, List.singleton_append]
      rw [walk_eq, List.mem_cons, List.mem_flatMap]
      constructor
      · rintro (own | ⟨child, member, inChild⟩)
        · obtain ⟨rfl, rfl⟩ := Prod.mk.inj own
          exact ⟨[], rfl, by rw [List.append_nil]⟩
        · obtain ⟨way, found, named⟩ := (below member).mp inChild
          refine ⟨child.name :: way, ?_, named⟩
          rw [locate?, records.child?_eq_some_iff.mpr ⟨member, rfl⟩]
          exact found
      · rintro ⟨_ | ⟨segment, way⟩, found, rfl⟩
        · left
          rw [List.append_nil, Option.some.inj found]
        · obtain ⟨child, first, inChild⟩ := Option.bind_eq_some_iff.mp found
          obtain ⟨member, rfl⟩ := mem_of_child? first
          exact .inr ⟨child, member, (below member).mpr ⟨way, inChild, rfl⟩⟩

/-! ## Height -/

theorem height_le_iff_children {bound : Nat} :
    node.height ≤ bound ↔ ∀ child ∈ node.children, child.height + 1 ≤ bound := by
  have heights (nodes : List PackageNode) :
      heights nodes ≤ bound ↔ ∀ child ∈ nodes, child.height + 1 ≤ bound := by
    induction nodes with
    | nil => simp [PackageNode.heights]
    | cons node nodes ih => rw [PackageNode.heights, Nat.max_le, ih, List.forall_mem_cons]
  obtain ⟨name, classCount, children⟩ := node
  exact heights children

/-- A node is as high as the longest of its paths. -/
theorem Records.height_le_iff (records : node.Records paths) {bound : Nat} :
    node.height ≤ bound ↔ ∀ path ∈ paths, path.length ≤ bound := by
  induction records generalizing bound with
  | @mk own classCount children paths classes nodup segments subtrees ih =>
      rw [height_le_iff_children]
      constructor
      · rintro low (_ | ⟨segment, rest⟩) member
        · exact Nat.zero_le _
        · obtain ⟨child, childMem, rfl⟩ := List.mem_map.mp ((segments segment).mpr ⟨rest, member⟩)
          have childLow := Nat.le_sub_one_of_lt (low child childMem)
          have short := (ih child childMem).mp childLow rest (mem_rests.mpr member)
          rw [List.length_cons]
          have occupied := low child childMem
          omega
      · intro short child childMem
        obtain ⟨rest, member⟩ := (segments child.name).mp (List.mem_map_of_mem childMem)
        have occupied : 0 < bound := Nat.lt_of_lt_of_le (Nat.succ_pos _) (short _ member)
        obtain ⟨lowered, rfl⟩ := Nat.exists_eq_add_one.mpr occupied
        refine Nat.succ_le_succ ((ih child childMem).mpr ?_)
        intro path below
        exact Nat.le_of_succ_le_succ (short _ (mem_rests.mp below))

end PackageNode

end LibPrint
