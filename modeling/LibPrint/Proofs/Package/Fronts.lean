import LibPrint.Proofs.Package.Growth
import LibPrint.Proofs.Package.Shared

/-!
# What packages begin with

The longest front that paths have in common, and the way down from a node of a package tree: that
way leads along what the paths of the node have in common, since it ends at a node with classes,
where one of the paths ends, or at a choice, where they part.
-/

namespace LibPrint

namespace Package

/-! ## Common fronts -/

/-- The longest list that all of the given ones begin with. -/
def longestCommon : List (List String) → List String
  | [] => []
  | [path] => path
  | path :: paths => path.take (agreement path (longestCommon paths))

theorem prefix_take_agreement_iff {front left right : List String} :
    front <+: left.take (agreement left right) ↔ front <+: left ∧ front <+: right := by
  rw [List.prefix_take_iff, le_agreement_iff]
  constructor
  · rintro ⟨inLeft, -, short, same⟩
    refine ⟨inLeft, ?_⟩
    rw [List.prefix_iff_eq_take] at inLeft ⊢
    rw [← same]
    exact inLeft
  · rintro ⟨inLeft, inRight⟩
    refine ⟨inLeft, inLeft.length_le, inRight.length_le, ?_⟩
    rw [← List.prefix_iff_eq_take.mp inLeft]
    exact List.prefix_iff_eq_take.mp inRight

/-- What all lists begin with is exactly what the longest common front begins with. -/
theorem prefix_longestCommon_iff {paths : List (List String)} (occupied : paths ≠ [])
    {front : List String} :
    front <+: longestCommon paths ↔ ∀ path ∈ paths, front <+: path := by
  induction paths with
  | nil => exact absurd rfl occupied
  | cons path paths ih =>
      cases paths with
      | nil => simp [longestCommon]
      | cons next paths =>
          rw [longestCommon, prefix_take_agreement_iff, ih (List.cons_ne_nil _ _)]
          · exact List.forall_mem_cons.symm
          · exact List.cons_ne_nil _ _

/-- A list that begins with the same as all the others is their longest common front. -/
theorem eq_longestCommon {paths : List (List String)} (occupied : paths ≠ []) {common : List String}
    (same : ∀ front, front <+: common ↔ ∀ path ∈ paths, front <+: path) :
    common = longestCommon paths := by
  have forward := (prefix_longestCommon_iff occupied).mpr ((same common).mp List.prefix_rfl)
  have back := (same _).mpr ((prefix_longestCommon_iff occupied).mp List.prefix_rfl)
  exact forward.eq_of_length (Nat.le_antisymm forward.length_le back.length_le)

/-- The longest common front does not depend on order and repetitions. -/
theorem longestCommon_congr {left right : List (List String)}
    (same : ∀ path, path ∈ left ↔ path ∈ right) : longestCommon left = longestCommon right := by
  by_cases empty : left = []
  · subst empty
    have nothing : right = [] := by
      rw [List.eq_nil_iff_forall_not_mem]
      intro path member
      exact List.not_mem_nil ((same path).mpr member)
    rw [nothing]
  · obtain ⟨path, member⟩ := List.exists_mem_of_ne_nil _ empty
    apply eq_longestCommon (List.ne_nil_of_mem ((same path).mp member))
    intro front
    simp only [prefix_longestCommon_iff empty, same]

theorem longestCommon_of_nil_mem {paths : List (List String)} (own : [] ∈ paths) :
    longestCommon paths = [] :=
  List.prefix_nil.mp ((prefix_longestCommon_iff (List.ne_nil_of_mem own)).mp List.prefix_rfl [] own)

/-- Paths that differ from the first segment on have nothing in common. -/
theorem longestCommon_of_fork {paths : List (List String)} {first second : String}
    {left right : List String} (leftMem : first :: left ∈ paths)
    (rightMem : second :: right ∈ paths) (different : first ≠ second) :
    longestCommon paths = [] := by
  have common := (prefix_longestCommon_iff (List.ne_nil_of_mem leftMem)).mp List.prefix_rfl
  cases shared : longestCommon paths with
  | nil => rfl
  | cons segment front =>
      rw [shared] at common
      have inLeft := (List.cons_prefix_cons.mp (common _ leftMem)).1
      have inRight := (List.cons_prefix_cons.mp (common _ rightMem)).1
      exact absurd (inLeft.symm.trans inRight) different

end Package

namespace PackageTree

open PackageNode Package

section Key

variable {segment : String} {key : List String} {paths : List (List String)}

theorem begin_first (begin : ∀ path ∈ paths, segment :: key <+: path) :
    ∀ path ∈ paths, [segment] <+: path :=
  fun path member => (List.cons_prefix_cons.mpr ⟨rfl, List.nil_prefix⟩).trans (begin path member)

theorem begin_rests (begin : ∀ path ∈ paths, segment :: key <+: path) :
    ∀ rest ∈ rests segment paths, key <+: rest :=
  fun _ member => (List.cons_prefix_cons.mp (begin _ (mem_rests.mp member))).2

theorem rests_ne_nil (occupied : paths ≠ []) (begin : ∀ path ∈ paths, [segment] <+: path) :
    rests segment paths ≠ [] := by
  obtain ⟨path, member⟩ := List.exists_mem_of_ne_nil _ occupied
  obtain ⟨rest, rfl⟩ := begin path member
  exact List.ne_nil_of_mem (mem_rests.mpr member)

/-- A segment that all paths begin with begins their longest common front. -/
theorem longestCommon_eq_cons (occupied : paths ≠ []) (begin : ∀ path ∈ paths, [segment] <+: path) :
    longestCommon paths = segment :: longestCommon (rests segment paths) := by
  have split (path : List String) (member : path ∈ paths) :
      ∃ rest ∈ rests segment paths, path = segment :: rest := by
    obtain ⟨rest, rfl⟩ := begin path member
    exact ⟨rest, mem_rests.mpr member, rfl⟩
  obtain ⟨path, member⟩ := List.exists_mem_of_ne_nil _ occupied
  symm
  apply eq_longestCommon occupied
  rintro (_ | ⟨first, front⟩)
  · simp
  · rw [List.cons_prefix_cons, prefix_longestCommon_iff (rests_ne_nil occupied begin)]
    constructor
    · rintro ⟨rfl, inAll⟩ path member
      obtain ⟨rest, restMem, rfl⟩ := split path member
      exact List.cons_prefix_cons.mpr ⟨rfl, inAll rest restMem⟩
    · intro inAll
      obtain ⟨rest, -, rfl⟩ := split path member
      refine ⟨(List.cons_prefix_cons.mp (inAll _ member)).1, ?_⟩
      intro other otherMem
      exact (List.cons_prefix_cons.mp (inAll _ (mem_rests.mp otherMem))).2

/-- The same for several segments. -/
theorem longestCommon_eq_append (occupied : paths ≠ []) (begin : ∀ path ∈ paths, key <+: path) :
    longestCommon paths = key ++ longestCommon (restsAlong key paths) := by
  induction key generalizing paths with
  | nil => rfl
  | cons segment key ih =>
      have first := begin_first begin
      have left := rests_ne_nil occupied first
      rw [longestCommon_eq_cons occupied first, ih left (begin_rests begin)]
      rfl

/-- A key that all paths begin with adds one path to a node for each of its segments. -/
theorem card_starts_eq_add (occupied : paths ≠ []) (begin : ∀ path ∈ paths, key <+: path) :
    (starts paths).card = key.length + (starts (restsAlong key paths)).card := by
  induction key generalizing paths with
  | nil => exact (Nat.zero_add _).symm
  | cons segment key ih =>
      have first := begin_first begin
      have begun (other : String) :
          other ∈ ({segment} : Finset String) ↔ ∃ rest, other :: rest ∈ paths := by
        rw [Finset.mem_singleton]
        constructor
        · rintro rfl
          obtain ⟨rest, member⟩ := List.exists_mem_of_ne_nil _ (rests_ne_nil occupied first)
          exact ⟨rest, mem_rests.mp member⟩
        · rintro ⟨rest, member⟩
          exact (List.cons_prefix_cons.mp (begin _ member)).1.symm
      rw [card_starts begun, Finset.sum_singleton,
        ih (rests_ne_nil occupied first) (begin_rests begin)]
      exact Nat.add_right_comm _ _ _

end Key

/-! ## Going down -/

/-- A node without classes leads to the only child, or nowhere when there are several: the way down
is what its paths have in common if that holds of its children. -/
theorem onlyWay_eq_longestCommon {node : PackageNode} {paths : List (List String)}
    (records : node.Records paths) (occupied : paths ≠ []) (bare : [] ∉ paths)
    (below : ∀ child ∈ node.children, rests child.name paths ≠ [] →
      child.way = child.name :: longestCommon (rests child.name paths)) :
    node.onlyWay = longestCommon paths := by
  have first (path : List String) (member : path ∈ paths) :
      ∃ child ∈ node.children, [child.name] <+: path := by
    cases path with
    | nil => exact absurd member bare
    | cons segment rest =>
        obtain ⟨child, childMem, rfl⟩ := List.mem_map.mp (records.mem_names.mpr ⟨rest, member⟩)
        exact ⟨child, childMem, rest, rfl⟩
  have begun (child : PackageNode) (childMem : child ∈ node.children) :
      ∃ rest, child.name :: rest ∈ paths :=
    records.mem_names.mp (List.mem_map_of_mem childMem)
  have nodup := records.nodup
  rw [onlyWay_eq]
  generalize node.children = children at below first begun nodup ⊢
  rcases children with _ | ⟨only, _ | ⟨second, others⟩⟩
  · obtain ⟨path, member⟩ := List.exists_mem_of_ne_nil _ occupied
    obtain ⟨child, childMem, -⟩ := first path member
    cases childMem
  · have begin (path : List String) (member : path ∈ paths) : [only.name] <+: path := by
      obtain ⟨child, childMem, start⟩ := first path member
      rwa [List.mem_singleton.mp childMem] at start
    obtain ⟨rest, member⟩ := begun only List.mem_cons_self
    rw [longestCommon_eq_cons occupied begin]
    exact below only List.mem_cons_self (List.ne_nil_of_mem (mem_rests.mpr member))
  · obtain ⟨left, leftMem⟩ := begun only List.mem_cons_self
    obtain ⟨right, rightMem⟩ := begun second (List.mem_cons_of_mem _ List.mem_cons_self)
    have different : only.name ≠ second.name := by
      intro same
      simp [same] at nodup
    exact (longestCommon_of_fork leftMem rightMem different).symm

/-- The way down from a node that has recorded anything, itself included, leads along what its paths
have in common. -/
theorem way_eq_longestCommon {node : PackageNode} {paths : List (List String)}
    (records : node.Records paths) (occupied : paths ≠ []) :
    node.way = node.name :: longestCommon paths := by
  induction records with
  | @mk name classCount children paths classes nodup segments subtrees ih =>
      have records : Records (.mk name classCount children) paths :=
        .mk classes nodup segments subtrees
      rw [way]
      by_cases own : [] ∈ paths
      · have counted : 0 < classCount := classes ▸ List.count_pos_iff.mpr own
        rw [longestCommon_of_nil_mem own, hasClasses, PackageNode.classCount,
          decide_eq_true counted, if_pos rfl]
      · have counted : ¬ 0 < classCount := classes ▸ List.count_pos_iff.not.mpr own
        rw [hasClasses, PackageNode.classCount, decide_eq_false counted, if_neg Bool.false_ne_true,
          onlyWay_eq_longestCommon records occupied own ih]

end PackageTree

end LibPrint
