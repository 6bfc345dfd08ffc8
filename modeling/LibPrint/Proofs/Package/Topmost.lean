import LibPrint.Proofs.Package.Anchoring
import LibPrint.Proofs.Package.Growth
import LibPrint.Proofs.Package.Layout

/-!
# The topmost nodes that pass a test

A search that does not go on below what it found lists the nodes that pass its test and lie below no
other that does. It meets them in a certain order: a path comes before those that go on from it, and
where two paths part, the one whose segment was recorded first comes first.
-/

namespace LibPrint

namespace PackageNode

variable {test : PackageNode → Bool} {node child : PackageNode} {paths : List (List String)}
  {way other : List String}

mutual

/-- The paths to the topmost nodes that pass a test. -/
def topmost (test : PackageNode → Bool) : PackageNode → List (List String)
  | node@(mk _ _ children) => if test node then [[]] else topmostBelow test children

def topmostBelow (test : PackageNode → Bool) : List PackageNode → List (List String)
  | [] => []
  | node :: nodes => (topmost test node).map (node.name :: ·) ++ topmostBelow test nodes

end

theorem topmost_eq (test : PackageNode → Bool) (node : PackageNode) :
    node.topmost test =
      if test node then [[]]
      else node.children.flatMap fun child => (child.topmost test).map (child.name :: ·) := by
  have below (nodes : List PackageNode) :
      topmostBelow test nodes =
        nodes.flatMap fun node => (node.topmost test).map (node.name :: ·) := by
    induction nodes with
    | nil => rfl
    | cons node nodes ih => rw [topmostBelow, ih, List.flatMap_cons]
  obtain ⟨name, classCount, children⟩ := node
  rw [topmost, below]
  rfl

/-! ## Which paths are listed -/

/-- The path leads to a node that passes the test, past none that does. -/
structure IsTopmost (test : PackageNode → Bool) (node : PackageNode) (way : List String) :
    Prop where
  passes : ∃ last, node.locate? way = some last ∧ test last = true
  first : ∀ front above, front <+: way → front ≠ way → node.locate? front = some above →
    test above = false

theorem isTopmost_nil_iff : IsTopmost test node [] ↔ test node = true := by
  constructor
  · rintro ⟨⟨last, found, passes⟩, -⟩
    rwa [Option.some.inj found]
  · intro passes
    refine ⟨⟨node, rfl, passes⟩, ?_⟩
    intro front above start different
    exact absurd (List.prefix_nil.mp start) different

/-- Below a child the topmost nodes are those of the child, unless its parent passes. -/
theorem Records.isTopmost_cons_iff (records : node.Records paths) (member : child ∈ node.children) :
    IsTopmost test node (child.name :: way) ↔ test node = false ∧ IsTopmost test child way := by
  have follow := records.locate?_cons member
  constructor
  · rintro ⟨passes, first⟩
    rw [follow] at passes
    refine ⟨first [] node List.nil_prefix (List.cons_ne_nil _ _).symm rfl, passes, ?_⟩
    intro front above start different found
    refine first (child.name :: front) above (List.cons_prefix_cons.mpr ⟨rfl, start⟩) ?_ ?_
    · exact fun same => different (List.cons.inj same).2
    · rw [follow, found]
  · rintro ⟨fails, passes, first⟩
    refine ⟨by rwa [follow], ?_⟩
    rintro (_ | ⟨segment, front⟩) above start different found
    · rwa [← Option.some.inj found]
    · obtain ⟨rfl, rest⟩ := List.cons_prefix_cons.mp start
      rw [follow] at found
      exact first front above rest (fun same => different (congrArg _ same)) found

/-- The list holds the topmost nodes that pass the test and no others. -/
theorem Records.mem_topmost_iff (records : node.Records paths) :
    way ∈ node.topmost test ↔ IsTopmost test node way := by
  induction records generalizing way with
  | @mk name classCount children paths classes nodup segments subtrees ih =>
      have records : Records (.mk name classCount children) paths :=
        .mk classes nodup segments subtrees
      rw [topmost_eq]
      cases own : test (.mk name classCount children) with
      | true =>
          rw [if_pos rfl, List.mem_singleton]
          constructor
          · rintro rfl
            exact isTopmost_nil_iff.mpr own
          · intro topmost
            by_contra occupied
            have fails := topmost.first [] _ List.nil_prefix (Ne.symm occupied) rfl
            rw [own] at fails
            cases fails
      | false =>
          rw [if_neg Bool.false_ne_true, List.mem_flatMap]
          constructor
          · rintro ⟨child, member, listed⟩
            obtain ⟨rest, inChild, rfl⟩ := List.mem_map.mp listed
            exact (records.isTopmost_cons_iff member).mpr ⟨own, (ih child member).mp inChild⟩
          · intro topmost
            rcases way with _ | ⟨segment, rest⟩
            · rw [isTopmost_nil_iff, own] at topmost
              cases topmost
            · obtain ⟨last, found, -⟩ := topmost.passes
              obtain ⟨child, first, -⟩ := Option.bind_eq_some_iff.mp found
              obtain ⟨member, rfl⟩ := mem_of_child? first
              have below := ((records.isTopmost_cons_iff member).mp topmost).2
              exact ⟨child, member, List.mem_map_of_mem ((ih child member).mpr below)⟩

/-- None of the topmost nodes lies below another. -/
theorem IsTopmost.eq_of_prefix (first : IsTopmost test node way)
    (second : IsTopmost test node other) (start : way <+: other) : way = other := by
  by_contra different
  obtain ⟨last, found, passes⟩ := first.passes
  rw [second.first way last start different found] at passes
  cases passes

/-- On the way to a node that passes, or there, one is topmost. -/
theorem Records.exists_isTopmost (records : node.Records paths) (test : PackageNode → Bool)
    {last : PackageNode} (found : node.locate? way = some last) (passes : test last = true) :
    ∃ front, front <+: way ∧ IsTopmost test node front := by
  induction way generalizing node paths with
  | nil =>
      rw [← Option.some.inj found] at passes
      exact ⟨[], List.prefix_rfl, isTopmost_nil_iff.mpr passes⟩
  | cons segment way ih =>
      cases own : test node with
      | true => exact ⟨[], List.nil_prefix, isTopmost_nil_iff.mpr own⟩
      | false =>
          obtain ⟨child, first, below⟩ := Option.bind_eq_some_iff.mp found
          obtain ⟨member, rfl⟩ := mem_of_child? first
          obtain ⟨front, start, topmost⟩ := ih (records.child member) below
          exact ⟨child.name :: front, List.cons_prefix_cons.mpr ⟨rfl, start⟩,
            (records.isTopmost_cons_iff member).mpr ⟨own, topmost⟩⟩

/-! ## In which order they are listed -/

/-- The one path is met before the other where the paths were recorded: it leads above the other, or
it takes the segment that was recorded first where they part. -/
def Before (paths : List (List String)) : (first second : List String) → Prop
  | [], second => second ≠ []
  | _ :: _, [] => False
  | segment :: first, other :: second =>
      if segment = other then Before (rests segment paths) first second
      else [segment, other].Sublist (firsts paths)

theorem before_cons_self (segment : String) :
    Before paths (segment :: way) (segment :: other) ↔ Before (rests segment paths) way other := by
  rw [Before, if_pos rfl]

theorem not_before_self (paths : List (List String)) (way : List String) :
    ¬ Before paths way way := by
  induction way generalizing paths with
  | nil => exact fun met => met rfl
  | cons segment way ih => rw [before_cons_self]; exact ih _

/-- Different first segments are recorded in some order. -/
theorem pairwise_firsts (paths : List (List String)) :
    (firsts paths).Pairwise fun segment other =>
      segment ≠ other ∧ [segment, other].Sublist (firsts paths) :=
  (nodup_eraseDups _).and (List.pairwise_iff_forall_sublist.mpr id)

theorem children_grow (name : String) (paths : List (List String)) :
    (grow name paths).children = subtrees paths := by
  rw [grow_eq]
  rfl

/-- The topmost nodes are listed in the order in which a walk meets them. -/
theorem pairwise_topmost (test : PackageNode → Bool) (name : String)
    (paths : List (List String)) :
    ((grow name paths).topmost test).Pairwise (Before paths) := by
  generalize grown : grow name paths = node
  induction node using children_induction generalizing name paths with
  | step node ih =>
      have children : node.children = subtrees paths := grown ▸ children_grow name paths
      rw [topmost_eq]
      split
      · exact List.pairwise_singleton _ _
      rw [children] at ih ⊢
      rw [List.pairwise_flatMap]
      constructor
      · intro child member
        obtain ⟨segment, -, rfl⟩ := List.mem_map.mp member
        rw [List.pairwise_map, name_grow]
        refine (ih _ member segment (rests segment paths) rfl).imp ?_
        intro way other
        exact (before_cons_self segment).mpr
      · rw [subtrees, List.pairwise_map]
        refine (pairwise_firsts paths).imp ?_
        rintro segment other ⟨different, earlier⟩ first firstMem second secondMem
        obtain ⟨way, -, rfl⟩ := List.mem_map.mp firstMem
        obtain ⟨next, -, rfl⟩ := List.mem_map.mp secondMem
        rw [name_grow, name_grow, Before, if_neg different]
        exact earlier

end PackageNode

end LibPrint
