import LibPrint.Package.Tree
import Mathlib.Algebra.BigOperators.Group.List.Basic
import Mathlib.Algebra.GroupWithZero.Nat
import Mathlib.Data.List.Nodup

/-!
# What a package tree records

A package tree is grown one class after another, and its children keep the order in which they were
first seen. What a node records is a list of paths: how many end at the node, and what is left of
the others below each child. Up to the order of children a node depends on these paths alone, and
not on their order, so neither do its size and the way down from it.
-/

namespace LibPrint

namespace PackageNode

/-! ## Paths -/

/-- What is left, behind a segment, of the paths that begin with it. -/
def rests (segment : String) (paths : List (List String)) : List (List String) :=
  paths.filterMap fun
    | [] => none
    | first :: rest => if first = segment then some rest else none

theorem mem_rests {segment : String} {paths : List (List String)} {rest : List String} :
    rest ∈ rests segment paths ↔ segment :: rest ∈ paths := by
  rw [rests, List.mem_filterMap]
  constructor
  · rintro ⟨path, member, found⟩
    cases path with
    | nil => cases found
    | cons first more =>
        simp only [Option.ite_none_right_eq_some, Option.some.injEq] at found
        obtain ⟨rfl, rfl⟩ := found
        exact member
  · intro member
    exact ⟨segment :: rest, member, by simp⟩

@[simp] theorem rests_nil_cons (segment : String) (paths : List (List String)) :
    rests segment ([] :: paths) = rests segment paths := rfl

@[simp] theorem rests_cons_self (segment : String) (path : List String)
    (paths : List (List String)) :
    rests segment ((segment :: path) :: paths) = path :: rests segment paths := by
  simp [rests]

theorem rests_cons_of_ne {first segment : String} (different : first ≠ segment)
    (path : List String) (paths : List (List String)) :
    rests segment ((first :: path) :: paths) = rests segment paths := by
  simp [rests, different]

theorem exists_cons_iff {other segment : String} {path : List String}
    {paths : List (List String)} :
    (∃ rest, other :: rest ∈ (segment :: path) :: paths) ↔
      other = segment ∨ ∃ rest, other :: rest ∈ paths := by
  simp only [List.mem_cons, List.cons.injEq, exists_or, exists_and_left, exists_eq, and_true]

/-- The node stands for the paths: it counts those that end here and has one child for each segment
that others begin with, which stands for what is left of them. -/
inductive Records : PackageNode → List (List String) → Prop where
  | mk {name : String} {classCount : Nat} {children : List PackageNode}
      {paths : List (List String)} (classes : classCount = paths.count [])
      (nodup : (children.map PackageNode.name).Nodup)
      (segments : ∀ segment, segment ∈ children.map PackageNode.name ↔
        ∃ rest, segment :: rest ∈ paths)
      (subtrees : ∀ child ∈ children, Records child (rests child.name paths)) :
      Records (.mk name classCount children) paths

theorem records_fresh (name : String) : Records (fresh name) [] := by
  apply Records.mk
  · rfl
  · exact List.nodup_nil
  · simp
  · nofun

/-- In which order the paths are recorded does not matter. -/
theorem Records.of_perm {node : PackageNode} {paths others : List (List String)}
    (records : node.Records paths) (perm : paths.Perm others) : node.Records others := by
  induction records generalizing others with
  | mk classes nodup segments _ ih =>
      apply Records.mk
      · rw [classes, perm.count_eq]
      · exact nodup
      · intro segment
        rw [segments segment]
        simp only [perm.mem_iff]
      · intro child member
        exact ih child member (perm.filterMap _)

/-! ## Recording one more path -/

@[simp] theorem name_count (path : List String) (node : PackageNode) :
    (count path node).name = node.name := by
  obtain ⟨name, classCount, children⟩ := node
  cases path with
  | nil => rfl
  | cons segment path =>
      rw [count]
      split <;> rfl

/-- Where names differ, changing the first node of a name changes all nodes of that name. -/
theorem exists_modify_of_mem {segment : String} {nodes : List PackageNode}
    (nodup : (nodes.map PackageNode.name).Nodup)
    (present : segment ∈ nodes.map PackageNode.name) (change : PackageNode → PackageNode) :
    ∃ place, nodes.findIdx? (·.name == segment) = some place ∧
      nodes.modify place change =
        nodes.map fun node => if node.name = segment then change node else node := by
  induction nodes with
  | nil => cases present
  | cons node nodes ih =>
      rw [List.map_cons, List.nodup_cons] at nodup
      by_cases own : node.name = segment
      · refine ⟨0, by simp [List.findIdx?_cons, own], ?_⟩
        have others : nodes.map (fun node =>
            if node.name = segment then change node else node) = nodes := by
          refine (List.map_congr_left ?_).trans (List.map_id _)
          intro other member
          have apart : other.name ≠ segment := by
            rintro rfl
            rw [own] at nodup
            exact nodup.1 (List.mem_map_of_mem member)
          rw [if_neg apart, id]
        simp [own, others]
      · have inRest : segment ∈ nodes.map PackageNode.name := by
          rcases List.mem_cons.mp present with rfl | inRest
          · exact absurd rfl own
          · exact inRest
        obtain ⟨place, found, rest⟩ := ih nodup.2 inRest
        refine ⟨place + 1, by simp [List.findIdx?_cons, own, found], ?_⟩
        simp [own, rest]

/-- A segment that is there leads into the child of its name. -/
theorem count_of_mem {segment : String} {children : List PackageNode}
    (nodup : (children.map PackageNode.name).Nodup)
    (present : segment ∈ children.map PackageNode.name) (path : List String) (name : String)
    (classCount : Nat) :
    count (segment :: path) (.mk name classCount children) =
      .mk name classCount
        (children.map fun child => if child.name = segment then count path child else child) := by
  obtain ⟨place, found, changed⟩ := exists_modify_of_mem nodup present (count path)
  simp only [count, found, changed]

/-- A segment that is missing is added behind the children. -/
theorem count_of_not_mem {segment : String} {children : List PackageNode}
    (absent : segment ∉ children.map PackageNode.name) (path : List String) (name : String)
    (classCount : Nat) :
    count (segment :: path) (.mk name classCount children) =
      .mk name classCount (children ++ [count path (fresh segment)]) := by
  have missing : children.findIdx? (·.name == segment) = none := by
    rw [List.findIdx?_eq_none_iff]
    intro child member
    rw [beq_eq_false_iff_ne]
    rintro rfl
    exact absent (List.mem_map_of_mem member)
  simp only [count, missing]

section Count

variable {name segment : String} {classCount : Nat} {children : List PackageNode}
  {path : List String} {paths : List (List String)}
  (records : Records (.mk name classCount children) paths)
  (deepen : ∀ {child : PackageNode} {left : List (List String)}, child.Records left →
    (count path child).Records (path :: left))
include records deepen

theorem Records.count_of_mem (present : segment ∈ children.map PackageNode.name) :
    (PackageNode.count (segment :: path) (.mk name classCount children)).Records
      ((segment :: path) :: paths) := by
  obtain ⟨classes, nodup, segments, subtrees⟩ := records
  have names : (children.map fun child =>
      if child.name = segment then PackageNode.count path child else child).map PackageNode.name =
        children.map PackageNode.name := by
    rw [List.map_map]
    apply List.map_congr_left
    intro child _
    simp only [Function.comp]
    split <;> simp
  rw [PackageNode.count_of_mem nodup present]
  refine .mk ?_ ?_ ?_ ?_
  · rw [List.count_cons_of_ne (List.cons_ne_nil _ _), classes]
  · rwa [names]
  · intro other
    rw [names, exists_cons_iff, segments other]
    constructor
    · exact Or.inr
    · rintro (rfl | begun)
      · exact (segments _).mp present
      · exact begun
  · intro child member
    obtain ⟨old, oldMem, rfl⟩ := List.mem_map.mp member
    by_cases within : old.name = segment
    · rw [if_pos within, name_count, within, rests_cons_self, ← within]
      exact deepen (subtrees old oldMem)
    · rw [if_neg within, rests_cons_of_ne (Ne.symm within)]
      exact subtrees old oldMem

theorem Records.count_of_not_mem (absent : segment ∉ children.map PackageNode.name) :
    (PackageNode.count (segment :: path) (.mk name classCount children)).Records
      ((segment :: path) :: paths) := by
  obtain ⟨classes, nodup, segments, subtrees⟩ := records
  have names : (children ++ [PackageNode.count path (fresh segment)]).map PackageNode.name =
      children.map PackageNode.name ++ [segment] := by
    rw [List.map_append, List.map_singleton, name_count]
    rfl
  rw [PackageNode.count_of_not_mem absent]
  refine .mk ?_ ?_ ?_ ?_
  · rw [List.count_cons_of_ne (List.cons_ne_nil _ _), classes]
  · rw [names, (List.perm_append_singleton _ _).nodup_iff, List.nodup_cons]
    exact ⟨absent, nodup⟩
  · intro other
    rw [names, exists_cons_iff, List.mem_append, List.mem_singleton, segments other, or_comm]
  · intro child member
    rcases List.mem_append.mp member with old | new
    · have apart : segment ≠ child.name := by
        rintro rfl
        exact absent (List.mem_map_of_mem old)
      rw [rests_cons_of_ne apart]
      exact subtrees child old
    · have nothing : rests segment paths = [] := by
        rw [List.eq_nil_iff_forall_not_mem]
        intro rest left
        exact absent ((segments segment).mpr ⟨rest, mem_rests.mp left⟩)
      rw [List.mem_singleton.mp new, name_count, fresh, PackageNode.name, rests_cons_self, nothing]
      exact deepen (records_fresh segment)

end Count

/-- A node that has recorded one more path stands for one more path. -/
theorem Records.count (path : List String) {node : PackageNode} {paths : List (List String)}
    (records : node.Records paths) : (node.count path).Records (path :: paths) := by
  induction path generalizing node paths with
  | nil =>
      obtain ⟨classes, nodup, segments, subtrees⟩ := records
      refine .mk ?_ nodup ?_ ?_
      · rw [List.count_cons_self, classes]
      · simpa using segments
      · simpa using subtrees
  | cons segment path ih =>
      obtain ⟨name, classCount, children⟩ := node
      by_cases present : segment ∈ children.map PackageNode.name
      · exact records.count_of_mem ih present
      · exact records.count_of_not_mem ih present

/-! ## What follows from the paths -/

section Alike

variable {left right : PackageNode} {paths : List (List String)}

theorem Records.nodup (records : left.Records paths) :
    (left.children.map PackageNode.name).Nodup := by
  obtain ⟨_, nodup, _, _⟩ := records
  exact nodup

theorem Records.child (records : left.Records paths) {child : PackageNode}
    (member : child ∈ left.children) : child.Records (rests child.name paths) := by
  obtain ⟨_, _, _, subtrees⟩ := records
  exact subtrees child member

theorem Records.mem_names (records : left.Records paths) {segment : String} :
    segment ∈ left.children.map PackageNode.name ↔ ∃ rest, segment :: rest ∈ paths := by
  obtain ⟨_, _, segments, _⟩ := records
  exact segments segment

theorem Records.hasClasses_eq (first : left.Records paths) (second : right.Records paths) :
    left.hasClasses = right.hasClasses := by
  obtain ⟨classes, _, _, _⟩ := first
  obtain ⟨others, _, _, _⟩ := second
  rw [hasClasses, hasClasses, PackageNode.classCount, PackageNode.classCount, classes, others]

theorem Records.perm_names (first : left.Records paths) (second : right.Records paths) :
    (left.children.map PackageNode.name).Perm (right.children.map PackageNode.name) := by
  apply (List.perm_ext_iff_of_nodup first.nodup second.nodup).mpr
  intro segment
  rw [first.mem_names, second.mem_names]

/-- To every child of a node there is one that stands for the same paths below any other node that
stands for the same paths as the first. -/
theorem Records.exists_twin (first : left.Records paths) (second : right.Records paths)
    {child : PackageNode} (member : child ∈ left.children) :
    ∃ other ∈ right.children, other.name = child.name ∧
      ∃ below, child.Records below ∧ other.Records below := by
  obtain ⟨other, otherMem, named⟩ := List.mem_map.mp
    ((first.perm_names second).mem_iff.mp (List.mem_map_of_mem member))
  refine ⟨other, otherMem, named, rests child.name paths, first.child member, ?_⟩
  rw [← named]
  exact second.child otherMem

/-- Two nodes that stand for the same paths have the same children up to order, as far as children
of one name agree. -/
theorem Records.perm_children {α : Type} (first : left.Records paths)
    (second : right.Records paths) (reading : PackageNode → α)
    (same : ∀ child ∈ left.children, ∀ other ∈ right.children, child.name = other.name →
      reading child = reading other) :
    (left.children.map fun child => (child.name, reading child)).Perm
      (right.children.map fun child => (child.name, reading child)) := by
  have distinct {node : PackageNode} (records : node.Records paths) :
      (node.children.map fun child => (child.name, reading child)).Nodup := by
    apply List.Nodup.of_map Prod.fst
    rw [List.map_map]
    exact records.nodup
  apply (List.perm_ext_iff_of_nodup (distinct first) (distinct second)).mpr
  rintro ⟨name, value⟩
  simp only [List.mem_map, Prod.mk.injEq]
  constructor
  · rintro ⟨child, member, rfl, rfl⟩
    obtain ⟨other, otherMem, named, -⟩ := first.exists_twin second member
    exact ⟨other, otherMem, named, (same child member other otherMem named.symm).symm⟩
  · rintro ⟨other, otherMem, rfl, rfl⟩
    obtain ⟨child, member, named, -⟩ := second.exists_twin first otherMem
    exact ⟨child, member, named, same child member other otherMem named⟩

/-- What is passed on from children of one name to their parents holds of any two nodes that stand
for the same paths. -/
theorem Records.alike_induction {motive : PackageNode → PackageNode → Prop}
    (step : ∀ {left right : PackageNode} {paths : List (List String)}, left.Records paths →
      right.Records paths → (∀ child ∈ left.children, ∀ other ∈ right.children,
        child.name = other.name → motive child other) → motive left right)
    (first : left.Records paths) (second : right.Records paths) : motive left right := by
  induction first generalizing right with
  | @mk name classCount children paths classes nodup segments subtrees ih =>
      have records : Records (.mk name classCount children) paths :=
        .mk classes nodup segments subtrees
      apply step records second
      intro child member other otherMem named
      apply ih child member
      rw [named]
      exact second.child otherMem

end Alike

end PackageNode

namespace PackageTree

open PackageNode

/-- The paths of the packages that are not nested too deeply. -/
def paths (packages : List String) : List (List String) :=
  (packages.filter accepts).map Package.segments

theorem paths_append (packages others : List String) :
    paths (packages ++ others) = paths packages ++ paths others := by
  rw [paths, List.filter_append, List.map_append]
  rfl

theorem paths_perm {packages others : List String} (perm : packages.Perm others) :
    (paths packages).Perm (paths others) :=
  (perm.filter _).map _

/-- A tree is grown by recording the paths of its packages one after another. -/
theorem root_foldl_record (packages : List String) (tree : PackageTree) :
    (packages.foldl record tree).root =
      (paths packages).foldl (fun node path => node.count path) tree.root := by
  induction packages generalizing tree with
  | nil => rfl
  | cons package packages ih =>
      rw [List.foldl_cons, ih, record]
      simp only [paths, List.filter_cons]
      split <;> rfl

theorem root_ofPackages (packages : List String) :
    (ofPackages packages).root =
      (paths packages).foldl (fun node path => node.count path) (fresh "Root") :=
  root_foldl_record packages empty

theorem records_foldl_count {node : PackageNode} {recorded : List (List String)}
    (records : node.Records recorded) (more : List (List String)) :
    (more.foldl (fun node path => node.count path) node).Records (more ++ recorded) := by
  induction more generalizing node recorded with
  | nil => exact records
  | cons path more ih =>
      rw [List.foldl_cons]
      exact (ih (records.count path)).of_perm List.perm_middle

theorem records_ofPackages (packages : List String) :
    (ofPackages packages).root.Records (paths packages) := by
  have records := records_foldl_count (records_fresh "Root") (paths packages)
  rwa [List.append_nil, ← root_ofPackages] at records

end PackageTree

end LibPrint
