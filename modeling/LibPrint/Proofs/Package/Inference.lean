import LibPrint.Proofs.Package.Fronts
import Mathlib.Data.List.Find

/-!
# The root package in terms of names

Going down a package tree to the root package is to look for what names have in common. Where there
is no choice the root package is the longest common front of all packages. At a fork the packages
are taken in groups by their next segment, and the longest common front of the largest group is the
root package. The default package plays no part.
-/

namespace LibPrint

namespace PackageTree

open PackageNode Package

/-! ## Groups of packages -/

/-- The different packages on record as lists of segments, in the order in which they came first.
The default package is left out. -/
def known (packages : List String) : List (List String) :=
  ((paths packages).filter fun path => path ≠ []).eraseDups

/-- The different segments at a place of paths, in the order in which they came first. -/
def segmentsAt (place : Nat) (paths : List (List String)) : List String :=
  (paths.filterMap fun path => path[place]?).eraseDups

/-- The paths with a segment at a place. -/
def groupAt (place : Nat) (paths : List (List String)) (segment : String) : List (List String) :=
  paths.filter fun path => path[place]? == some segment

/-- The number of packages of a group, those that others are nested in included. -/
def extent (group : List (List String)) : Nat :=
  ((group.flatMap List.inits).toFinset.erase []).card

/-- The first of the items for which the measure is largest. -/
def firstLargest? {α : Type} (measure : α → Nat) (items : List α) : Option α :=
  items.find? fun item => items.all fun other => measure other ≤ measure item

/-- The longest common front of the largest group, unless it is a common namespace. The groups are
told apart by the segment at a place, and paths that end before it are in none. -/
def rootOfGroups (place : Nat) (paths : List (List String)) : Option String :=
  (firstLargest? extent ((segmentsAt place paths).map (groupAt place paths))).bind fun group =>
    let front := join (longestCommon group)
    if isCommon front then none else some front

/-- The root package that names stand for. -/
def inferredRoot? (packages : List String) : Option String :=
  match segmentsAt 0 (known packages) with
  | [] => none
  | [only] =>
      if isCommon only then rootOfGroups 1 (known packages)
      else some (join (longestCommon (known packages)))
  | _ => rootOfGroups 0 (known packages)

/-! ## The first largest item -/

section FirstLargest

variable {α β : Type} {items : List α}

theorem firstLargest?_map (measure : β → Nat) (image : α → β) (items : List α) :
    firstLargest? measure (items.map image) =
      (firstLargest? (fun item => measure (image item)) items).map image := by
  rw [firstLargest?, List.find?_map]
  simp only [List.all_map]
  rfl

/-- What all items have more makes no difference. -/
theorem firstLargest?_congr {measure other : α → Nat} {more : Nat}
    (agree : ∀ item ∈ items, measure item = more + other item) :
    firstLargest? measure items = firstLargest? other items := by
  apply List.find?_congr
  intro item member
  rw [Bool.eq_iff_iff]
  simp only [List.all_eq_true, decide_eq_true_eq]
  apply forall₂_congr
  intro another anotherMem
  rw [agree item member, agree another anotherMem, Nat.add_le_add_iff_left]

/-- An item that is smaller than one behind it plays no part. -/
theorem firstLargest?_cons_of_lt {measure : α → Nat} {item larger : α} (member : larger ∈ items)
    (less : measure item < measure larger) :
    firstLargest? measure (item :: items) = firstLargest? measure items := by
  have small : ¬ ∀ other ∈ items, measure other ≤ measure item := by
    intro top
    exact Nat.not_le.mpr less (top larger member)
  rw [firstLargest?, List.find?_cons_of_neg (by simpa using small)]
  apply List.find?_congr
  intro other _
  rw [List.all_cons, Bool.and_eq_right_iff_imp, decide_eq_true_eq, List.all_eq_true]
  intro top
  exact Nat.le_of_lt (Nat.lt_of_lt_of_le less (of_decide_eq_true (top larger member)))

end FirstLargest

theorem largest?_eq_firstLargest? (nodes : List PackageNode) :
    largest? nodes = firstLargest? size nodes := by
  induction nodes with
  | nil => rfl
  | cons node nodes ih =>
      by_cases top : ∀ other ∈ nodes, other.size ≤ node.size
      · rw [largest?_cons_of_le top, firstLargest?, List.find?_cons_of_pos]
        simpa using top
      · obtain ⟨larger, member, less⟩ : ∃ larger ∈ nodes, node.size < larger.size := by
          simpa using top
        rw [firstLargest?_cons_of_lt member less, ← ih, largest?]
        cases found : largest? nodes with
        | none => simp [largest?_eq_none_iff.mp found] at member
        | some other =>
            have most := (mem_contenders.mp (mem_contenders_of_largest? found)).2 larger member
            exact if_pos (Nat.lt_of_lt_of_le less most)

/-! ## Groups and the children of a fork -/

theorem mem_known {packages : List String} {path : List String} :
    path ∈ known packages ↔ path ∈ paths packages ∧ path ≠ [] := by
  rw [known, List.mem_eraseDups, List.mem_filter, decide_eq_true_eq]

theorem extent_add_one (group : List (List String)) : extent group + 1 = (starts group).card := by
  have top : [] ∈ starts group := mem_starts.mpr (.inl rfl)
  rw [extent, ← Finset.erase_insert_eq_erase, ← starts, Finset.card_erase_add_one top]

/-- Where all paths but the empty one begin with a key, the segments that follow it are the first
ones of what is left behind it. -/
theorem filterMap_getElem?_length {start : List String} {paths : List (List String)}
    (begin : ∀ path ∈ paths, path ≠ [] → start <+: path) :
    (paths.filterMap fun path => path[start.length]?) =
      (restsAlong start paths).filterMap List.head? := by
  induction start generalizing paths with
  | nil =>
      apply List.filterMap_congr
      intro path _
      exact List.head?_eq_getElem?.symm
  | cons segment start ih =>
      have behind (rest : List String) (member : rest ∈ rests segment paths) (_ : rest ≠ []) :
          start <+: rest :=
        (List.cons_prefix_cons.mp (begin _ (mem_rests.mp member) (List.cons_ne_nil _ _))).2
      have left := ih behind
      refine Eq.trans ?_ left
      rw [rests, List.filterMap_filterMap]
      apply List.filterMap_congr
      rintro (_ | ⟨first, rest⟩) member
      · rfl
      · have same := (List.cons_prefix_cons.mp (begin _ member (List.cons_ne_nil _ _))).1
        simp [same]

section Groups

variable {packages start : List String} {segment : String}
  (begin : ∀ path ∈ paths packages, path ≠ [] → start <+: path)

include begin

theorem segmentsAt_known :
    segmentsAt start.length (known packages) = firsts (restsAlong start (paths packages)) := by
  rw [segmentsAt, known, eraseDups_filterMap_eraseDups, List.filterMap_filter, firsts,
    ← filterMap_getElem?_length begin]
  congr 1
  apply List.filterMap_congr
  rintro (_ | ⟨first, rest⟩) _ <;> rfl

/-- A group consists of the packages that begin with its key. -/
theorem mem_groupAt_known {path : List String} :
    path ∈ groupAt start.length (known packages) segment ↔
      path ∈ paths packages ∧ start ++ [segment] <+: path := by
  rw [groupAt, List.mem_filter, mem_known, beq_iff_eq]
  constructor
  · rintro ⟨⟨member, occupied⟩, next⟩
    obtain ⟨rest, rfl⟩ := begin path member occupied
    rw [List.getElem?_append_right (Nat.le_refl _), Nat.sub_self] at next
    cases rest with
    | nil => cases next
    | cons first rest =>
        obtain rfl := Option.some.inj next
        exact ⟨member, rest, List.append_assoc _ _ _⟩
  · rintro ⟨member, rest, rfl⟩
    refine ⟨⟨member, by simp⟩, ?_⟩
    simp

theorem begin_groupAt :
    ∀ path ∈ groupAt start.length (known packages) segment, start ++ [segment] <+: path :=
  fun _ member => ((mem_groupAt_known begin).mp member).2

/-- What is left behind the key of a group is what is left for its node. -/
theorem mem_restsAlong_groupAt (rest : List String) :
    rest ∈ restsAlong (start ++ [segment]) (groupAt start.length (known packages) segment) ↔
      rest ∈ rests segment (restsAlong start (paths packages)) := by
  rw [mem_restsAlong, mem_groupAt_known begin, mem_rests, mem_restsAlong, List.append_assoc]
  exact and_iff_left ⟨rest, List.append_assoc _ _ _⟩

section Member

variable (member : segment ∈ firsts (restsAlong start (paths packages)))

include member

theorem groupAt_ne_nil : groupAt start.length (known packages) segment ≠ [] := by
  obtain ⟨rest, behind⟩ := mem_firsts.mp member
  have left := (mem_restsAlong_groupAt begin rest).mpr (mem_rests.mpr behind)
  exact List.ne_nil_of_mem (mem_restsAlong.mp left)

/-- A group has the size of its node, and one package more for each segment before it. -/
theorem extent_groupAt :
    extent (groupAt start.length (known packages) segment) =
      start.length + (grow segment (rests segment (restsAlong start (paths packages)))).size := by
  have counted := extent_add_one (groupAt start.length (known packages) segment)
  rw [card_starts_eq_add (groupAt_ne_nil begin member) (begin_groupAt begin),
    starts_congr (mem_restsAlong_groupAt begin), ← (records_grow segment _).size_eq_card,
    List.length_append, List.length_singleton, Nat.add_right_comm] at counted
  exact Nat.add_right_cancel counted

/-- What a group has in common is the way to its node and on from there. -/
theorem longestCommon_groupAt :
    longestCommon (groupAt start.length (known packages) segment) =
      start ++ (grow segment (rests segment (restsAlong start (paths packages)))).way := by
  obtain ⟨rest, behind⟩ := mem_firsts.mp member
  rw [longestCommon_eq_append (groupAt_ne_nil begin member) (begin_groupAt begin),
    longestCommon_congr (mem_restsAlong_groupAt begin),
    way_eq_longestCommon (records_grow segment _) (List.ne_nil_of_mem (mem_rests.mpr behind)),
    name_grow, List.append_assoc]
  rfl

end Member

/-- The largest group is that of the largest child. -/
theorem map_firstLargest?_groups (name : String) :
    (firstLargest? extent ((segmentsAt start.length (known packages)).map
        (groupAt start.length (known packages)))).map longestCommon =
      (largest? (grow name (restsAlong start (paths packages))).children).map fun node =>
        start ++ node.way := by
  rw [grow_eq, children, subtrees, largest?_eq_firstLargest?, segmentsAt_known begin,
    firstLargest?_map, firstLargest?_map,
    firstLargest?_congr fun segment member => extent_groupAt begin member, Option.map_map,
    Option.map_map]
  apply Option.map_congr
  intro segment found
  exact longestCommon_groupAt begin (List.mem_of_find?_eq_some found)

end Groups

/-! ## The root package -/

theorem rootOfPath_of_ne_nil {path : List String} (valid : AreSegments path)
    (occupied : path ≠ []) :
    rootOfPath path = if isCommon (join path) then none else some (join path) := by
  have named : join path ≠ "" := (join_eq_empty_iff valid).not.mpr occupied
  have other : (join path == "") = false := beq_eq_false_iff_ne.mpr named
  rw [rootOfPath, other, Bool.false_or]

/-- The root package is that of the largest group at the fork. -/
theorem rootOfPath_wayFromLargest {packages start : List String}
    (begin : ∀ path ∈ paths packages, path ≠ [] → start <+: path)
    (nowhere : rootOfPath start = none) (name : String) :
    rootOfPath (wayFromLargest start (grow name (restsAlong start (paths packages))).children) =
      rootOfGroups start.length (known packages) := by
  have groups := map_firstLargest?_groups begin name
  rw [rootOfGroups]
  cases found : largest? (grow name (restsAlong start (paths packages))).children with
  | none =>
      rw [found, Option.map_none, Option.map_eq_none_iff] at groups
      rw [groups, largest?_eq_none_iff.mp found, wayFromLargest_of_nil, nowhere, Option.bind_none]
  | some node =>
      rw [found, Option.map_some, Option.map_eq_some_iff] at groups
      obtain ⟨group, largest, common⟩ := groups
      obtain ⟨segment, member, rfl⟩ := List.mem_map.mp (List.mem_of_find?_eq_some largest)
      rw [segmentsAt_known begin] at member
      obtain ⟨path, inGroup⟩ := List.exists_mem_of_ne_nil _ (groupAt_ne_nil begin member)
      have recorded := areSegments_of_mem_paths path ((mem_groupAt_known begin).mp inGroup).1
      have front := (prefix_longestCommon_iff (groupAt_ne_nil begin member)).mp List.prefix_rfl
        path inGroup
      have valid := recorded.of_subset front.subset
      rw [largest, Option.bind_some, wayFromLargest_of_largest found, ← common]
      apply rootOfPath_of_ne_nil valid
      rw [common, way]
      exact List.append_ne_nil_of_right_ne_nil _ (List.cons_ne_nil _ _)

theorem fork_ofPackages (packages : List String) :
    (ofPackages packages).fork =
      match firsts (paths packages) with
      | [only] =>
          if isCommon only then ([only], grow only (rests only (paths packages)))
          else ([], grow "Root" (paths packages))
      | _ => ([], grow "Root" (paths packages)) := by
  have root : (ofPackages packages).root = grow "Root" (paths packages) := root_ofPackages packages
  rw [fork, root, grow_eq "Root", children, subtrees]
  rcases firsts (paths packages) with _ | ⟨only, _ | ⟨second, rest⟩⟩
  · rfl
  · simp only [List.map_cons, List.map_nil, name_grow]
  · rfl

theorem begin_nil (packages : List String) : ∀ path ∈ paths packages, path ≠ [] → [] <+: path :=
  fun _ _ _ => List.nil_prefix

/-- A common namespace has one segment. -/
theorem isCommon_of_join {segment : String} {rest : List String}
    (valid : AreSegments (segment :: rest)) (common : isCommon (join (segment :: rest)) = true) :
    isCommon segment = true := by
  have single : segments (join (segment :: rest)) = [join (segment :: rest)] := by
    generalize join (segment :: rest) = name at common ⊢
    simp only [isCommon, commonNamespaces, List.contains_iff_mem, List.mem_cons, List.not_mem_nil,
      or_false] at common
    rcases common with rfl | rfl | rfl <;> decide +kernel
  rw [segments_join valid] at single
  rwa [(List.cons.inj single).1]

section Single

variable {packages : List String} {only : String} (single : firsts (paths packages) = [only])

include single

theorem begin_of_single : ∀ path ∈ paths packages, path ≠ [] → [only] <+: path := by
  intro path member occupied
  obtain ⟨segment, rest, rfl⟩ := List.exists_cons_of_ne_nil occupied
  have first := mem_firsts.mpr ⟨rest, member⟩
  rw [single, List.mem_singleton] at first
  exact ⟨rest, first ▸ rfl⟩

theorem mem_groupAt_of_single {path : List String} :
    path ∈ groupAt 0 (known packages) only ↔ path ∈ known packages := by
  rw [mem_known]
  apply (mem_groupAt_known (begin_nil packages)).trans
  apply and_congr_right
  intro member
  constructor
  · rintro ⟨rest, rfl⟩
    exact List.cons_ne_nil _ _
  · exact begin_of_single single path member

theorem isCommon_longestCommon_of_single (own : isCommon only = false) :
    isCommon (join (longestCommon (known packages))) = false := by
  obtain ⟨rest, recorded⟩ := mem_firsts.mp (single ▸ List.mem_singleton_self only)
  have member : only :: rest ∈ known packages := mem_known.mpr ⟨recorded, List.cons_ne_nil _ _⟩
  have occupied : known packages ≠ [] := List.ne_nil_of_mem member
  have front := (prefix_longestCommon_iff occupied).mp List.prefix_rfl _ member
  have valid := (areSegments_of_mem_paths _ recorded).of_subset front.subset
  have begin (path : List String) (inKnown : path ∈ known packages) : [only] <+: path :=
    begin_of_single single path (mem_known.mp inKnown).1 (mem_known.mp inKnown).2
  rw [longestCommon_eq_cons occupied begin] at valid ⊢
  rw [Bool.eq_false_iff]
  intro common
  rw [isCommon_of_join valid common] at own
  cases own

/-- Without a choice at the top all packages are one group. -/
theorem rootOfGroups_of_single (own : isCommon only = false) :
    rootOfGroups 0 (known packages) = some (join (longestCommon (known packages))) := by
  have segments : segmentsAt 0 (known packages) = [only] :=
    (segmentsAt_known (begin_nil packages)).trans single
  have largest : firstLargest? extent [groupAt 0 (known packages) only] =
      some (groupAt 0 (known packages) only) := by
    simp [firstLargest?]
  rw [rootOfGroups, segments, List.map_singleton, largest, Option.bind_some,
    longestCommon_congr fun path => mem_groupAt_of_single single]
  exact if_neg (Bool.eq_false_iff.mp (isCommon_longestCommon_of_single single own))

end Single

/-- The root package that a tree tells is the one its names stand for. -/
theorem rootPackage?_ofPackages (packages : List String) :
    (ofPackages packages).rootPackage? = inferredRoot? packages := by
  have top := rootOfPath_wayFromLargest (begin_nil packages) rfl "Root"
  have segments : segmentsAt 0 (known packages) = firsts (paths packages) :=
    segmentsAt_known (begin_nil packages)
  rw [rootPackage?_eq, fork_ofPackages, inferredRoot?, segments]
  rcases choices : firsts (paths packages) with _ | ⟨only, _ | ⟨second, rest⟩⟩
  · apply top.trans
    rw [List.length_nil, rootOfGroups, segments, choices]
    rfl
  · simp only
    cases common : isCommon only with
    | true =>
        have begin := begin_of_single choices
        exact rootOfPath_wayFromLargest begin (rootOfPath_of_isCommon common) only
    | false => exact top.trans (rootOfGroups_of_single choices common)
  · exact top

-- Two groups are equally large, and the default package and the bare namespace are in neither.
example : inferredRoot? ["", "org", "org.x.b.c", "org.y.d", "org.y.e", "org.x.b"] =
    some "org.x.b" := by
  decide +kernel

end PackageTree

end LibPrint
