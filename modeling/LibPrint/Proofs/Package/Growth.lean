import LibPrint.Proofs.Package.Walking
import LibPrint.Proofs.Sorting
import Mathlib.Algebra.BigOperators.Group.Finset.Basic

/-!
# How a package tree grows

A tree grown from a list of paths is known completely: its children are the trees grown from what is
left behind each first segment, in the order in which these segments came first. It has one node for
each path that a recorded one begins with.
-/

namespace LibPrint

namespace PackageNode

variable {name segment : String} {paths : List (List String)}

/-- The node of the given name that has recorded the paths one after another. -/
def grow (name : String) (paths : List (List String)) : PackageNode :=
  paths.foldl (fun node path => node.count path) (fresh name)

/-- The different first segments of paths, in the order in which they came first. -/
def firsts (paths : List (List String)) : List String :=
  (paths.filterMap List.head?).eraseDups

theorem records_grow (name : String) (paths : List (List String)) :
    (grow name paths).Records paths := by
  have records := PackageTree.records_foldl_count (records_fresh name) paths
  rwa [List.append_nil] at records

theorem grow_concat (name : String) (paths : List (List String)) (path : List String) :
    grow name (paths ++ [path]) = (grow name paths).count path := by
  rw [grow, List.foldl_append]
  rfl

@[simp] theorem name_grow (name : String) (paths : List (List String)) :
    (grow name paths).name = name := by
  induction paths using List.reverseRecOn with
  | nil => rfl
  | append_singleton paths path ih => rw [grow_concat, name_count, ih]

theorem mem_firsts : segment ∈ firsts paths ↔ ∃ rest, segment :: rest ∈ paths := by
  rw [firsts, List.mem_eraseDups, List.mem_filterMap]
  constructor
  · rintro ⟨path, member, first⟩
    obtain ⟨rest, rfl⟩ := List.head?_eq_some_iff.mp first
    exact ⟨rest, member⟩
  · rintro ⟨rest, member⟩
    exact ⟨_, member, rfl⟩

theorem firsts_concat_nil (paths : List (List String)) : firsts (paths ++ [[]]) = firsts paths := by
  have nothing : [[]].filterMap (List.head? (α := String)) = [] := rfl
  rw [firsts, List.filterMap_append, nothing, List.append_nil]
  rfl

theorem firsts_concat_cons (segment : String) (rest : List String) (paths : List (List String)) :
    firsts (paths ++ [segment :: rest]) =
      if segment ∈ firsts paths then firsts paths else firsts paths ++ [segment] := by
  have last : [segment :: rest].filterMap List.head? = [segment] := rfl
  rw [firsts, List.filterMap_append, last, eraseDups_concat]
  exact if_congr List.mem_eraseDups.symm rfl rfl

theorem rests_concat_nil (segment : String) (paths : List (List String)) :
    rests segment (paths ++ [[]]) = rests segment paths := by
  rw [rests, List.filterMap_append]
  exact List.append_nil _

theorem rests_concat_cons (segment other : String) (rest : List String)
    (paths : List (List String)) :
    rests segment (paths ++ [other :: rest]) =
      if other = segment then rests segment paths ++ [rest] else rests segment paths := by
  rw [rests, List.filterMap_append]
  by_cases same : other = segment <;> simp [same, rests]

/-- The nodes grown from what is left behind each first segment. -/
def subtrees (paths : List (List String)) : List PackageNode :=
  (firsts paths).map fun segment => grow segment (rests segment paths)

theorem names_subtrees (paths : List (List String)) :
    (subtrees paths).map PackageNode.name = firsts paths := by
  rw [subtrees, List.map_map]
  exact (List.map_congr_left fun segment _ => name_grow segment _).trans (List.map_id _)

theorem nodup_names_subtrees (paths : List (List String)) :
    ((subtrees paths).map PackageNode.name).Nodup := by
  rw [names_subtrees]
  exact nodup_eraseDups _

theorem subtrees_concat_nil (paths : List (List String)) :
    subtrees (paths ++ [[]]) = subtrees paths := by
  simp only [subtrees, firsts_concat_nil, rests_concat_nil]

/-- A path that begins with a segment seen before changes the node grown behind that one. -/
theorem subtrees_concat_of_mem (present : segment ∈ firsts paths) (rest : List String) :
    subtrees (paths ++ [segment :: rest]) =
      (subtrees paths).map fun node => if node.name = segment then node.count rest else node := by
  rw [subtrees, firsts_concat_cons, if_pos present, subtrees, List.map_map]
  apply List.map_congr_left
  intro other _
  rw [Function.comp, name_grow, rests_concat_cons]
  by_cases same : segment = other
  · rw [if_pos same, if_pos same.symm, grow_concat]
  · rw [if_neg same, if_neg (Ne.symm same)]

/-- A path that begins with a new segment adds a node behind the others. -/
theorem subtrees_concat_of_not_mem (absent : segment ∉ firsts paths) (rest : List String) :
    subtrees (paths ++ [segment :: rest]) =
      subtrees paths ++ [(fresh segment).count rest] := by
  have nothing : rests segment paths = [] := by
    rw [List.eq_nil_iff_forall_not_mem]
    intro left member
    exact absent (mem_firsts.mpr ⟨left, mem_rests.mp member⟩)
  rw [subtrees, firsts_concat_cons, if_neg absent, List.map_append, List.map_singleton,
    rests_concat_cons, if_pos rfl, nothing]
  congr 1
  apply List.map_congr_left
  intro other member
  rw [rests_concat_cons, if_neg]
  rintro rfl
  exact absent member

/-- What a tree grown from paths looks like. -/
theorem grow_eq (name : String) (paths : List (List String)) :
    grow name paths = .mk name (paths.count []) (subtrees paths) := by
  induction paths using List.reverseRecOn with
  | nil => rfl
  | append_singleton paths path ih =>
      rw [grow_concat, ih]
      cases path with
      | nil =>
          rw [subtrees_concat_nil, List.count_append]
          rfl
      | cons segment rest =>
          have own : (paths ++ [segment :: rest]).count [] = paths.count [] := by
            rw [List.count_append, List.count_singleton]
            rfl
          rw [own]
          have names := names_subtrees paths
          by_cases present : segment ∈ firsts paths
          · rw [subtrees_concat_of_mem present,
              PackageNode.count_of_mem (nodup_names_subtrees paths) (names ▸ present)]
          · rw [subtrees_concat_of_not_mem present, PackageNode.count_of_not_mem (names ▸ present)]

/-! ## Size -/

/-- The paths that lead to nodes: what the recorded ones begin with. -/
def starts (paths : List (List String)) : Finset (List String) :=
  insert [] (paths.flatMap List.inits).toFinset

theorem mem_starts {way : List String} {paths : List (List String)} :
    way ∈ starts paths ↔ way = [] ∨ ∃ path ∈ paths, way <+: path := by
  simp [starts]

theorem cons_mem_starts {segment : String} {way : List String} {paths : List (List String)} :
    segment :: way ∈ starts paths ↔
      (∃ rest, segment :: rest ∈ paths) ∧ way ∈ starts (rests segment paths) := by
  rw [mem_starts, mem_starts]
  constructor
  · rintro (impossible | ⟨path, member, rest, rfl⟩)
    · cases impossible
    · exact ⟨⟨_, member⟩, .inr ⟨way ++ rest, mem_rests.mpr member, List.prefix_append way rest⟩⟩
  · rintro ⟨⟨first, begun⟩, rfl | ⟨path, member, start⟩⟩
    · exact .inr ⟨_, begun, List.cons_prefix_cons.mpr ⟨rfl, List.nil_prefix⟩⟩
    · exact .inr ⟨_, mem_rests.mp member, List.cons_prefix_cons.mpr ⟨rfl, start⟩⟩

theorem starts_congr {left right : List (List String)}
    (same : ∀ path, path ∈ left ↔ path ∈ right) : starts left = starts right := by
  ext way
  simp only [mem_starts, same]

/-- The paths that lead to nodes behind a segment. -/
def startsBehind (segment : String) (paths : List (List String)) : Finset (List String) :=
  (starts (rests segment paths)).image (segment :: ·)

theorem cons_mem_startsBehind {other : String} {way : List String} :
    other :: way ∈ startsBehind segment paths ↔
      other = segment ∧ way ∈ starts (rests segment paths) := by
  simp only [startsBehind, Finset.mem_image, List.cons.injEq]
  constructor
  · rintro ⟨_, behind, rfl, rfl⟩
    exact ⟨rfl, behind⟩
  · rintro ⟨rfl, behind⟩
    exact ⟨way, behind, rfl, rfl⟩

theorem nil_not_mem_startsBehind : [] ∉ startsBehind segment paths := by
  simp [startsBehind]

section Segments

variable {names : Finset String}
  (begun : ∀ segment, segment ∈ names ↔ ∃ rest, segment :: rest ∈ paths)

include begun

theorem starts_eq_insert :
    starts paths = insert [] (names.biUnion fun segment => startsBehind segment paths) := by
  ext way
  rw [Finset.mem_insert, Finset.mem_biUnion]
  cases way with
  | nil => simp [mem_starts]
  | cons segment way =>
      simp only [reduceCtorEq, false_or, cons_mem_starts, cons_mem_startsBehind, begun]
      constructor
      · rintro ⟨first, behind⟩
        exact ⟨segment, first, rfl, behind⟩
      · rintro ⟨_, first, rfl, behind⟩
        exact ⟨first, behind⟩

/-- Each first segment has the paths behind it for itself. -/
theorem card_starts :
    (starts paths).card = (∑ segment ∈ names, (starts (rests segment paths)).card) + 1 := by
  have apart : (names : Set String).PairwiseDisjoint fun segment => startsBehind segment paths := by
    intro first _ second _ different
    rw [Function.onFun, Finset.disjoint_left]
    rintro (_ | ⟨segment, way⟩) inFirst inSecond
    · exact nil_not_mem_startsBehind inFirst
    · obtain ⟨rfl, -⟩ := cons_mem_startsBehind.mp inFirst
      exact different (cons_mem_startsBehind.mp inSecond).1
  have outside : [] ∉ names.biUnion fun segment => startsBehind segment paths := by
    simp [nil_not_mem_startsBehind]
  rw [starts_eq_insert begun, Finset.card_insert_of_notMem outside, Finset.card_biUnion apart]
  congr 1
  apply Finset.sum_congr rfl
  intro segment _
  exact Finset.card_image_of_injective _ List.cons_injective

end Segments

/-- There is one node for each path that recorded ones begin with. -/
theorem Records.size_eq_card {node : PackageNode} (records : node.Records paths) :
    node.size = (starts paths).card := by
  induction records with
  | @mk name classCount children paths classes nodup segments subtrees ih =>
      have begun (segment : String) :
          segment ∈ (children.map PackageNode.name).toFinset ↔ ∃ rest, segment :: rest ∈ paths := by
        rw [List.mem_toFinset, segments]
      rw [PackageNode.size_eq, PackageNode.children, card_starts begun, List.sum_toFinset _ nodup,
        List.map_map, List.map_congr_left ih]
      rfl

end PackageNode

end LibPrint
