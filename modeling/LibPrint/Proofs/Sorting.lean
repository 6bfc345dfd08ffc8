import LibPrint.Text.Basic
import Mathlib.Data.List.Destutter
import Mathlib.Data.List.Forall2
import Mathlib.Data.List.Induction

/-!
# Sorted lists and lists side by side

What sorting by a lawful comparison gives: the result does not depend on the order of the items as
far as items that compare equal are equal, and in a sorted list the runs of equal items are all
repetitions there are. Erasing all repetitions of an unsorted list keeps what came first. Lists that
are related item by item have their members related, and a list is decoded item by item into one
that is related to it in this way.
-/

namespace LibPrint

section Comparison

variable {α : Type} (cmp : α → α → Ordering) [Std.TransCmp cmp]

theorem isLE_total (first second : α) :
    ((cmp first second).isLE || (cmp second first).isLE) = true := by
  have swapped : cmp second first = (cmp first second).swap := Std.OrientedCmp.eq_swap
  rw [swapped]
  cases cmp first second <;> rfl

theorem isLE_trans (first second third : α) (below : (cmp first second).isLE = true)
    (above : (cmp second third).isLE = true) : (cmp first third).isLE = true :=
  Std.TransCmp.isLE_trans below above

/-- A list sorted by a lawful comparison ascends. -/
theorem pairwise_mergeSort_isLE (items : List α) :
    (items.mergeSort fun left right => (cmp left right).isLE).Pairwise
      fun left right => (cmp left right).isLE = true :=
  List.pairwise_mergeSort (isLE_trans cmp) (isLE_total cmp) items

/-- Sorting does not see the order of the items when those that compare equal are equal. -/
theorem mergeSort_eq_of_perm {left right : List α} (perm : left.Perm right)
    (ties : ∀ first ∈ left, ∀ second ∈ left, cmp first second = .eq → first = second) :
    (left.mergeSort fun first second => (cmp first second).isLE) =
      right.mergeSort fun first second => (cmp first second).isLE := by
  apply List.Perm.eq_of_pairwise
  · intro first second firstMem secondMem below above
    apply ties first (List.mem_mergeSort.mp firstMem) second
    · exact perm.mem_iff.mpr (List.mem_mergeSort.mp secondMem)
    · exact Std.OrientedCmp.isLE_antisymm below above
  · exact pairwise_mergeSort_isLE cmp left
  · exact pairwise_mergeSort_isLE cmp right
  · exact (List.mergeSort_perm left _).trans (perm.trans (List.mergeSort_perm right _).symm)

/-- Sorting keeps items of which none comes before another in the order they are in. -/
theorem filter_mergeSort {items : List α} {keep : α → Bool}
    (tied : ∀ first ∈ items, ∀ second ∈ items, keep first = true → keep second = true →
      (cmp first second).isLE = true) :
    (items.mergeSort fun first second => (cmp first second).isLE).filter keep =
      items.filter keep := by
  have ordered : (items.filter keep).Pairwise fun first second =>
      (cmp first second).isLE = true := by
    apply List.pairwise_of_forall_mem_list
    intro first firstMem second secondMem
    obtain ⟨firstMem, firstKept⟩ := List.mem_filter.mp firstMem
    obtain ⟨secondMem, secondKept⟩ := List.mem_filter.mp secondMem
    exact tied first firstMem second secondMem firstKept secondKept
  have within : (items.filter keep).Sublist
      (items.mergeSort fun first second => (cmp first second).isLE) :=
    List.sublist_mergeSort (isLE_trans cmp) (isLE_total cmp) ordered List.filter_sublist
  have kept := within.filter keep
  simp only [List.filter_filter, Bool.and_self] at kept
  have sorted := List.mergeSort_perm items fun first second => (cmp first second).isLE
  exact (kept.eq_of_length (sorted.filter keep).length_eq.symm).symm

/-- Items are sorted among themselves as they are among others when those that compare equal are
equal. -/
theorem mergeSort_filter (keep : α → Bool) {items : List α}
    (ties : ∀ first ∈ items, ∀ second ∈ items, cmp first second = .eq → first = second) :
    ((items.filter keep).mergeSort fun first second => (cmp first second).isLE) =
      (items.mergeSort fun first second => (cmp first second).isLE).filter keep := by
  have ascends := (pairwise_mergeSort_isLE cmp items).filter keep
  have perm := (List.mergeSort_perm items fun first second => (cmp first second).isLE).filter keep
  rw [← List.mergeSort_of_pairwise ascends]
  apply mergeSort_eq_of_perm cmp perm.symm
  intro first firstMem second secondMem equal
  exact ties first (List.mem_filter.mp firstMem).1 second (List.mem_filter.mp secondMem).1 equal

end Comparison

/-! ## Runs -/

section Runs

variable {α : Type}

private theorem eraseRepsBy_loop (same : α → α → Bool) (head : α) (items seen : List α) :
    List.eraseRepsBy.loop same head items seen =
      seen.reverse ++ List.destutter' (fun left right => same left right = false) head items := by
  induction items generalizing head seen with
  | nil => simp [List.eraseRepsBy.loop]
  | cons item items ih =>
      rw [List.eraseRepsBy.loop]
      cases equal : same head item with
      | true =>
          rw [List.destutter'_cons, if_neg (by simp [equal])]
          exact ih head seen
      | false =>
          rw [List.destutter'_cons, if_pos equal]
          simp only [ih item (head :: seen), List.reverse_cons, List.append_assoc,
            List.singleton_append]

/-- Erasing repetitions is the greedy choice of a list in which neighbours differ. -/
theorem eraseRepsBy_eq_destutter (same : α → α → Bool) (items : List α) :
    items.eraseRepsBy same =
      items.destutter fun left right => same left right = false := by
  cases items with
  | nil => rfl
  | cons head items => exact eraseRepsBy_loop same head items []

theorem eraseRepsBy_eraseRepsBy (same : α → α → Bool) (items : List α) :
    (items.eraseRepsBy same).eraseRepsBy same = items.eraseRepsBy same := by
  rw [eraseRepsBy_eq_destutter, eraseRepsBy_eq_destutter, List.destutter_idem]

theorem eraseReps_eq_destutter [DecidableEq α] (items : List α) :
    items.eraseReps = items.destutter (· ≠ ·) := by
  rw [List.eraseReps, eraseRepsBy_eq_destutter]
  congr 1
  funext left right
  simp

/-- In a list sorted by a linear order no repetition is left once the runs are erased. -/
theorem eraseReps_eq_dedup [DecidableEq α] {cmp : α → α → Ordering} [Std.TransCmp cmp]
    [Std.LawfulEqCmp cmp] {items : List α}
    (sorted : items.Pairwise fun left right => (cmp left right).isLE = true) :
    items.eraseReps = items.dedup := by
  rw [eraseReps_eq_destutter]
  have antisymm : Std.Antisymm fun left right => (cmp left right).isLE = true :=
    ⟨fun _ _ below above =>
      Std.LawfulEqCmp.eq_of_compare (Std.OrientedCmp.isLE_antisymm below above)⟩
  exact sorted.destutter_eq_dedup

private theorem exists_mem_destutter' {same : α → α → Bool} {before : α → α → Prop}
    (refl : ∀ item, before item item) (alike : ∀ item, same item item = true) {head : α}
    {items : List α} (sorted : (head :: items).Pairwise before) :
    ∀ item ∈ head :: items,
      ∃ kept ∈ items.destutter' (fun left right => same left right = false) head,
        same kept item = true ∧ before kept item := by
  induction items generalizing head with
  | nil =>
      intro item member
      rw [List.mem_singleton.mp member]
      exact ⟨head, List.mem_destutter' _ _ head, alike head, refl head⟩
  | cons next items ih =>
      intro item member
      have headKept : head ∈
          (next :: items).destutter' (fun left right => same left right = false) head :=
        List.mem_destutter' _ _ head
      rcases List.mem_cons.mp member with rfl | member
      · exact ⟨item, headKept, alike item, refl item⟩
      · cases repeated : same head next with
        | true =>
            rcases List.mem_cons.mp member with rfl | member
            · exact ⟨head, headKept, repeated, List.rel_of_pairwise_cons sorted member⟩
            · rw [List.destutter'_cons_neg _ (by simp [repeated])]
              have others : (head :: items).Pairwise before :=
                sorted.sublist ((List.sublist_cons_self next items).cons_cons head)
              exact ih others item (List.mem_cons_of_mem _ member)
        | false =>
            rw [List.destutter'_cons, if_pos repeated]
            obtain ⟨kept, keptMem, found⟩ := ih sorted.of_cons item member
            exact ⟨kept, List.mem_cons_of_mem _ keptMem, found⟩

/-- Erasing the repetitions in a sorted list keeps something for each of its items that does not
come after it. -/
theorem exists_mem_eraseRepsBy (same : α → α → Bool) {before : α → α → Prop}
    (refl : ∀ item, before item item) (alike : ∀ item, same item item = true) {items : List α}
    (sorted : items.Pairwise before) {item : α} (member : item ∈ items) :
    ∃ kept ∈ items.eraseRepsBy same, same kept item = true ∧ before kept item := by
  rw [eraseRepsBy_eq_destutter]
  cases items with
  | nil => cases member
  | cons head items => exact exists_mem_destutter' refl alike sorted item member

end Runs

/-! ## First occurrences -/

section FirstOccurrences

variable {α β : Type} [BEq α] [LawfulBEq α] [BEq β] [LawfulBEq β]

/-- An item that was seen before stays where it is, and a new one comes last. -/
theorem eraseDups_concat (items : List α) (item : α) :
    (items ++ [item]).eraseDups =
      if item ∈ items then items.eraseDups else items.eraseDups ++ [item] := by
  rw [List.eraseDups_append, List.removeAll, List.filter_singleton]
  by_cases seen : item ∈ items
  · rw [if_pos seen, List.elem_iff.mpr seen]
    exact List.append_nil _
  · rw [if_neg seen, Bool.eq_false_iff.mpr (mt List.elem_iff.mp seen)]
    rfl

theorem nodup_eraseDups (items : List α) : items.eraseDups.Nodup := by
  induction items using List.reverseRecOn with
  | nil => exact List.nodup_nil
  | append_singleton items item ih =>
      rw [eraseDups_concat]
      split
      · exact ih
      · next absent =>
        rw [← List.concat_eq_append]
        exact ih.concat (mt List.mem_eraseDups.mp absent)

/-- The first occurrences of what items are turned into are told by the first occurrences of the
items. -/
theorem eraseDups_filterMap_eraseDups (image : α → Option β) (items : List α) :
    (items.eraseDups.filterMap image).eraseDups = (items.filterMap image).eraseDups := by
  induction items using List.reverseRecOn with
  | nil => rfl
  | append_singleton items item ih =>
      have last : [item].filterMap image = (image item).toList := by
        cases found : image item <;> simp [found]
      rw [eraseDups_concat, List.filterMap_append, last]
      by_cases seen : item ∈ items
      · rw [if_pos seen, ih]
        cases found : image item with
        | none => rw [Option.toList_none, List.append_nil]
        | some other =>
            have twice : other ∈ items.filterMap image :=
              List.mem_filterMap.mpr ⟨item, seen, found⟩
            rw [Option.toList_some, eraseDups_concat, if_pos twice]
      · rw [if_neg seen, List.filterMap_append, last]
        cases image item with
        | none => rw [Option.toList_none, List.append_nil, List.append_nil, ih]
        | some other =>
            have alike :
                other ∈ items.eraseDups.filterMap image ↔ other ∈ items.filterMap image := by
              simp only [List.mem_filterMap, List.mem_eraseDups]
            rw [Option.toList_some, eraseDups_concat, eraseDups_concat, ih]
            exact if_congr alike rfl rfl

end FirstOccurrences

/-! ## Texts -/

namespace Text

theorem pairwise_sort (texts : List String) :
    (sort texts).Pairwise fun left right => (compare left right).isLE = true :=
  pairwise_mergeSort_isLE compare texts

theorem sort_eq_of_perm {left right : List String} (perm : left.Perm right) :
    sort left = sort right :=
  mergeSort_eq_of_perm compare perm fun _ _ _ _ equal => Std.LawfulEqCmp.eq_of_compare equal

theorem sortDistinct_eq_of_perm {left right : List String} (perm : left.Perm right) :
    sortDistinct left = sortDistinct right := by
  rw [sortDistinct, sortDistinct, sort_eq_of_perm perm]

theorem sortDistinct_eq_dedup (texts : List String) :
    sortDistinct texts = (sort texts).dedup :=
  eraseReps_eq_dedup (pairwise_sort texts)

theorem nodup_sortDistinct (texts : List String) : (sortDistinct texts).Nodup := by
  rw [sortDistinct_eq_dedup]
  exact List.nodup_dedup _

@[simp] theorem mem_sortDistinct {text : String} {texts : List String} :
    text ∈ sortDistinct texts ↔ text ∈ texts := by
  rw [sortDistinct_eq_dedup, List.mem_dedup, sort, List.mem_mergeSort]

/-- Different texts in order ascend strictly. -/
theorem pairwise_sortDistinct (texts : List String) : (sortDistinct texts).Pairwise (· < ·) := by
  have ascending : (sortDistinct texts).Pairwise fun left right =>
      (compare left right).isLE = true := by
    rw [sortDistinct_eq_dedup]
    exact (pairwise_sort texts).sublist (List.dedup_sublist _)
  apply (ascending.and (nodup_sortDistinct texts)).imp
  rintro left right ⟨below, different⟩
  cases order : compare left right with
  | lt => exact compareOfLessAndEq_eq_lt.mp order
  | eq => exact absurd (Std.LawfulEqCmp.eq_of_compare order) different
  | gt => simp [order] at below

@[simp] theorem sortDistinct_singleton (text : String) : sortDistinct [text] = [text] := by
  rw [sortDistinct, sort, List.mergeSort_singleton]
  rfl

/-- Entries that are sorted by their keys, of which one is kept for each key, have all keys there
are. -/
theorem map_fst_eraseRepsBy {α : Type} (entries : List (String × α)) :
    ((entries.mergeSort fun left right => le left.1 right.1).eraseRepsBy fun left right =>
      left.1 == right.1).map Prod.fst = sortDistinct (entries.map Prod.fst) := by
  have keys : (entries.mergeSort fun left right => le left.1 right.1).map Prod.fst =
      sort (entries.map Prod.fst) :=
    List.map_mergeSort fun _ _ _ _ => rfl
  rw [sortDistinct, ← keys, eraseRepsBy_eq_destutter, eraseReps_eq_destutter]
  apply List.map_destutter
  intro left _ right _
  simp

/-- Items in the strict order of their keys are determined by their members. -/
theorem eq_of_ascending {α : Type} (key : α → String) {left right : List α}
    (leftAscends : left.Pairwise fun first second => key first < key second)
    (rightAscends : right.Pairwise fun first second => key first < key second)
    (same : ∀ item, item ∈ left ↔ item ∈ right) : left = right := by
  have distinct {items : List α}
      (ascends : items.Pairwise fun first second => key first < key second) : items.Nodup := by
    apply ascends.imp
    rintro first _ below rfl
    exact String.lt_irrefl _ below
  have perm := (List.perm_ext_iff_of_nodup (distinct leftAscends) (distinct rightAscends)).mpr same
  refine perm.eq_of_pairwise ?_ leftAscends rightAscends
  intro first second _ _ below above
  exact absurd above (String.lt_asymm below)

theorem sortDistinct_filter (keep : String → Bool) (texts : List String) :
    sortDistinct (texts.filter keep) = (sortDistinct texts).filter keep := by
  apply eq_of_ascending id (pairwise_sortDistinct _) ((pairwise_sortDistinct texts).filter keep)
  intro text
  rw [mem_sortDistinct, List.mem_filter, List.mem_filter, mem_sortDistinct]

theorem sortDistinct_eq_nil_iff {texts : List String} : sortDistinct texts = [] ↔ texts = [] := by
  simp only [List.eq_nil_iff_forall_not_mem, mem_sortDistinct]

end Text

/-! ## Lists side by side -/

theorem exists_mem_right_of_forall₂ {α β : Type} {related : α → β → Prop} {left : List α}
    {right : List β} (paired : List.Forall₂ related left right) {item : α} (member : item ∈ left) :
    ∃ other ∈ right, related item other := by
  induction paired with
  | nil => simp at member
  | @cons first second left right head _ ih =>
      rcases List.mem_cons.mp member with rfl | member
      · exact ⟨second, List.mem_cons_self, head⟩
      · obtain ⟨other, otherMem, pair⟩ := ih member
        exact ⟨other, List.mem_cons_of_mem _ otherMem, pair⟩

theorem exists_mem_left_of_forall₂ {α β : Type} {related : α → β → Prop} {left : List α}
    {right : List β} (paired : List.Forall₂ related left right) {other : β}
    (member : other ∈ right) : ∃ item ∈ left, related item other :=
  exists_mem_right_of_forall₂ paired.flip member

/-- Lists related item by item are the two halves of a list of related pairs. -/
theorem exists_pairs_of_forall₂ {α β : Type} {related : α → β → Prop} {left : List α}
    {right : List β} (paired : List.Forall₂ related left right) :
    ∃ pairs : List (α × β), pairs.map Prod.fst = left ∧ pairs.map Prod.snd = right ∧
      ∀ pair ∈ pairs, related pair.1 pair.2 := by
  obtain ⟨lengths, members⟩ := List.forall₂_iff_zip.mp paired
  refine ⟨left.zip right, ?_, ?_, fun pair member => members member⟩
  · rw [List.map_fst_zip (Nat.le_of_eq lengths)]
  · rw [List.map_snd_zip (Nat.le_of_eq lengths.symm)]

/-- Items related by position are members of the first list as well. -/
theorem forall₂_and_mem {α β : Type} {related : α → β → Prop} {left : List α} {right : List β}
    (paired : List.Forall₂ related left right) :
    List.Forall₂ (fun item other => item ∈ left ∧ related item other) left right := by
  obtain ⟨lengths, members⟩ := List.forall₂_iff_zip.mp paired
  exact List.forall₂_iff_zip.mpr
    ⟨lengths, fun member => ⟨(List.of_mem_zip member).1, members member⟩⟩

theorem map_eq_map_of_forall₂ {α β γ : Type} {related : α → β → Prop} {left : List α}
    {right : List β} (paired : List.Forall₂ related left right) {image : α → γ} {other : β → γ}
    (agree : ∀ first second, related first second → image first = other second) :
    left.map image = right.map other := by
  induction paired with
  | nil => rfl
  | cons head _ ih => rw [List.map_cons, List.map_cons, agree _ _ head, ih]

/-- A list is decoded when each of its items is. -/
theorem mapM_eq_some_iff {α β : Type} {decode : α → Option β} {items : List α} {results : List β} :
    items.mapM decode = some results ↔
      List.Forall₂ (fun item result => decode item = some result) items results := by
  induction items generalizing results with
  | nil => cases results <;> simp
  | cons item items ih =>
      cases results <;>
        simp [List.mapM_cons, Option.bind_eq_some_iff, ih]

theorem mapM_eq_none_of_mem {α β : Type} {decode : α → Option β} {items : List α} {item : α}
    (member : item ∈ items) (refused : decode item = none) : items.mapM decode = none := by
  rw [Option.eq_none_iff_forall_not_mem]
  intro results decoded
  obtain ⟨result, -, found⟩ := exists_mem_right_of_forall₂ (mapM_eq_some_iff.mp decoded) member
  rw [refused] at found
  cases found

end LibPrint
