import LibPrint.Proofs.Matching.Optimum
import Mathlib.Data.List.Iterate
import Mathlib.Logic.Function.Iterate

/-!
# Trying every combination

The alignment tries combinations only when there are not too many, and then it tries all of them:
the counters of its run are numbered 0, 1, 2 and so on, so they are every counter once, in
lexicographic order, and the last step leads back to zeros. The number of combinations is told as
long as it fits into 64 bits, which is far above the number that is refused.
-/

namespace LibPrint.Matching

open Package (Relationship)

/-- The counter behind a counter; zeros come behind the last one. -/
def next (sizes counter : List Nat) : List Nat :=
  (advance sizes counter).1

/-- Every counter once, in lexicographic order. -/
structure Enumerates (sizes : List Nat) (counters : List (List Nat)) : Prop where
  mem_iff : ∀ counter, counter ∈ counters ↔ Counts sizes counter
  nodup : counters.Nodup
  ascends : counters.Pairwise (List.Lex (· < ·))

variable {sizes counter : List Nat}

/-! ## The counters of a run -/

theorem volume_eq_prod (sizes : List Nat) : volume sizes = (sizes.map (max 1)).prod := by
  induction sizes with
  | nil => rfl
  | cons size sizes ih => rw [volume, ih, List.map_cons, List.prod_cons]

/-- A counter that is not the last one is followed by the next number. -/
theorem place_next (counts : Counts sizes counter) (more : place sizes counter + 1 < volume sizes) :
    place sizes (next sizes counter) = place sizes counter + 1 := by
  have advances := advances_advance counts
  apply advances.forth
  rw [← Bool.not_eq_true]
  intro carries
  exact Nat.ne_of_lt more (advances.last carries)

theorem next_of_last (counts : Counts sizes counter)
    (last : place sizes counter + 1 = volume sizes) :
    next sizes counter = sizes.map fun _ => 0 := by
  have advances := advances_advance counts
  apply advances.back
  rw [← Bool.not_eq_false]
  intro within
  have below := place_lt advances.counts
  rw [advances.forth within, last] at below
  exact Nat.lt_irrefl _ below

/-- After as many steps from zeros as a number says, the counter is the one of that number. -/
theorem counts_and_place_iterate {steps : Nat} (few : steps < volume sizes) :
    Counts sizes ((next sizes)^[steps] (sizes.map fun _ => 0)) ∧
      place sizes ((next sizes)^[steps] (sizes.map fun _ => 0)) = steps := by
  induction steps with
  | zero => exact ⟨counts_zeros sizes, place_zeros sizes⟩
  | succ steps ih =>
      obtain ⟨counts, number⟩ := ih (Nat.lt_of_succ_lt few)
      rw [Function.iterate_succ_apply']
      refine ⟨(advances_advance counts).counts, ?_⟩
      rw [place_next counts (by omega), number]

/-- A full turn leads back to zeros. -/
theorem iterate_next_volume (sizes : List Nat) :
    (next sizes)^[volume sizes] (sizes.map fun _ => 0) = sizes.map fun _ => 0 := by
  obtain ⟨steps, total⟩ : ∃ steps, volume sizes = steps + 1 :=
    Nat.exists_eq_succ_of_ne_zero (Nat.ne_zero_of_lt (place_lt (counts_zeros sizes)))
  have last : steps < volume sizes := Nat.lt_of_succ_le (Nat.le_of_eq total.symm)
  obtain ⟨counts, number⟩ := counts_and_place_iterate last
  rw [total, Function.iterate_succ_apply']
  exact next_of_last counts (by omega)

/-- The counters of a full turn are all there are. -/
theorem enumerates_iterate (sizes : List Nat) :
    Enumerates sizes (List.iterate (next sizes) (sizes.map fun _ => 0) (volume sizes)) := by
  have ascends : (List.iterate (next sizes) (sizes.map fun _ => 0) (volume sizes)).Pairwise
      (List.Lex (· < ·)) := by
    rw [← List.range_map_iterate, List.pairwise_map]
    apply List.pairwise_lt_range.imp_of_mem
    intro first second firstMem secondMem before
    obtain ⟨firstCounts, firstNumber⟩ := counts_and_place_iterate (List.mem_range.mp firstMem)
    obtain ⟨secondCounts, secondNumber⟩ := counts_and_place_iterate (List.mem_range.mp secondMem)
    rw [lex_iff_place_lt firstCounts secondCounts, firstNumber, secondNumber]
    exact before
  refine ⟨fun counter => ?_, ?_, ascends⟩
  · rw [List.mem_iterate]
    constructor
    · rintro ⟨steps, few, rfl⟩
      exact (counts_and_place_iterate few).1
    · intro counts
      -- A counter is reached after as many steps as its own number says.
      obtain ⟨others, number⟩ := counts_and_place_iterate (place_lt counts)
      exact ⟨place sizes counter, place_lt counts, eq_of_place_eq counts others number.symm⟩
  · apply ascends.imp
    rintro counter _ before rfl
    exact List.lex_irrefl Nat.lt_irrefl counter before

/-- A run challenges its leader with one counter after the other. -/
theorem run_eq_foldl (lists : List (List Candidate)) (relationships : List Relationship)
    (sizes : List Nat) (remaining : Nat) (counter : List Nat) (leader : Leader) :
    Leader.run lists relationships sizes remaining counter leader =
      (List.iterate (next sizes) counter remaining).foldl (Leader.challenge lists relationships)
        leader := by
  induction remaining generalizing counter leader with
  | zero => rfl
  | succ remaining ih =>
      rw [Leader.run, ih, List.iterate, List.foldl_cons]
      rfl

/-! ## The ceiling -/

variable {lists : List (List Candidate)}

theorem volume_lengths (lists : List (List Candidate)) :
    volume (lists.map List.length) = (lists.map fun list => max 1 list.length).prod := by
  rw [volume_eq_prod, List.map_map]
  rfl

theorem outcome_ne_tooMany (leader : Leader) (told : Nat) :
    leader.outcome lists ≠ .tooMany told := by
  intro isTold
  rw [Leader.outcome] at isTold
  split at isTold
  · cases isTold
  · cases isTold

/-- An alignment is refused exactly when there are more than 65536 combinations, and then it tells
how many, up to what 64 bits can hold. Otherwise it is what a leader comes to that is challenged
with every counter once, in lexicographic order, and the counter is back at zeros then. -/
theorem align_tries_all (relationships : List Relationship) (nonempty : lists ≠ []) :
    let sizes := lists.map List.length
    let total := (lists.map fun list => max 1 list.length).prod
    let zeros := lists.map fun _ => 0
    let tried := List.iterate (next sizes) zeros total
    ((∃ told, align lists relationships = .tooMany told) ↔ 65536 < total) ∧
    (∀ told, align lists relationships = .tooMany told → told = min total (2 ^ 64 - 1)) ∧
    (total ≤ 65536 →
      align lists relationships =
          (tried.foldl (Leader.challenge lists relationships) ⟨minPartial, none⟩).outcome lists ∧
        tried.length = total ∧ Enumerates sizes tried ∧ (next sizes)^[total] zeros = zeros) := by
  intro sizes total zeros tried
  have volumes : volume sizes = total := volume_lengths lists
  have origin : zeros = sizes.map fun _ => 0 := by
    rw [List.map_map]
    rfl
  have count : combinationCount lists = min (2 ^ 64 - 1) total := by
    rw [← volumes]
    exact combinationCount_eq lists
  have ceiling : maxCombinations = 65536 := rfl
  have refused (many : 65536 < total) :
      align lists relationships = .tooMany (min total (2 ^ 64 - 1)) := by
    rw [Nat.min_comm, ← count]
    exact align_of_many relationships nonempty (by omega)
  have accepted (few : total ≤ 65536) : align lists relationships =
      (tried.foldl (Leader.challenge lists relationships) ⟨minPartial, none⟩).outcome lists := by
    have all : combinationCount lists = total := by omega
    rw [align_of_few relationships nonempty (by omega), run_eq_foldl, all, ← origin]
  have told_iff (told : Nat) (isTold : align lists relationships = .tooMany told) :
      65536 < total := by
    by_contra few
    rw [accepted (Nat.le_of_not_lt few)] at isTold
    exact outcome_ne_tooMany _ told isTold
  refine ⟨⟨fun ⟨told, isTold⟩ => told_iff told isTold, fun many => ⟨_, refused many⟩⟩, ?_, ?_⟩
  · intro told isTold
    rw [refused (told_iff told isTold)] at isTold
    exact (Alignment.tooMany.inj isTold).symm
  · intro few
    have turn : tried = List.iterate (next sizes) (sizes.map fun _ => 0) (volume sizes) := by
      rw [volumes, ← origin]
    refine ⟨accepted few, List.length_iterate _ _ _, ?_, ?_⟩
    · rw [turn]
      exact enumerates_iterate sizes
    · rw [← volumes, origin]
      exact iterate_next_volume sizes

/-- A list without candidates keeps its digit at zero. -/
theorem align_tries_all_around :
    let lists := [List.replicate 2 default, [], List.replicate 2 (default : Candidate)]
    lists ≠ [] ∧ (lists.map fun list => max 1 list.length).prod ≤ 65536 ∧
      Enumerates [2, 0, 2] [[0, 0, 0], [0, 0, 1], [1, 0, 0], [1, 0, 1]] ∧
      (next [2, 0, 2])^[4] [0, 0, 0] = [0, 0, 0] := by
  intro lists
  have nonempty : lists ≠ [] := List.cons_ne_nil _ _
  obtain ⟨-, -, tries⟩ := align_tries_all [.sibling, .sibling] nonempty
  obtain ⟨-, -, enumerates, back⟩ := tries (by decide)
  exact ⟨nonempty, by decide, enumerates, back⟩

end LibPrint.Matching
