import LibPrint.Matching.TreeMatch
import Mathlib.Data.List.Forall2

/-!
# The counter of the alignment

A counter has one digit for each list of candidates, in a number system whose base changes from
digit to digit; a list without candidates has the one digit zero. Here counters are numbered.
Advancing is adding one, and the lexicographic order is the order of the numbers, so a run over all
numbers meets every counter once and in lexicographic order.
-/

namespace LibPrint.Matching

/-- A counter for lists of the given sizes: each digit is a position in its list, or zero when there
is none. -/
def Counts (sizes counter : List Nat) : Prop :=
  List.Forall₂ (fun size digit => digit < max 1 size) sizes counter

/-- The number of counters. -/
def volume : (sizes : List Nat) → Nat
  | [] => 1
  | size :: sizes => max 1 size * volume sizes

/-- The number of a counter, which is how many come before it. -/
def place : (sizes counter : List Nat) → Nat
  | _ :: sizes, digit :: counter => digit * volume sizes + place sizes counter
  | _, _ => 0

variable {sizes counter : List Nat}

/-! ## Numbers of counters -/

theorem place_lt (counts : Counts sizes counter) : place sizes counter < volume sizes := by
  induction counts with
  | nil => exact Nat.one_pos
  | @cons size digit sizes counter below _ ih =>
      have bounded : (digit + 1) * volume sizes ≤ max 1 size * volume sizes :=
        Nat.mul_le_mul_right _ below
      rw [Nat.succ_mul] at bounded
      rw [place, volume]
      omega

/-- Numbers with smaller rests are compared by their first digits. -/
theorem digits_lt_iff {base first second rest other : Nat} (restLt : rest < base)
    (otherLt : other < base) :
    first * base + rest < second * base + other ↔
      first < second ∨ first = second ∧ rest < other := by
  rcases Nat.lt_trichotomy first second with less | same | greater
  · have step : (first + 1) * base ≤ second * base := Nat.mul_le_mul_right _ less
    rw [Nat.succ_mul] at step
    constructor
    · exact fun _ => .inl less
    · intro _
      omega
  · subst same
    constructor
    · intro lower
      exact .inr ⟨rfl, by omega⟩
    · intro cases
      omega
  · have step : (second + 1) * base ≤ first * base := Nat.mul_le_mul_right _ greater
    rw [Nat.succ_mul] at step
    constructor <;> intro _ <;> omega

/-- The lexicographic order of counters is the order of their numbers. -/
theorem lex_iff_place_lt {other : List Nat} (counts : Counts sizes counter)
    (otherCounts : Counts sizes other) :
    List.Lex (· < ·) counter other ↔ place sizes counter < place sizes other := by
  induction counts generalizing other with
  | nil =>
      cases otherCounts
      simp [place]
  | @cons size digit sizes counter below rest ih =>
      cases otherCounts with
      | @cons _ second _ other otherBelow otherRest =>
          rw [place, place, List.cons_lex_cons_iff, ih otherRest,
            digits_lt_iff (place_lt rest) (place_lt otherRest)]

/-- No two counters have the same number. -/
theorem eq_of_place_eq {other : List Nat} (counts : Counts sizes counter)
    (otherCounts : Counts sizes other) (same : place sizes counter = place sizes other) :
    counter = other := by
  induction counts generalizing other with
  | nil =>
      cases otherCounts
      rfl
  | @cons size digit sizes counter below rest ih =>
      cases otherCounts with
      | @cons _ second _ other otherBelow otherRest =>
          rw [place, place] at same
          have before := (digits_lt_iff (place_lt rest) (place_lt otherRest)).mpr.mt
            (Nat.not_lt.mpr (Nat.le_of_eq same.symm))
          have after := (digits_lt_iff (place_lt otherRest) (place_lt rest)).mpr.mt
            (Nat.not_lt.mpr (Nat.le_of_eq same))
          have digits : digit = second := by omega
          have rests : place sizes counter = place sizes other := by omega
          rw [digits, ih otherRest rests]

/-! ## Advancing -/

theorem counts_zeros (sizes : List Nat) : Counts sizes (sizes.map fun _ => 0) := by
  induction sizes with
  | nil => exact .nil
  | cons size sizes ih =>
      refine .cons ?_ ih
      exact Nat.lt_of_lt_of_le Nat.one_pos (Nat.le_max_left 1 size)

theorem place_zeros (sizes : List Nat) : place sizes (sizes.map fun _ => 0) = 0 := by
  induction sizes with
  | nil => rfl
  | cons size sizes ih => rw [List.map_cons, place, ih, Nat.zero_mul]

/-- What advancing does to a counter: it moves to the next number, or from the last one back to
zeros. -/
structure Advances (sizes counter next : List Nat) (carry : Bool) : Prop where
  counts : Counts sizes next
  forth : carry = false → place sizes next = place sizes counter + 1
  last : carry = true → place sizes counter + 1 = volume sizes
  back : carry = true → next = sizes.map fun _ => 0

/-- One digit more. The digit itself moves only when those after it ran over. -/
theorem advances_cons {size digit : Nat} {next : List Nat} {carry : Bool}
    (below : digit < max 1 size) (rest : Advances sizes counter next carry) :
    Advances (size :: sizes) (digit :: counter)
      (if carry then if digit + 1 < size then (digit + 1) :: next else 0 :: next else digit :: next)
      (carry && !(digit + 1 < size)) := by
  cases carry with
  | false =>
      refine ⟨.cons below rest.counts, fun _ => ?_, nofun, nofun⟩
      simp only [Bool.false_eq_true, if_false, place, rest.forth rfl]
      omega
  | true =>
      have last := rest.last rfl
      have zeros := rest.back rfl
      subst zeros
      by_cases more : digit + 1 < size
      · simp only [if_true, more, decide_true, Bool.not_true, Bool.and_false]
        refine ⟨.cons ?_ rest.counts, fun _ => ?_, nofun, nofun⟩
        · omega
        · rw [place, place, place_zeros, Nat.succ_mul]
          omega
      · have final : max 1 size = digit + 1 := by omega
        simp only [if_true, more, decide_false, Bool.not_false, Bool.and_true]
        refine ⟨.cons ?_ rest.counts, nofun, fun _ => ?_, fun _ => rfl⟩
        · omega
        · rw [place, volume, final, Nat.succ_mul]
          omega

theorem advances_advance (counts : Counts sizes counter) :
    Advances sizes counter (advance sizes counter).1 (advance sizes counter).2 := by
  induction counts with
  | nil => exact ⟨.nil, nofun, fun _ => rfl, fun _ => rfl⟩
  | @cons size digit sizes counter below rest ih =>
      have stepped := advances_cons below ih
      rw [advance]
      revert stepped
      rcases advance sizes counter with ⟨next, carry⟩
      cases carry with
      | false => exact id
      | true => by_cases more : digit + 1 < size <;> simp [more]

/-- The empty list in the middle is passed over. -/
example : advance [2, 0, 3] [0, 0, 2] = ([1, 0, 0], false) := by
  decide

/-! ## Picks -/

/-- A pick of a list is one of its candidates, and none is picked of an empty list alone. -/
def IsPick (list : List Candidate) : Option Candidate → Prop
  | none => list = []
  | some candidate => candidate ∈ list

/-- Whatever is picked of the lists is picked at some counter. -/
theorem exists_counter_of_picks {lists : List (List Candidate)} {picked : List (Option Candidate)}
    (arePicks : List.Forall₂ IsPick lists picked) :
    ∃ counter, Counts (lists.map List.length) counter ∧ picks lists counter = picked := by
  induction arePicks with
  | nil => exact ⟨[], .nil, rfl⟩
  | @cons list pick lists picked isPick _ ih =>
      obtain ⟨counter, counts, equal⟩ := ih
      obtain ⟨digit, below, found⟩ :
          ∃ digit, digit < max 1 list.length ∧ list[digit]? = pick := by
        cases pick with
        | none =>
            have empty : list = [] := isPick
            subst empty
            exact ⟨0, Nat.one_pos, rfl⟩
        | some candidate =>
            have member : candidate ∈ list := isPick
            obtain ⟨digit, found⟩ := List.getElem?_of_mem member
            obtain ⟨below, -⟩ := List.getElem?_eq_some_iff.mp found
            exact ⟨digit, Nat.lt_of_lt_of_le below (Nat.le_max_right _ _), found⟩
      refine ⟨digit :: counter, .cons below counts, ?_⟩
      rw [picks, List.zipWith_cons_cons, found]
      exact congrArg _ equal

/-- At a counter something is picked of every list that is not empty. -/
theorem forall₂_isPick_picks {lists : List (List Candidate)} {counter : List Nat}
    (counts : Counts (lists.map List.length) counter) :
    List.Forall₂ IsPick lists (picks lists counter) := by
  induction lists generalizing counter with
  | nil =>
      cases counts
      exact .nil
  | cons list lists ih =>
      cases counts with
      | @cons _ digit _ counter below rest =>
          refine .cons ?_ (ih rest)
          change IsPick list list[digit]?
          cases found : list[digit]? with
          | none =>
              have beyond := List.getElem?_eq_none_iff.mp found
              have nothing : list.length = 0 := by omega
              exact List.length_eq_zero_iff.mp nothing
          | some candidate =>
              have member : candidate ∈ list := List.mem_of_getElem? found
              exact member

/-- Something is picked as often as there are lists that are not empty. -/
theorem countP_isSome_of_picks {lists : List (List Candidate)} {picked : List (Option Candidate)}
    (arePicks : List.Forall₂ IsPick lists picked) :
    picked.countP Option.isSome = lists.countP (!·.isEmpty) := by
  induction arePicks with
  | nil => rfl
  | @cons list pick lists picked isPick _ ih =>
      have same : pick.isSome = !list.isEmpty := by
        cases pick with
        | none =>
            have empty : list = [] := isPick
            rw [empty]
            rfl
        | some candidate =>
            have occupied := List.isEmpty_eq_false_iff.mpr (List.ne_nil_of_mem isPick)
            rw [occupied]
            rfl
      rw [List.countP_cons, List.countP_cons, ih, same]

/-! ## How many there are -/

/-- The number of combinations is that of the counters, as far as it can be told. -/
theorem combinationCount_eq (lists : List (List Candidate)) :
    combinationCount lists = min maxCount (volume (lists.map List.length)) := by
  have general (count : Nat) :
      lists.foldl (fun count list => min maxCount (count * max 1 list.length))
          (min maxCount count) =
        min maxCount (count * volume (lists.map List.length)) := by
    induction lists generalizing count with
    | nil => rw [List.foldl_nil, List.map_nil, volume, Nat.mul_one]
    | cons list lists ih =>
        have base : 1 ≤ max 1 list.length := by omega
        have step : min maxCount (min maxCount count * max 1 list.length) =
            min maxCount (count * max 1 list.length) := by
          have grows := Nat.le_mul_of_pos_right maxCount base
          rcases Nat.le_total count maxCount with small | large
          · rw [Nat.min_eq_right small]
          · have also := Nat.mul_le_mul_right (max 1 list.length) large
            rw [Nat.min_eq_left large, Nat.min_eq_left grows, Nat.min_eq_left (Nat.le_trans grows also)]
        rw [List.foldl_cons, step, ih, List.map_cons, volume, Nat.mul_assoc]
  have start : min maxCount 1 = 1 := by decide
  have told := general 1
  rwa [start, Nat.one_mul] at told

end LibPrint.Matching
