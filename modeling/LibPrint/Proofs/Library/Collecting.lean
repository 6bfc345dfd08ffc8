import LibPrint.Library.Match
import LibPrint.Proofs.Matching.Outcome
import LibPrint.Proofs.Sorting

/-!
# Results of a match

What becomes of the results of single trees in the match of a library.
-/

/-!
## Collecting results

Results join a match one by one and are kept in order. Results of one verdict are equal in that
order, so they stay as they come; and nothing else about a match changes by a result.
-/

namespace LibPrint.LibraryMatch

variable {found : LibraryMatch} {result : TreeMatch} {results : List TreeMatch} {verdict : Verdict}

theorem compareResults_of_verdict {left right : TreeMatch} (same : left.verdict = right.verdict) :
    compareResults left right = .eq := by
  have score (score : Score) : score.totalCompare score = .eq := by
    rw [Score.totalCompare]
    exact Std.ReflCmp.compare_self
  have full (isFull : Bool) : compare isFull isFull = .eq := Std.ReflCmp.compare_self
  rw [compareResults, same, score, full]
  rfl

/-- A result of a verdict that all results have joins them at the end. -/
theorem add_of_verdict (all : ∀ other ∈ found.results, other.verdict = verdict)
    (same : result.verdict = verdict) :
    found.add result = { found with results := found.results ++ [result] } := by
  have every : ∀ other ∈ found.results ++ [result], other.verdict = verdict := by
    intro other member
    rcases List.mem_append.mp member with inFound | isResult
    · exact all other inFound
    · rw [List.mem_singleton.mp isResult]
      exact same
  have ordered : (found.results ++ [result]).Pairwise fun left right =>
      (compareResults left right).isLE = true := by
    apply List.pairwise_of_forall_mem_list
    intro left leftMem right rightMem
    rw [compareResults_of_verdict ((every left leftMem).trans (every right rightMem).symm)]
    rfl
  rw [add, List.mergeSort_of_pairwise ordered]

/-- Results of one verdict stay in the order in which they come. -/
theorem foldl_add_of_verdict (all : ∀ other ∈ found.results, other.verdict = verdict)
    (same : ∀ result ∈ results, result.verdict = verdict) :
    results.foldl add found = { found with results := found.results ++ results } := by
  induction results generalizing found with
  | nil => simp
  | cons result results ih =>
      rw [List.foldl_cons, add_of_verdict all (same result List.mem_cons_self)]
      rw [ih]
      · simp
      · intro other member
        rcases List.mem_append.mp member with inFound | isResult
        · exact all other inFound
        · rw [List.mem_singleton.mp isResult]
          exact same result List.mem_cons_self
      · intro other member
        exact same other (List.mem_cons_of_mem result member)

/-- The results of a match depend on the results it had before and those that join it alone. -/
theorem results_foldl_add (results : List TreeMatch) {other : LibraryMatch}
    (same : found.results = other.results) :
    (results.foldl add found).results = (results.foldl add other).results := by
  induction results generalizing found other with
  | nil => exact same
  | cons result results ih =>
      apply ih
      rw [add, add, same]

/-- Results are neither lost nor made when they are put in order. -/
theorem mem_results_foldl_add (results : List TreeMatch) :
    result ∈ (results.foldl add found).results ↔ result ∈ found.results ∨ result ∈ results := by
  induction results generalizing found with
  | nil => simp
  | cons first results ih =>
      rw [List.foldl_cons, ih, add, List.mem_mergeSort, List.mem_append, List.mem_singleton,
        List.mem_cons, or_assoc]

@[simp] theorem profile_foldl_add (results : List TreeMatch) (found : LibraryMatch) :
    (results.foldl add found).profile = found.profile := by
  induction results generalizing found with
  | nil => rfl
  | cons result results ih =>
      rw [List.foldl_cons, ih]
      rfl

end LibPrint.LibraryMatch

/-!
## What is collected about a library

A result joins a match by a new sort of all results. One by one this comes to a single stable sort:
the results descend by score, and those of one score stay in the order in which they came. The kinds
of verdicts are ordered as their scores are, so the best result tells what the questions about all
results tell, and a match is as sure as its best result unless all are of full containment.
-/

namespace LibPrint

/-! ### Verdicts in order -/

namespace Verdict

/-- The place of a kind of verdict among the four. -/
def grade : Verdict → Nat
  | noRootPackage => 0
  | noMatch => 1
  | similar _ => 2
  | full => 3

/-- How sure a match is whose best result has this verdict, unless all results are full. -/
def level : Verdict → MatchLevel
  | full => .someConfigs
  | similar _ => .inPart
  | noMatch | noRootPackage => .notFound

theorem grade_le_three (verdict : Verdict) : verdict.grade ≤ 3 := by
  cases verdict <;> simp [grade]

theorem grade_eq_three_iff {verdict : Verdict} : verdict.grade = 3 ↔ verdict = .full := by
  cases verdict <;> simp [grade]

theorem grade_eq_two_iff {verdict : Verdict} :
    verdict.grade = 2 ↔ ∃ score, verdict = .similar score := by
  cases verdict <;> simp [grade]

theorem isFull_iff {verdict : Verdict} : verdict.isFull = true ↔ verdict.grade = 3 := by
  cases verdict <;> simp [isFull, grade]

theorem isSimilar_iff {verdict : Verdict} : verdict.isSimilar = true ↔ verdict.grade = 2 := by
  cases verdict <;> simp [isSimilar, grade]

end Verdict

namespace Matching

/-- A verdict that a comparison can come to. -/
def Possible (verdict : Verdict) : Prop :=
  verdict = .noRootPackage ∨ verdict = .noMatch ∨ Located verdict

theorem possible_of_matchTrees {options : Options} {app lib : HashTree} {libRoot : Option String}
    {result : TreeMatch} (matched : matchTrees options app lib libRoot = .ok result) :
    Possible result.verdict := by
  by_cases same : lib.config.recipe = app.config.recipe
  · by_cases empty : lib.packages = []
    · rw [matchTrees_of_empty same empty] at matched
      cases matched
    · by_cases contains : Contains app lib
      · rw [matchTrees_of_contains same empty contains, Except.ok.injEq] at matched
        rw [← matched]
        exact .inr (.inr (.inl rfl))
      · obtain ⟨other, found, -, reported, -⟩ :=
          @matchTrees_of_not_contains options app lib libRoot same contains
        rw [matched, Except.ok.injEq] at found
        subst found
        cases reported with
        | unrooted => exact .inl rfl
        | missed => exact .inr (.inl rfl)
        | located _ _ _ located => exact .inr (.inr located)
  · rw [matchTrees_of_mismatch same] at matched
    cases matched

variable {verdict left right : Verdict}

theorem isNaN_of_possible (possible : Possible verdict) : verdict.score.isNaN = false := by
  rcases possible with rfl | rfl | rfl | ⟨score, rfl, above, -⟩
  · decide +kernel
  · decide +kernel
  · decide +kernel
  · exact (Score.lt_iff.mp above).2.1

/-- A kind of verdict scores above the kinds before it. -/
theorem lt_of_grade_lt (leftPossible : Possible left) (rightPossible : Possible right)
    (lower : left.grade < right.grade) : left.score.lt right.score = true := by
  rcases leftPossible with rfl | rfl | rfl | ⟨low, rfl, -, belowOne⟩ <;>
    rcases rightPossible with rfl | rfl | rfl | ⟨high, rfl, aboveLeast, -⟩ <;>
      simp only [Verdict.grade, Nat.lt_irrefl, Nat.reduceLT] at lower
  case inl.inr.inl | inl.inr.inr.inl | inr.inl.inr.inr.inl => decide +kernel
  case inl.inr.inr.inr | inr.inl.inr.inr.inr => exact Score.lt_trans (by decide +kernel) aboveLeast
  case inr.inr.inr.inr.inr.inl => exact belowOne

theorem grade_le_of_le (leftPossible : Possible left) (rightPossible : Possible right)
    (ordered : left.score ≤ right.score) : left.grade ≤ right.grade := by
  apply Nat.le_of_not_lt
  intro higher
  have above := lt_of_grade_lt rightPossible leftPossible higher
  rw [(Score.le_iff_not_lt (isNaN_of_possible leftPossible)
    (isNaN_of_possible rightPossible)).mp ordered] at above
  cases above

/-- Verdicts of one score are the same. -/
theorem eq_of_score_eq (leftPossible : Possible left) (rightPossible : Possible right)
    (same : left.score = right.score) : left = right := by
  have number := isNaN_of_possible leftPossible
  have upward : left.score ≤ right.score := same ▸ Score.le_self number
  have downward : right.score ≤ left.score := same ▸ Score.le_self number
  have grades : left.grade = right.grade :=
    Nat.le_antisymm (grade_le_of_le leftPossible rightPossible upward)
      (grade_le_of_le rightPossible leftPossible downward)
  cases left <;> cases right <;> simp_all [Verdict.grade, Verdict.score]

end Matching

/-! ### One result after the other -/

namespace LibraryMatch

open Matching

variable {found : LibraryMatch} {results added : List TreeMatch} {result best : TreeMatch}

/-- The results are those that were added, the highest score first, and those of one score in the
order in which they were added. -/
structure Collects (results added : List TreeMatch) : Prop where
  perm : results.Perm added
  descends : results.Pairwise fun before after => after.verdict.score ≤ before.verdict.score
  stable : ∀ score, results.filter (·.verdict.score = score) =
    added.filter (·.verdict.score = score)

theorem compareResults_eq_compareLex :
    compareResults = compareLex
      (fun left right => compareOn (·.verdict.score.rank) right left)
      (fun left right => compareOn (·.verdict.isFull) right left) :=
  rfl

instance : Std.TransCmp compareResults := by
  rw [compareResults_eq_compareLex]
  have byScore : Std.TransCmp fun left right : TreeMatch =>
      compareOn (·.verdict.score.rank) right left := Std.TransCmp.opposite
  have byFull : Std.TransCmp fun left right : TreeMatch =>
      compareOn (·.verdict.isFull) right left := Std.TransCmp.opposite
  infer_instance

/-- What is not behind another result does not score lower. -/
theorem rank_le_of_compareResults {before after : TreeMatch}
    (ordered : (compareResults before after).isLE = true) :
    after.verdict.score.rank ≤ before.verdict.score.rank := by
  rw [compareResults, Score.totalCompare, Ordering.isLE_then_iff_and, Int.isLE_compare] at ordered
  exact ordered.1

/-- One more result is put where it belongs, behind all of its score. -/
theorem Collects.add (collects : Collects found.results added)
    (possible : ∀ other ∈ added ++ [result], Possible other.verdict) :
    Collects (found.add result).results (added ++ [result]) := by
  have all : (found.results ++ [result]).Perm (added ++ [result]) := collects.perm.append_right _
  have sorted : (found.add result).results.Perm (found.results ++ [result]) :=
    List.mergeSort_perm _ _
  refine ⟨sorted.trans all, ?_, ?_⟩
  · have ordered := pairwise_mergeSort_isLE compareResults (found.results ++ [result])
    apply List.Pairwise.imp_of_mem _ ordered
    intro before after beforeMem afterMem notBehind
    have number {other : TreeMatch} (member : other ∈ (found.add result).results) :
        other.verdict.score.isNaN = false :=
      isNaN_of_possible (possible other ((sorted.trans all).mem_iff.mp member))
    exact Score.le_of_rank_le (number afterMem) (number beforeMem)
      (rank_le_of_compareResults notBehind)
  · intro score
    have kept : (found.add result).results.filter (·.verdict.score = score) =
        (found.results ++ [result]).filter (·.verdict.score = score) := by
      apply filter_mergeSort compareResults
      intro first firstMem second secondMem firstKept secondKept
      rw [decide_eq_true_eq] at firstKept secondKept
      have same : first.verdict = second.verdict :=
        eq_of_score_eq (possible first (all.mem_iff.mp firstMem))
          (possible second (all.mem_iff.mp secondMem)) (firstKept.trans secondKept.symm)
      rw [compareResults_of_verdict same]
      rfl
    rw [kept, List.filter_append, List.filter_append, collects.stable score]

/-- Results added one after the other come to one stable sort of them. -/
theorem collects_foldl (lib : LibProfile) (possible : ∀ result ∈ added, Possible result.verdict) :
    Collects (added.foldl LibraryMatch.add (.ofProfile lib)).results added := by
  induction added using List.reverseRecOn with
  | nil => exact ⟨.refl _, .nil, fun _ => rfl⟩
  | append_singleton added result ih =>
      rw [List.foldl_append, List.foldl_cons, List.foldl_nil]
      apply Collects.add (ih _) possible
      exact fun other member => possible other (List.mem_append_left _ member)

/-! ### The best result -/

/-- No result is of a later kind than the best one. -/
theorem Collects.grade_le (collects : Collects found.results added)
    (possible : ∀ other ∈ added, Possible other.verdict) (isBest : found.best? = some best)
    (member : result ∈ found.results) : result.verdict.grade ≤ best.verdict.grade := by
  obtain ⟨others, shape⟩ : ∃ others, found.results = best :: others := by
    rw [best?, List.head?_eq_some_iff] at isBest
    exact isBest
  rcases List.mem_cons.mp (shape ▸ member) with rfl | isOther
  · exact Nat.le_refl _
  · have descends := collects.descends
    rw [shape, List.pairwise_cons] at descends
    have inAdded {other : TreeMatch} (member : other ∈ found.results) : Possible other.verdict :=
      possible other (collects.perm.mem_iff.mp member)
    apply grade_le_of_le (inAdded member) (inAdded _) (descends.1 result isOther)
    rw [shape]
    exact List.mem_cons_self

theorem mem_of_best? (isBest : found.best? = some best) : best ∈ found.results :=
  List.mem_of_head? isBest

/-- There is a best result as soon as there is any. -/
theorem exists_best? (member : result ∈ found.results) : ∃ best, found.best? = some best := by
  cases shape : found.results with
  | nil =>
      rw [shape] at member
      cases member
  | cons first others => exact ⟨first, by rw [best?, shape, List.head?_cons]⟩

theorem Collects.anyFull_iff (collects : Collects found.results added)
    (possible : ∀ other ∈ added, Possible other.verdict) :
    found.anyFull = true ↔ ∃ best, found.best? = some best ∧ best.verdict.grade = 3 := by
  simp only [anyFull, List.any_eq_true, Verdict.isFull_iff]
  constructor
  · rintro ⟨result, member, full⟩
    obtain ⟨best, isBest⟩ := exists_best? member
    have most := best.verdict.grade_le_three
    have least := collects.grade_le possible isBest member
    exact ⟨best, isBest, by omega⟩
  · rintro ⟨best, isBest, full⟩
    exact ⟨best, mem_of_best? isBest, full⟩

theorem Collects.onlyInPart_iff (collects : Collects found.results added)
    (possible : ∀ other ∈ added, Possible other.verdict) :
    found.onlyInPart = true ↔ ∃ best, found.best? = some best ∧ best.verdict.grade = 2 := by
  have none : found.anyFull = false ↔ ∀ best, found.best? = some best → best.verdict.grade ≠ 3 := by
    rw [← Bool.not_eq_true, collects.anyFull_iff possible, not_exists]
    exact forall_congr' fun best => not_and
  simp only [onlyInPart, Bool.and_eq_true, Bool.not_eq_true', none, List.any_eq_true,
    Verdict.isSimilar_iff]
  constructor
  · rintro ⟨notFull, result, member, inPart⟩
    obtain ⟨best, isBest⟩ := exists_best? member
    have most := best.verdict.grade_le_three
    have least := collects.grade_le possible isBest member
    have apart := notFull best isBest
    exact ⟨best, isBest, by omega⟩
  · rintro ⟨best, isBest, inPart⟩
    refine ⟨?_, best, mem_of_best? isBest, inPart⟩
    intro other isBestToo
    obtain rfl : best = other := Option.some.inj (isBest.symm.trans isBestToo)
    omega

theorem level_eq_allConfigs_iff :
    found.level = .allConfigs ↔
      found.results ≠ [] ∧ ∀ result ∈ found.results, result.verdict = .full := by
  have all : found.allFull = true ↔
      found.results ≠ [] ∧ ∀ result ∈ found.results, result.verdict = .full := by
    simp [allFull, Verdict.isFull_iff, Verdict.grade_eq_three_iff]
  rw [← all, level]
  cases found.allFull <;> cases found.anyFull <;> cases found.onlyInPart <;> simp

/-- How sure a match is that is not sure under all configurations. -/
theorem Collects.level_eq (collects : Collects found.results added)
    (possible : ∀ other ∈ added, Possible other.verdict) (notAll : found.level ≠ .allConfigs) :
    found.level = (found.best?.map (·.verdict)).elim .notFound Verdict.level := by
  have full := collects.anyFull_iff possible
  have inPart := collects.onlyInPart_iff possible
  have all : found.allFull = false := by
    rw [← Bool.not_eq_true]
    exact fun all => notAll (if_pos all)
  rw [level, all, if_neg Bool.false_ne_true]
  cases isBest : found.best? with
  | none => simp_all
  | some best =>
      simp only [isBest, Option.some.injEq, exists_eq_left'] at full inPart
      rw [Option.map_some, Option.elim_some]
      cases verdict : best.verdict <;>
        simp_all [Verdict.grade, Verdict.level]

end LibraryMatch

/-! ### The results of a comparison -/

namespace Matching

/-- The trees of an app that a library has trees for, with what came of comparing them. -/
theorem forall₂_matchTree? (options : Options) (lib : LibProfile) (trees : List HashTree) :
    List.Forall₂ (fun tree result => ∃ libTree,
        HashTree.find? lib.hashTrees tree.config = some libTree ∧
          matchTrees options tree libTree lib.rootPackage? = .ok result)
      (trees.filter fun tree => (HashTree.find? lib.hashTrees tree.config).any (!·.isEmpty))
      (trees.filterMap (matchTree? options lib)) := by
  induction trees with
  | nil => exact .nil
  | cons tree trees ih =>
      rw [List.filter_cons, List.filterMap_cons, matchTree?]
      cases found : HashTree.find? lib.hashTrees tree.config with
      | none => exact ih
      | some libTree =>
          rw [HashTree.find?] at found
          have comparable := List.find?_some found
          have same : libTree.config.recipe = tree.config.recipe := beq_iff_eq.mp comparable
          by_cases empty : libTree.packages = []
          · have isEmpty : libTree.isEmpty = true := List.isEmpty_iff.mpr empty
            simpa [isEmpty, matchTrees_of_empty same empty, Except.toOption] using ih
          · have occupied : libTree.isEmpty = false := List.isEmpty_eq_false_iff.mpr empty
            have matched :=
              @matchTrees_of_comparable options tree libTree lib.rootPackage? same empty
            simp only [Option.any_some, occupied, Bool.not_false, if_true, matched,
              Except.toOption]
            exact .cons ⟨libTree, found, matched⟩ ih

/-- A match has one result for each tree of the app for which the library's first tree of the same
recipe is there and not empty, and the result is that of comparing the two. Whatever results are
added one after the other, with verdicts that comparisons can come to, they are sorted by score as a
whole, and those of one score stay in order. The best result is one of full containment exactly when
there is any, and one of similarity exactly when there is one and none of full containment; unless
all results are of full containment, it tells how sure the match is. -/
theorem matchProfile_collects (options : Options) (app : AppProfile) (lib : LibProfile) :
    (∃ outcomes,
      List.Forall₂ (fun tree result => ∃ libTree,
          HashTree.find? lib.hashTrees tree.config = some libTree ∧
            matchTrees options tree libTree lib.rootPackage? = .ok result)
        (app.hashTrees.filter fun tree =>
          (HashTree.find? lib.hashTrees tree.config).any (!·.isEmpty)) outcomes ∧
      LibraryMatch.Collects (matchProfile options app lib).results outcomes) ∧
    (∀ tree libTree libRoot result, matchTrees options tree libTree libRoot = .ok result →
      Possible result.verdict) ∧
    ∀ added : List TreeMatch, (∀ result ∈ added, Possible result.verdict) →
      let found := added.foldl LibraryMatch.add (.ofProfile lib)
      LibraryMatch.Collects found.results added ∧
      ((∃ best, found.best? = some best ∧ best.verdict = .full) ↔ found.anyFull = true) ∧
      ((∃ best score, found.best? = some best ∧ best.verdict = .similar score) ↔
        found.onlyInPart = true) ∧
      (found.level = .allConfigs ↔
        found.results ≠ [] ∧ ∀ result ∈ found.results, result.verdict = .full) ∧
      (found.level ≠ .allConfigs →
        found.level = (found.best?.map (·.verdict)).elim .notFound Verdict.level) := by
  refine ⟨⟨_, forall₂_matchTree? options lib app.hashTrees, ?_⟩, ?_, ?_⟩
  · apply LibraryMatch.collects_foldl
    intro result member
    obtain ⟨tree, -, libTree, -, matched⟩ :=
      exists_mem_left_of_forall₂ (forall₂_matchTree? options lib app.hashTrees) member
    exact possible_of_matchTrees matched
  · intro tree libTree libRoot result matched
    exact possible_of_matchTrees matched
  · intro added possible found
    have collects := LibraryMatch.collects_foldl lib possible
    refine ⟨collects, ?_, ?_, LibraryMatch.level_eq_allConfigs_iff, collects.level_eq possible⟩
    · rw [collects.anyFull_iff possible]
      simp only [Verdict.grade_eq_three_iff, found]
    · rw [collects.onlyInPart_iff possible]
      simp only [Verdict.grade_eq_two_iff, exists_and_left, found]

/-- Results of all kinds, two of them of one score: these stay as they came, and the one result of
full containment is the best. -/
theorem matchProfile_collects_mixed :
    let score : Score := ⟨0x3f4ccccd⟩
    let result (verdict : Verdict) (root : Option String) : TreeMatch :=
      ⟨.standard, verdict, [], root⟩
    let lib : LibProfile := ⟨⟨"okhttp", .utilities, none, none, none⟩, ⟨.mk "Root" 0 []⟩, []⟩
    let added := [result .noMatch none, result (.similar score) (some "b"), result .full none,
      result (.similar score) (some "a"), result .noRootPackage none]
    let found := added.foldl LibraryMatch.add (.ofProfile lib)
    (∀ result ∈ added, Possible result.verdict) ∧
      found.results.filter (·.verdict.score = score) =
        [result (.similar score) (some "b"), result (.similar score) (some "a")] ∧
      (∃ best, found.best? = some best ∧ best.verdict = .full) ∧
      found.onlyInPart = false ∧ found.level = .someConfigs := by
  intro score result lib added found
  have located : Located (.similar score) :=
    .inr ⟨score, rfl, by decide +kernel, by decide +kernel⟩
  have possible : ∀ result ∈ added, Possible result.verdict := by
    simp only [added, List.forall_mem_cons]
    exact ⟨.inr (.inl rfl), .inr (.inr located), .inr (.inr (.inl rfl)), .inr (.inr located),
      .inl rfl, List.forall_mem_nil _⟩
  obtain ⟨-, -, every⟩ := matchProfile_collects ⟨none, false⟩ ⟨⟨.mk "Root" 0 []⟩, [], none⟩ lib
  obtain ⟨collects, best, part, all, level⟩ := every added possible
  have anyFull : found.anyFull = true := by
    rw [LibraryMatch.anyFull, List.any_eq_true]
    exact ⟨result .full none, collects.perm.mem_iff.mpr (by simp [added]), rfl⟩
  obtain ⟨first, isBest, full⟩ := best.mpr anyFull
  have notAll : found.level ≠ .allConfigs := by
    intro sure
    have missed := (all.mp sure).2 (result .noMatch none)
      (collects.perm.mem_iff.mpr List.mem_cons_self)
    cases missed
  refine ⟨possible, ?_, ⟨first, isBest, full⟩, ?_, ?_⟩
  · rw [collects.stable score]
    rfl
  · rw [LibraryMatch.onlyInPart, anyFull]
    rfl
  · rw [level notAll, isBest, Option.map_some, full]
    rfl

end Matching

end LibPrint
