import LibPrint.Proofs.Matching.Outcome
import LibPrint.Proofs.Matching.Relocation
import Mathlib.Data.List.Perm.Basic

/-!
# Candidates that mirror each other

Two runs of partial matching come to the same score when their candidates correspond one to one:
with equal scores, and lying to each other as the others do. Whatever is picked in one run is then
matched by picks of the other that are as good and as consistent. The correspondence works both
ways, so one inequality of the best scores gives the other.
-/

namespace LibPrint.Matching

open Package (Relationship relationship)

/-- Candidates that are related can stand for each other. -/
structure Mirrors (related : Candidate → Candidate → Prop) : Prop where
  score : ∀ {left image}, related left image → left.score = image.score
  relationship : ∀ {left image right other}, related left image → related right other →
    relationship left.package right.package = relationship image.package other.package

/-- The candidates of two lists correspond one to one, in any order. -/
def Corresponds (related : Candidate → Candidate → Prop) (left right : List Candidate) : Prop :=
  ∃ arranged, List.Forall₂ related left arranged ∧ arranged.Perm right

variable {related : Candidate → Candidate → Prop}

theorem Mirrors.flip (mirrors : Mirrors related) : Mirrors (flip related) :=
  ⟨fun pair => (mirrors.score pair).symm,
    fun pair other => (mirrors.relationship pair other).symm⟩

theorem Corresponds.flip {left right : List Candidate} (pairs : Corresponds related left right) :
    Corresponds (flip related) right left := by
  obtain ⟨arranged, images, perm⟩ := pairs
  obtain ⟨other, perm, images⟩ := List.perm_comp_forall₂ perm.symm images.flip
  exact ⟨other, perm, images⟩

theorem Corresponds.length_eq {left right : List Candidate}
    (pairs : Corresponds related left right) : left.length = right.length := by
  obtain ⟨arranged, images, perm⟩ := pairs
  rw [images.length_eq, perm.length_eq]

/-- The order of the first list does not matter either. -/
theorem Corresponds.of_perm {left other right : List Candidate} (perm : other.Perm left)
    (pairs : Corresponds related left right) : Corresponds related other right := by
  obtain ⟨arranged, images, same⟩ := pairs
  obtain ⟨between, images, moved⟩ := List.perm_comp_forall₂ perm images
  exact ⟨between, images, moved.trans same⟩

/-- Related candidates that are kept or dropped together still correspond. -/
theorem Corresponds.filter {left right : List Candidate} {keep keepImage : Candidate → Bool}
    (pairs : Corresponds related left right)
    (agree : ∀ {candidate image}, related candidate image → keep candidate = keepImage image) :
    Corresponds related (left.filter keep) (right.filter keepImage) := by
  obtain ⟨arranged, images, perm⟩ := pairs
  refine ⟨arranged.filter keepImage, List.rel_filter ?_ images, perm.filter _⟩
  intro candidate image pair
  exact Bool.eq_iff_iff.mp (agree pair)

/-- What is picked of one list is matched by a pick of the other. -/
theorem Corresponds.exists_pick {left right : List Candidate}
    (pairs : Corresponds related left right) {pick : Option Candidate} (isPick : IsPick left pick) :
    ∃ image, IsPick right image ∧ Option.Rel related pick image := by
  cases pick with
  | none =>
      have empty : left = [] := isPick
      have same := pairs.length_eq
      rw [empty, List.length_nil] at same
      exact ⟨none, List.length_eq_zero_iff.mp same.symm, .none⟩
  | some candidate =>
      obtain ⟨arranged, images, perm⟩ := pairs
      obtain ⟨image, member, pair⟩ := exists_mem_right_of_forall₂ images isPick
      exact ⟨some image, perm.subset member, .some pair⟩

/-! ## Picks -/

section Picks

variable {lefts rights : List (List Candidate)} {picked images : List (Option Candidate)}

theorem exists_mirrored_picks (lists : List.Forall₂ (Corresponds related) lefts rights)
    (arePicks : List.Forall₂ IsPick lefts picked) :
    ∃ images, List.Forall₂ IsPick rights images ∧
      List.Forall₂ (Option.Rel related) picked images := by
  induction lists generalizing picked with
  | nil =>
      cases arePicks
      exact ⟨[], .nil, .nil⟩
  | cons pairs _ ih =>
      cases arePicks with
      | cons isPick rest =>
          obtain ⟨image, isImage, pair⟩ := pairs.exists_pick isPick
          obtain ⟨images, areImages, pairs⟩ := ih rest
          exact ⟨image :: images, .cons isImage areImages, .cons pair pairs⟩

theorem mean_eq_of_mirrored (mirrors : Mirrors related)
    (pairs : List.Forall₂ (Option.Rel related) picked images) : mean picked = mean images := by
  have scores : (picked.filterMap fun pick => pick.map (·.score)) =
      images.filterMap fun pick => pick.map (·.score) := by
    induction pairs with
    | nil => rfl
    | cons head _ ih =>
        cases head with
        | none => rwa [List.filterMap_cons_none rfl, List.filterMap_cons_none rfl]
        | @some candidate image pair =>
            have first : (some candidate).map (·.score) = some candidate.score := rfl
            have second : (some image).map (·.score) = some image.score := rfl
            rw [List.filterMap_cons_some first, List.filterMap_cons_some second, ih,
              mirrors.score pair]
  rw [mean, mean, scores, pairs.length_eq]

/-- A mirrored pick is the image of one at the same place. -/
theorem exists_related_of_getElem? {left right : List (Option Candidate)}
    (pairs : List.Forall₂ (Option.Rel related) left right) {place : Nat} {image : Candidate}
    (imageAt : right[place]? = some (some image)) :
    ∃ candidate, left[place]? = some (some candidate) ∧ related candidate image := by
  induction pairs generalizing place with
  | nil => simp at imageAt
  | cons head _ ih =>
      cases place with
      | zero =>
          obtain rfl := Option.some.inj imageAt
          cases head with
          | some pair => exact ⟨_, rfl, pair⟩
      | succ place => exact ih imageAt

theorem consistent_of_mirrored (mirrors : Mirrors related) {relationships : List Relationship}
    (pairs : List.Forall₂ (Option.Rel related) picked images)
    (consistent : Consistent relationships picked) : Consistent relationships images := by
  intro place image other expected imageAt otherAt expectedAt
  obtain ⟨left, leftAt, pair⟩ := exists_related_of_getElem? pairs imageAt
  obtain ⟨right, rightAt, next⟩ := exists_related_of_getElem? pairs otherAt
  rw [← mirrors.relationship pair next]
  exact consistent place left right expected leftAt rightAt expectedAt

theorem combinationCount_eq_of_corresponds
    (lists : List.Forall₂ (Corresponds related) lefts rights) :
    combinationCount lefts = combinationCount rights := by
  have lengths := map_eq_map_of_forall₂ lists fun _ _ pairs => pairs.length_eq
  rw [combinationCount_eq, combinationCount_eq, lengths]

/-- What is found of one side is matched by the other. -/
theorem exists_best_of_corresponds (mirrors : Mirrors related)
    {relationships : List Relationship}
    (lists : List.Forall₂ (Corresponds related) lefts rights) {score : Score}
    {selection : List Candidate} (best : align lefts relationships = .best score selection) :
    ∃ reached other, align rights relationships = .best reached other ∧ score ≤ reached := by
  obtain ⟨few, above⟩ := few_and_above_of_align best
  obtain ⟨counter, optimal, -, rfl, -⟩ := exists_optimal_of_align best
  obtain ⟨images, areImages, pairs⟩ :=
    exists_mirrored_picks lists (forall₂_isPick_picks optimal.admissible.counts)
  obtain ⟨other, counts, rfl⟩ := exists_counter_of_picks areImages
  have same : scoreAt lefts counter = scoreAt rights other := mean_eq_of_mirrored mirrors pairs
  have consistent := consistent_of_mirrored mirrors pairs optimal.admissible.consistent
  rw [same] at above ⊢
  rw [combinationCount_eq_of_corresponds lists] at few
  exact exists_best_of_admissible few ⟨counts, consistent⟩ above

end Picks

/-! ## Partitions -/

/-- The lists of two runs are those of the same library packages, in the same order, and their
candidates inside the two partitions correspond. -/
def MirroredAt (related : Candidate → Candidate → Prop) (partition image : String) :
    (lefts rights : List CandidateList) → Prop :=
  List.Forall₂ fun left right =>
    left.package = right.package ∧
      Corresponds related (left.within partition) (right.within image)

section Partitions

variable {partition image : String} {lefts rights : List CandidateList}

theorem MirroredAt.flip (mirrored : MirroredAt related partition image lefts rights) :
    MirroredAt (flip related) image partition rights lefts :=
  (List.Forall₂.flip mirrored).imp fun _ _ pairs => ⟨pairs.1.symm, pairs.2.flip⟩

theorem MirroredAt.relationships_eq (mirrored : MirroredAt related partition image lefts rights) :
    relationships lefts = relationships rights := by
  have told (lists : List CandidateList) : relationships lists =
      List.zipWith relationship (lists.map (·.package)) (lists.map (·.package)).tail := by
    rw [relationships, ← List.map_tail, List.zipWith_map]
  rw [told, told, map_eq_map_of_forall₂ mirrored fun _ _ pairs => pairs.1]

theorem countP_occupied (lists : List (List Candidate)) :
    lists.countP (!·.isEmpty) = (lists.map List.length).countP (0 < ·) := by
  rw [List.countP_map]
  apply List.countP_congr
  intro list _
  cases list <;> simp

/-- A partition that counts is matched by the other one. -/
theorem MirroredAt.exists_bestAt (mirrors : Mirrors related)
    (mirrored : MirroredAt related partition image lefts rights) {score : Score}
    {selection : List Candidate} (best : BestAt lefts partition score selection) :
    ∃ reached other, BestAt rights image reached other ∧ score ≤ reached := by
  obtain ⟨restricted, kept, few, aligned⟩ := best
  obtain ⟨nonempty, rfl, covered⟩ := restrict?_eq_some_iff.mp kept
  have lists : List.Forall₂ (Corresponds related) (lefts.map (·.within partition))
      (rights.map (·.within image)) := by
    rw [List.forall₂_map_left_iff, List.forall₂_map_right_iff]
    exact List.Forall₂.imp (fun _ _ pairs => pairs.2) mirrored
  have length : lefts.length = rights.length := List.Forall₂.length_eq mirrored
  have occupied : (lefts.map (·.within partition)).countP (!·.isEmpty) =
      (rights.map (·.within image)).countP (!·.isEmpty) := by
    have lengths := map_eq_map_of_forall₂ lists fun _ _ pairs => pairs.length_eq
    rw [countP_occupied, countP_occupied, lengths]
  obtain ⟨reached, other, matched, atLeast⟩ := exists_best_of_corresponds mirrors lists aligned
  refine ⟨reached, other, ⟨_, restrict?_eq_some_iff.mpr ⟨?_, rfl, ?_⟩, ?_, ?_⟩, atLeast⟩
  · rintro rfl
    exact nonempty (List.length_eq_zero_iff.mp length)
  · rw [← occupied, ← length]
    exact covered
  · rw [← combinationCount_eq_of_corresponds lists]
    exact few
  · rw [← mirrored.relationships_eq]
    exact matched

end Partitions

/-! ## Verdicts -/

/-- The verdicts of two apps are the same when what is found in either is matched in the other. -/
theorem verdict_eq_of_matched {options : Options} {app other lib : HashTree} {libRoot : String}
    (forth : ∀ found ∈ alignments options app lib libRoot,
      ∃ image ∈ alignments options other lib libRoot, found.score ≤ image.score)
    (back : ∀ found ∈ alignments options other lib libRoot,
      ∃ image ∈ alignments options app lib libRoot, found.score ≤ image.score) :
    (partialMatch options other lib libRoot).verdict =
      (partialMatch options app lib libRoot).verdict := by
  rcases partialMatch_cases options app lib libRoot with ⟨none, result⟩ | ⟨best, wins, result⟩
  · rcases partialMatch_cases options other lib libRoot with
      ⟨-, otherResult⟩ | ⟨image, otherWins, -⟩
    · rw [result, otherResult]
    · obtain ⟨found, member, -⟩ := back image otherWins.member
      rw [none] at member
      cases member
  · obtain ⟨matched, isMatched, above⟩ := forth best wins.member
    rcases partialMatch_cases options other lib libRoot with
      ⟨none, -⟩ | ⟨image, otherWins, otherResult⟩
    · rw [none] at isMatched
      cases isMatched
    · have lower := Score.le_trans above (otherWins.highest matched isMatched)
      obtain ⟨found, isFound, below⟩ := back image otherWins.member
      have upper := Score.le_trans below (wins.highest found isFound)
      obtain ⟨-, _, -, -, aligned⟩ := mem_alignments.mp wins.member
      have positive : Score.zero.lt best.score = true :=
        Score.lt_trans (by decide +kernel) (few_and_above_of_align aligned).2
      rw [result, otherResult, Score.eq_of_le_of_le positive lower upper]

end LibPrint.Matching
