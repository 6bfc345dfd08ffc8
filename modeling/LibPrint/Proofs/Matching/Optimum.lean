import LibPrint.Proofs.Matching.Counter
import LibPrint.Proofs.Score.Order
import LibPrint.Proofs.Score.Rounding

/-!
# The best alignment

Among the picks that keep the relationships of the library packages, the alignment is one of the
highest score, and of those the first in the order of counters. The run keeps a leader; what is
known of it after some counters is that no consistent one of them scores higher, and that it was the
first to reach its score.
-/

namespace LibPrint.Matching

open Package (Relationship relationship)

/-! ## Consistent picks -/

/-- Neighbouring picks lie to each other as is asked for, wherever there are two. -/
def Consistent (relationships : List Relationship) (picked : List (Option Candidate)) : Prop :=
  ∀ (position : Nat) (left right : Candidate) (expected : Relationship),
    picked[position]? = some (some left) → picked[position + 1]? = some (some right) →
      relationships[position]? = some expected →
        relationship left.package right.package = expected

theorem consistent_cons_cons {first second : Option Candidate} {picked : List (Option Candidate)}
    {expected : Relationship} {relationships : List Relationship} :
    Consistent (expected :: relationships) (first :: second :: picked) ↔
      (∀ left right, first = some left → second = some right →
        relationship left.package right.package = expected) ∧
      Consistent relationships (second :: picked) := by
  constructor
  · intro consistent
    constructor
    · rintro left right rfl rfl
      exact consistent 0 left right expected rfl rfl rfl
    · intro position left right other leftAt rightAt otherAt
      exact consistent (position + 1) left right other leftAt rightAt otherAt
  · rintro ⟨head, tail⟩ position left right other leftAt rightAt otherAt
    cases position with
    | zero =>
        obtain rfl : expected = other := Option.some.inj otherAt
        exact head left right (Option.some.inj leftAt) (Option.some.inj rightAt)
    | succ position => exact tail position left right other leftAt rightAt otherAt

/-- The check that is run decides consistency. -/
theorem isConsistent_iff {relationships : List Relationship} {picked : List (Option Candidate)} :
    isConsistent picked relationships = true ↔ Consistent relationships picked := by
  induction picked generalizing relationships with
  | nil =>
      constructor
      · intro _ position left right expected leftAt
        simp at leftAt
      · exact fun _ => rfl
  | cons first picked ih =>
      cases picked with
      | nil =>
          constructor
          · intro _ position left right expected _ rightAt
            simp at rightAt
          · exact fun _ => rfl
      | cons second picked =>
          cases relationships with
          | nil =>
              constructor
              · intro _ position left right expected _ _ expectedAt
                simp at expectedAt
              · exact fun _ => rfl
          | cons expected relationships =>
              rw [consistent_cons_cons, ← ih]
              cases first with
              | none => simp [isConsistent]
              | some left =>
                  cases second with
                  | none => simp [isConsistent]
                  | some right => simp [isConsistent]

/-! ## Optimal counters -/

section Optimum

variable (lists : List (List Candidate)) (relationships : List Relationship)

/-- The score of the picks at a counter. -/
def scoreAt (counter : List Nat) : Score :=
  mean (picks lists counter)

/-- A counter of the lists whose picks keep the relationships. -/
structure Admissible (counter : List Nat) : Prop where
  counts : Counts (lists.map List.length) counter
  consistent : Consistent relationships (picks lists counter)

/-- An admissible counter above the threshold that no admissible counter beats. -/
structure Optimal (counter : List Nat) : Prop where
  admissible : Admissible lists relationships counter
  above : minPartial.lt (scoreAt lists counter) = true
  unbeaten : ∀ other, Admissible lists relationships other →
    (scoreAt lists counter).lt (scoreAt lists other) = false

/-! ## The run -/

/-- The number of a counter of the lists. -/
def rank (counter : List Nat) : Nat :=
  place (lists.map List.length) counter

/-- A counter that was the first to reach its score. -/
structure FirstReached (counter : List Nat) (score : Score) : Prop where
  admissible : Admissible lists relationships counter
  reached : score = scoreAt lists counter
  above : minPartial.lt score = true
  first : ∀ other, Admissible lists relationships other → rank lists other < rank lists counter →
    minPartial.lt (scoreAt lists other) = true → (scoreAt lists other).lt score = true

/-- What is known of the leader when the counters before the given number have been tried. -/
structure Leads (tried : Nat) (leader : Leader) : Prop where
  unbeaten : ∀ other, Admissible lists relationships other → rank lists other < tried →
    leader.score.lt (scoreAt lists other) = false
  vacant : leader.counter = none → leader.score = minPartial
  held : ∀ counter, leader.counter = some counter →
    FirstReached lists relationships counter leader.score

variable {lists relationships} {counter : List Nat} {leader : Leader}

/-- What beats the leader is above the threshold. -/
theorem Leads.above {tried : Nat} (leads : Leads lists relationships tried leader) {score : Score}
    (beats : leader.score.lt score = true) : minPartial.lt score = true := by
  cases holder : leader.counter with
  | none => rwa [leads.vacant holder] at beats
  | some counter => exact Score.lt_trans (leads.held counter holder).above beats

/-- One more counter is tried. -/
theorem leads_challenge (counts : Counts (lists.map List.length) counter)
    (leads : Leads lists relationships (rank lists counter) leader) :
    Leads lists relationships (rank lists counter + 1)
      (leader.challenge lists relationships counter) := by
  -- Tried by now are those from before and the counter itself.
  have tried (other : List Nat) (admissible : Admissible lists relationships other)
      (below : rank lists other < rank lists counter + 1) :
      rank lists other < rank lists counter ∨ other = counter := by
    rcases Nat.lt_succ_iff_lt_or_eq.mp below with before | same
    · exact .inl before
    · exact .inr (eq_of_place_eq admissible.counts counts same)
  rw [Leader.challenge]
  cases taken : leader.score.lt (mean (picks lists counter)) &&
      isConsistent (picks lists counter) relationships with
  | true =>
      obtain ⟨beats, consistent⟩ := Bool.and_eq_true_iff.mp taken
      have admissible : Admissible lists relationships counter :=
        ⟨counts, isConsistent_iff.mp consistent⟩
      refine ⟨?_, nofun, ?_⟩
      · intro other otherAdmissible below
        rcases tried other otherAdmissible below with before | rfl
        · exact Score.not_lt_of_lt beats (leads.unbeaten other otherAdmissible before)
        · exact Score.lt_irrefl _
      · rintro holder ⟨⟩
        refine ⟨admissible, rfl, leads.above beats, ?_⟩
        intro other otherAdmissible before above
        have number := (Score.lt_iff.mp above).2.1
        exact Score.lt_of_not_lt number (leads.unbeaten other otherAdmissible before) beats
  | false =>
      refine ⟨?_, leads.vacant, leads.held⟩
      intro other admissible below
      rcases tried other admissible below with before | rfl
      · exact leads.unbeaten other admissible before
      · have consistent := isConsistent_iff.mpr admissible.consistent
        rwa [consistent, Bool.and_true] at taken

/-- The run tries all counters from its own on. -/
theorem leads_run {remaining : Nat} (counts : Counts (lists.map List.length) counter)
    (leads : Leads lists relationships (rank lists counter) leader)
    (total : rank lists counter + remaining = volume (lists.map List.length)) :
    Leads lists relationships (volume (lists.map List.length))
      (Leader.run lists relationships (lists.map List.length) remaining counter leader) := by
  induction remaining generalizing counter leader with
  | zero => rwa [← total]
  | succ remaining ih =>
      have advances := advances_advance counts
      have next := leads_challenge counts leads
      rw [Leader.run]
      cases carry : (advance (lists.map List.length) counter).2 with
      | false =>
          have number : rank lists (advance (lists.map List.length) counter).1 =
              rank lists counter + 1 := advances.forth carry
          apply ih advances.counts
          · rwa [number]
          · omega
      | true =>
          have last : rank lists counter + 1 = volume (lists.map List.length) :=
            advances.last carry
          obtain rfl : remaining = 0 := by omega
          rwa [Leader.run, ← last]

/-- After the whole run a leader without a counter means that nothing is above the threshold, and a
counter is the first of the optimal ones. -/
theorem Leads.optimal (leads : Leads lists relationships (volume (lists.map List.length)) leader)
    (holder : leader.counter = some counter) :
    Optimal lists relationships counter ∧
      (∀ other, Optimal lists relationships other → other ≠ counter →
        List.Lex (· < ·) counter other) ∧
      leader.score = scoreAt lists counter := by
  have first := leads.held counter holder
  have score := first.reached
  refine ⟨⟨first.admissible, ?_, ?_⟩, ?_, score⟩
  · rw [← score]
    exact first.above
  · intro other admissible
    rw [← score]
    exact leads.unbeaten other admissible (place_lt admissible.counts)
  · intro other optimal different
    have counts := first.admissible.counts
    have otherCounts := optimal.admissible.counts
    rcases Nat.lt_trichotomy (rank lists counter) (rank lists other) with before | same | after
    · exact (lex_iff_place_lt counts otherCounts).mpr before
    · exact absurd (eq_of_place_eq otherCounts counts same.symm) different
    · have lower := first.first other optimal.admissible after optimal.above
      rw [score, optimal.unbeaten counter first.admissible] at lower
      cases lower

/-- Before anything is tried the leader is the threshold. -/
theorem leads_zeros :
    Leads lists relationships (rank lists ((lists.map List.length).map fun _ => 0))
      ⟨minPartial, none⟩ := by
  refine ⟨?_, fun _ => rfl, nofun⟩
  intro other _ before
  rw [rank, rank, place_zeros] at before
  omega

end Optimum

/-! ## The alignment -/

/-- The alignment that a leader stands for in the end. -/
def Leader.outcome (lists : List (List Candidate)) (leader : Leader) : Alignment :=
  match leader.counter with
  | none => .noImprovement
  | some counter => .best leader.score ((picks lists counter).filterMap id)

theorem align_of_many {lists : List (List Candidate)} (relationships : List Relationship)
    (nonempty : lists ≠ []) (many : maxCombinations < combinationCount lists) :
    align lists relationships = .tooMany (combinationCount lists) := by
  have occupied : lists.isEmpty = false := by simpa using nonempty
  rw [align, occupied, if_neg Bool.false_ne_true]
  exact if_pos many

theorem align_of_few {lists : List (List Candidate)} (relationships : List Relationship)
    (nonempty : lists ≠ []) (few : combinationCount lists ≤ maxCombinations) :
    align lists relationships =
      (Leader.run lists relationships (lists.map List.length) (combinationCount lists)
        ((lists.map List.length).map fun _ => 0) ⟨minPartial, none⟩).outcome lists := by
  have occupied : lists.isEmpty = false := by simpa using nonempty
  have accepted : ¬ maxCombinations < combinationCount lists := Nat.not_lt.mpr few
  rw [align, occupied, if_neg Bool.false_ne_true, List.map_map]
  simp only [if_neg accepted]
  rfl

/-- Few combinations are all told. -/
theorem combinationCount_of_few {lists : List (List Candidate)}
    (few : combinationCount lists ≤ maxCombinations) :
    combinationCount lists = volume (lists.map List.length) := by
  have told := combinationCount_eq lists
  have ceiling : maxCombinations < maxCount := by decide
  omega

/-- When the combinations are few enough to be tried, the alignment is the outcome of a leader that
is right about all counters. -/
theorem exists_leads_of_few {lists : List (List Candidate)} (relationships : List Relationship)
    (nonempty : lists ≠ []) (few : combinationCount lists ≤ maxCombinations) :
    ∃ leader, Leads lists relationships (volume (lists.map List.length)) leader ∧
      align lists relationships = leader.outcome lists := by
  refine ⟨_, ?_, align_of_few relationships nonempty few⟩
  apply leads_run (counts_zeros _) leads_zeros
  rw [rank, place_zeros, combinationCount_of_few few, Nat.zero_add]

/-- What is found is held by a leader that is right about all counters, and was worth trying. -/
theorem exists_leads_of_align {lists : List (List Candidate)}
    {relationships : List Relationship} {score : Score} {selection : List Candidate}
    (best : align lists relationships = .best score selection) :
    combinationCount lists ≤ maxCombinations ∧
      ∃ leader counter, Leads lists relationships (volume (lists.map List.length)) leader ∧
        leader.counter = some counter ∧ score = leader.score ∧
        selection = (picks lists counter).filterMap id := by
  have nonempty : lists ≠ [] := by
    rintro rfl
    cases best
  have few : combinationCount lists ≤ maxCombinations := by
    by_contra many
    rw [align_of_many relationships nonempty (Nat.lt_of_not_le many)] at best
    cases best
  obtain ⟨leader, leads, outcome⟩ := exists_leads_of_few relationships nonempty few
  rw [outcome] at best
  cases holder : leader.counter with
  | none =>
      simp only [Leader.outcome, holder] at best
      cases best
  | some counter =>
      simp only [Leader.outcome, holder, Alignment.best.injEq] at best
      exact ⟨few, leader, counter, leads, holder, best.1.symm, best.2.symm⟩

/-- What is found was worth trying, and is above the threshold. -/
theorem few_and_above_of_align {lists : List (List Candidate)}
    {relationships : List Relationship} {score : Score} {selection : List Candidate}
    (best : align lists relationships = .best score selection) :
    combinationCount lists ≤ maxCombinations ∧ minPartial.lt score = true := by
  obtain ⟨few, leader, counter, leads, holder, rfl, -⟩ := exists_leads_of_align best
  exact ⟨few, (leads.held counter holder).above⟩

/-- What is selected are the picks of the first optimal counter. -/
theorem exists_optimal_of_align {lists : List (List Candidate)}
    {relationships : List Relationship} {score : Score} {selection : List Candidate}
    (best : align lists relationships = .best score selection) :
    ∃ counter, Optimal lists relationships counter ∧
      (∀ other, Optimal lists relationships other → other ≠ counter →
        List.Lex (· < ·) counter other) ∧
      score = scoreAt lists counter ∧ selection = (picks lists counter).filterMap id := by
  obtain ⟨-, leader, counter, leads, holder, rfl, picked⟩ := exists_leads_of_align best
  obtain ⟨optimal, first, reached⟩ := leads.optimal holder
  exact ⟨counter, optimal, first, reached, picked⟩

/-- Picks above the threshold are not all missing. -/
theorem exists_pick_of_above {picked : List (Option Candidate)}
    (above : minPartial.lt (mean picked) = true) : ∃ candidate, some candidate ∈ picked := by
  by_contra nothing
  have scores : (picked.filterMap fun pick => pick.map (·.score)) = [] := by
    rw [List.filterMap_eq_nil_iff]
    intro pick member
    cases pick with
    | none => rfl
    | some candidate => exact absurd ⟨candidate, member⟩ nothing
  have sum : Score.sum [] = .zero := rfl
  rw [mean, scores, sum, Score.not_lt_zero_div (by decide +kernel)] at above
  cases above

theorem ne_nil_of_above {picked : List (Option Candidate)}
    (above : minPartial.lt (mean picked) = true) : picked ≠ [] := by
  obtain ⟨_, member⟩ := exists_pick_of_above above
  exact List.ne_nil_of_mem member

/-- Consistent picks above the threshold are found or beaten. -/
theorem exists_best_of_admissible {lists : List (List Candidate)}
    {relationships : List Relationship} (few : combinationCount lists ≤ maxCombinations)
    {counter : List Nat} (admissible : Admissible lists relationships counter)
    (above : minPartial.lt (scoreAt lists counter) = true) :
    ∃ score selection, align lists relationships = .best score selection ∧
      scoreAt lists counter ≤ score := by
  have nonempty : lists ≠ [] := by
    rintro rfl
    exact ne_nil_of_above above List.zipWith_nil_left
  obtain ⟨leader, leads, outcome⟩ := exists_leads_of_few relationships nonempty few
  have unbeaten := leads.unbeaten counter admissible (place_lt admissible.counts)
  cases holder : leader.counter with
  | none =>
      rw [leads.vacant holder, above] at unbeaten
      cases unbeaten
  | some held =>
      simp only [Leader.outcome, holder] at outcome
      have leading := (Score.lt_iff.mp (leads.held held holder).above).2.1
      have number := (Score.lt_iff.mp above).2.1
      exact ⟨_, _, outcome, (Score.le_iff_not_lt number leading).mpr unbeaten⟩

/-- The alignment is found exactly when consistent picks score above the threshold. Its score is
then the highest of all consistent picks, and it picks what the first optimal counter points to. -/
theorem align_is_optimal {lists : List (List Candidate)} (relationships : List Relationship)
    (nonempty : lists ≠ []) (few : combinationCount lists ≤ maxCombinations) :
    ((∃ score selection, align lists relationships = .best score selection) ↔
      ∃ counter, Admissible lists relationships counter ∧
        minPartial.lt (scoreAt lists counter) = true) ∧
    (∀ score selection, align lists relationships = .best score selection →
      ∃ counter, Optimal lists relationships counter ∧
        (∀ other, Optimal lists relationships other → other ≠ counter →
        List.Lex (· < ·) counter other) ∧
        score = scoreAt lists counter ∧ selection = (picks lists counter).filterMap id) ∧
    ((¬ ∃ counter, Admissible lists relationships counter ∧
        minPartial.lt (scoreAt lists counter) = true) →
      align lists relationships = .noImprovement) := by
  obtain ⟨leader, leads, outcome⟩ := exists_leads_of_few relationships nonempty few
  cases holder : leader.counter with
  | none =>
      simp only [Leader.outcome, holder] at outcome
      have nothing : ¬ ∃ counter, Admissible lists relationships counter ∧
          minPartial.lt (scoreAt lists counter) = true := by
        rintro ⟨counter, admissible, above⟩
        have unbeaten := leads.unbeaten counter admissible (place_lt admissible.counts)
        rw [leads.vacant holder, above] at unbeaten
        cases unbeaten
      refine ⟨⟨?_, fun found => absurd found nothing⟩, ?_, fun _ => outcome⟩
      · rintro ⟨score, selection, best⟩
        rw [outcome] at best
        cases best
      · intro score selection best
        rw [outcome] at best
        cases best
  | some counter =>
      simp only [Leader.outcome, holder] at outcome
      obtain ⟨optimal, first, score⟩ := leads.optimal holder
      refine ⟨⟨fun _ => ⟨counter, optimal.admissible, optimal.above⟩,
        fun _ => ⟨_, _, outcome⟩⟩, ?_, fun nothing => ?_⟩
      · intro reached selection best
        rw [outcome] at best
        cases best
        exact ⟨counter, optimal, first, score, rfl⟩
      · exact absurd ⟨counter, optimal.admissible, optimal.above⟩ nothing

/-- Siblings are asked for, so the better of the first two candidates is not taken. -/
theorem align_is_optimal_siblings :
    let candidate (package : String) (score : Score) : Candidate :=
      ⟨.mk ⟨[]⟩ (.package (some package)) [], package, score⟩
    let lists := [[candidate "p.q.r" .one, candidate "p.t" (.ratio 4 5)],
      [candidate "p.s" (.ratio 9 10)]]
    lists ≠ [] ∧ combinationCount lists ≤ maxCombinations ∧
      ∃ score selection, align lists [.sibling] = .best score selection := by
  intro candidate lists
  have nonempty : lists ≠ [] := List.cons_ne_nil _ _
  have few : combinationCount lists ≤ maxCombinations := by decide
  refine ⟨nonempty, few, (align_is_optimal [.sibling] nonempty few).1.mpr ?_⟩
  have counts : Counts (lists.map List.length) [1, 0] :=
    .cons (by decide) (.cons (by decide) .nil)
  have consistent : isConsistent (picks lists [1, 0]) [.sibling] = true := by
    decide +kernel
  have above : minPartial.lt (scoreAt lists [1, 0]) = true := by
    decide +kernel
  exact ⟨[1, 0], ⟨counts, isConsistent_iff.mp consistent⟩, above⟩

end LibPrint.Matching
