import LibPrint.Matching.Candidate
import LibPrint.Matching.TreeMatch
import LibPrint.Proofs.Matching.Optimum
import LibPrint.Proofs.Sorting

/-!
# Partial matches

Which partitions of an app are tried, and which of them is reported.
-/

/-!
## Which packages are partitions

The ancestors of the app packages at the depth of the library's root package, in order. When there
are several, those within the root package itself are preferred, and when none is, all are kept.
-/

namespace LibPrint.Matching

/-- The ancestors of the app packages that are as deep as the library's root package, in order. -/
def ancestors (app : List Node) (libRoot : String) : List String :=
  Text.sortDistinct ((app.filterMap Node.packageName?).filterMap fun name =>
    Package.ancestorAt? name (Package.depth libRoot))

variable {app : List Node} {libRoot : String}

theorem mem_ancestors {partition : String} :
    partition ∈ ancestors app libRoot ↔
      ∃ node ∈ app, ∃ name, node.packageName? = some name ∧
        Package.ancestorAt? name (Package.depth libRoot) = some partition := by
  simp only [ancestors, Text.mem_sortDistinct, List.mem_filterMap]
  constructor
  · rintro ⟨name, ⟨node, member, named⟩, cut⟩
    exact ⟨node, member, name, named, cut⟩
  · rintro ⟨node, member, name, named, cut⟩
    exact ⟨name, ⟨node, member, named⟩, cut⟩

/-- Ancestors that are found in order need no sorting. -/
theorem ancestors_eq_of_pairwise
    (ascending : ((app.filterMap Node.packageName?).filterMap fun name =>
      Package.ancestorAt? name (Package.depth libRoot)).Pairwise fun left right =>
        Text.le left right = true) :
    ancestors app libRoot = ((app.filterMap Node.packageName?).filterMap fun name =>
      Package.ancestorAt? name (Package.depth libRoot)).eraseReps := by
  rw [ancestors, Text.sortDistinct, Text.sort, List.mergeSort_of_pairwise ascending]

/-- Partitions are all ancestors, or those within the root package. -/
theorem partitions_eq (app : List Node) (libRoot : String) :
    partitions app libRoot =
      if (ancestors app libRoot).length ≤ 1 ∨
          (ancestors app libRoot).filter (Package.isWithin · libRoot) = [] then
        ancestors app libRoot
      else (ancestors app libRoot).filter (Package.isWithin · libRoot) := by
  by_cases few : (ancestors app libRoot).length ≤ 1
  · rw [if_pos (.inl few), partitions]
    exact if_pos few
  · simp only [partitions]
    rw [← ancestors, if_neg few]
    cases kept : (ancestors app libRoot).filter (Package.isWithin · libRoot) with
    | nil => rw [if_pos (.inr rfl)]
    | cons package packages => rw [if_neg (by simp [few])]

theorem partitions_sublist (app : List Node) (libRoot : String) :
    (partitions app libRoot).Sublist (ancestors app libRoot) := by
  rw [partitions_eq]
  split
  · exact .refl _
  · exact List.filter_sublist

theorem pairwise_partitions (app : List Node) (libRoot : String) :
    (partitions app libRoot).Pairwise (· < ·) :=
  (Text.pairwise_sortDistinct _).sublist (partitions_sublist app libRoot)

/-- An ancestor stays when it is within the root package, or when no other one is either. -/
theorem mem_partitions_of_mem {partition : String} (member : partition ∈ ancestors app libRoot)
    (preferred : Package.isWithin partition libRoot = true ∨
      ∀ other ∈ ancestors app libRoot, Package.isWithin other libRoot = false) :
    partition ∈ partitions app libRoot := by
  rw [partitions_eq]
  split
  · exact member
  · next several =>
      rcases preferred with within | outside
      · exact List.mem_filter.mpr ⟨member, within⟩
      · have none : (ancestors app libRoot).filter (Package.isWithin · libRoot) = [] := by
          rw [List.filter_eq_nil_iff]
          intro other otherMem
          rw [outside other otherMem]
          exact Bool.false_ne_true
        exact absurd (.inr none) several

/-- The partitions are the ancestors within the root package, or all of them when none is. -/
theorem mem_partitions_iff {partition : String} :
    partition ∈ partitions app libRoot ↔
      partition ∈ ancestors app libRoot ∧
        (Package.isWithin partition libRoot = true ∨
          ∀ other ∈ ancestors app libRoot, Package.isWithin other libRoot = false) := by
  refine ⟨fun member => ?_, fun found => mem_partitions_of_mem found.1 found.2⟩
  refine ⟨(partitions_sublist app libRoot).subset member, ?_⟩
  rw [partitions_eq] at member
  split at member
  · next whole =>
    rcases whole with few | outside
    · -- A single ancestor is within the root package, or no ancestor is.
      have occupied := List.length_pos_of_mem member
      obtain ⟨only, single⟩ := List.length_eq_one_iff.mp (Nat.le_antisymm few occupied)
      rw [single, List.mem_singleton] at member
      subst member
      rw [single]
      cases within : Package.isWithin partition libRoot with
      | true => exact .inl rfl
      | false => exact .inr (List.forall_mem_singleton.mpr within)
    · right
      intro other otherMem
      exact Bool.eq_false_iff.mpr (List.filter_eq_nil_iff.mp outside other otherMem)
  · exact .inl (List.mem_filter.mp member).2

end LibPrint.Matching

/-!
## The best partition

A partial match tries the partitions of the app one by one, in order, and keeps the best. Partitions
are skipped for three different reasons, and of equal scores the first one stays. Here the
partitions that count are singled out without running the comparison, and the one that is reported
turns out to be the smallest of those with the highest score.
-/

namespace LibPrint.Matching

/-! ### Partitions that count -/

/-- A partition covers enough of the library, has few enough combinations to be tried, and the best
of them has the given score. -/
def BestAt (lists : List CandidateList) (partition : String) (score : Score)
    (selection : List Candidate) : Prop :=
  ∃ restricted, restrict? lists partition = some restricted ∧
    combinationCount restricted ≤ maxCombinations ∧
    align restricted (relationships lists) = .best score selection

variable {lists : List CandidateList}

theorem BestAt.number {partition : String} {score : Score} {selection : List Candidate}
    (best : BestAt lists partition score selection) : score.isNaN = false := by
  obtain ⟨restricted, -, -, aligned⟩ := best
  exact (Score.lt_iff.mp (few_and_above_of_align aligned).2).2.1

/-- The partitions that are not skipped are those that count. -/
theorem alignPartition?_eq_some_iff {partition : String} {found : PartitionMatch} :
    alignPartition? lists partition = some found ↔
      found.partition = partition ∧ BestAt lists partition found.score found.selection := by
  constructor
  · intro aligned
    rw [alignPartition?] at aligned
    cases covered : restrict? lists partition with
    | none =>
        rw [covered] at aligned
        cases aligned
    | some restricted =>
        simp only [covered] at aligned
        cases outcome : align restricted (relationships lists) with
        | best score selection =>
            simp only [outcome, Option.some.injEq] at aligned
            subst aligned
            exact ⟨rfl, restricted, covered, (few_and_above_of_align outcome).1, outcome⟩
        | noImprovement | tooMany =>
            simp [outcome] at aligned
  · rintro ⟨rfl, restricted, covered, -, outcome⟩
    simp only [alignPartition?, covered, outcome]

/-! ### The winner -/

/-- One of those that were found has the highest score, and comes first among all that have it. -/
structure Wins (found : List PartitionMatch) (best : PartitionMatch) : Prop where
  member : best ∈ found
  highest : ∀ other ∈ found, other.score ≤ best.score
  first : ∀ other ∈ found, best.score ≤ other.score →
    other = best ∨ best.partition < other.partition

theorem bestPartition?_concat (found : List PartitionMatch) (next : PartitionMatch) :
    bestPartition? (found ++ [next]) =
      match bestPartition? found with
      | none => some next
      | some best => if best.score.lt next.score then some next else some best := by
  rw [bestPartition?, List.foldl_append]
  rfl

/-- One more partition behind all others takes over when it is strictly better. -/
theorem wins_concat {found : List PartitionMatch} {best next : PartitionMatch}
    (wins : Wins found best) (number : next.score.isNaN = false)
    (after : ∀ other ∈ found, other.partition < next.partition) :
    Wins (found ++ [next]) (if best.score.lt next.score then next else best) := by
  have leading := (wins.highest best wins.member).1
  cases beaten : best.score.lt next.score with
  | true =>
      obtain ⟨-, -, above⟩ := Score.lt_iff.mp beaten
      rw [if_pos rfl]
      refine ⟨by simp, ?_, ?_⟩
      · intro other member
        rcases List.mem_append.mp member with before | last
        · exact Score.le_trans (wins.highest other before) (Score.le_of_lt beaten)
        · rw [List.mem_singleton.mp last]
          exact Score.le_self number
      · intro other member reaches
        rcases List.mem_append.mp member with before | last
        · -- Nobody before reaches what beats the best of them.
          have below := (wins.highest other before).2.2
          have reached := reaches.2.2
          omega
        · exact .inl (List.mem_singleton.mp last)
  | false =>
      have lower := (Score.le_iff_not_lt number leading).mpr beaten
      rw [if_neg Bool.false_ne_true]
      refine ⟨List.mem_append_left _ wins.member, ?_, ?_⟩
      · intro other member
        rcases List.mem_append.mp member with before | last
        · exact wins.highest other before
        · rw [List.mem_singleton.mp last]
          exact lower
      · intro other member reaches
        rcases List.mem_append.mp member with before | last
        · exact wins.first other before reaches
        · rw [List.mem_singleton.mp last]
          exact .inr (after best wins.member)

/-- A partition wins exactly when something was found. -/
theorem bestPartition?_eq_none_iff {found : List PartitionMatch} :
    bestPartition? found = none ↔ found = [] := by
  constructor
  · intro nothing
    cases found using List.reverseRecOn with
    | nil => rfl
    | append_singleton found next =>
        rw [bestPartition?_concat] at nothing
        cases before : bestPartition? found with
        | none =>
            rw [before] at nothing
            cases nothing
        | some best =>
            simp only [before] at nothing
            split at nothing <;> cases nothing
  · rintro rfl
    rfl

/-- What is kept in the end wins, when the partitions come in order. -/
theorem wins_of_bestPartition? {found : List PartitionMatch} {best : PartitionMatch}
    (ordered : found.Pairwise fun left right => left.partition < right.partition)
    (numbers : ∀ other ∈ found, other.score.isNaN = false)
    (kept : bestPartition? found = some best) : Wins found best := by
  induction found using List.reverseRecOn generalizing best with
  | nil => cases kept
  | append_singleton found next ih =>
      obtain ⟨orderedFound, -, after⟩ := List.pairwise_append.mp ordered
      have number := numbers next (by simp)
      rw [bestPartition?_concat] at kept
      cases before : bestPartition? found with
      | none =>
          simp only [before, Option.some.injEq] at kept
          rw [bestPartition?_eq_none_iff] at before
          subst before kept
          exact ⟨by simp, by simpa using Score.le_self number, by simp⟩
      | some leader =>
          have wins := ih orderedFound
            (fun other member => numbers other (List.mem_append_left _ member)) before
          have more := wins_concat wins number fun other member => after other member next (by simp)
          simp only [before] at kept
          cases beaten : leader.score.lt next.score with
          | true =>
              simp only [beaten, if_true, Option.some.injEq] at kept more
              rwa [← kept]
          | false =>
              simp only [beaten, Bool.false_eq_true, if_false, Option.some.injEq] at kept more
              rwa [← kept]

/-! ### Partial matching -/

/-- The comparison of two trees gets as far as partial matching: they are of one recipe, not all of
the library's digests occur in the app, and partial matching is wanted. -/
structure ReachesPartial (options : Options) (app lib : HashTree) : Prop where
  comparable : lib.config.comparable app.config = true
  missing : ∃ node ∈ lib.packages, Node.hasDigest app.packages node.digest = false
  wanted : options.fullOnly = false

variable {options : Options} {app lib : HashTree}

theorem matchTrees_of_reachesPartial (reaches : ReachesPartial options app lib)
    (libRoot : String) :
    matchTrees options app lib (some libRoot) = .ok (partialMatch options app lib libRoot) := by
  obtain ⟨node, member, absent⟩ := reaches.missing
  have occupied : lib.isEmpty = false := by
    rw [HashTree.isEmpty, List.isEmpty_eq_false_iff]
    exact List.ne_nil_of_mem member
  have missing : contained? app lib = none := by
    rw [contained?, if_neg]
    intro every
    rw [List.all_eq_true.mp every node member] at absent
    cases absent
  simp [matchTrees, reaches.comparable, occupied, missing, reaches.wanted]

/-- The alignments that are found, partition by partition. -/
def alignments (options : Options) (app lib : HashTree) (libRoot : String) :
    List PartitionMatch :=
  (partitions app.packages libRoot).filterMap
    (alignPartition? (candidateLists lib.packages app.packages options.appPackage))

theorem mem_alignments {libRoot : String} {found : PartitionMatch} :
    found ∈ alignments options app lib libRoot ↔
      found.partition ∈ partitions app.packages libRoot ∧
        BestAt (candidateLists lib.packages app.packages options.appPackage) found.partition
          found.score found.selection := by
  simp only [alignments, List.mem_filterMap, alignPartition?_eq_some_iff]
  constructor
  · rintro ⟨partition, member, rfl, best⟩
    exact ⟨member, best⟩
  · rintro ⟨member, best⟩
    exact ⟨_, member, rfl, best⟩

theorem pairwise_alignments (options : Options) (app lib : HashTree) (libRoot : String) :
    (alignments options app lib libRoot).Pairwise fun left right =>
      left.partition < right.partition := by
  apply (pairwise_partitions app.packages libRoot).filterMap
  intro left right below found isFound other isOther
  rw [(alignPartition?_eq_some_iff.mp isFound).1, (alignPartition?_eq_some_iff.mp isOther).1]
  exact below

/-- A partial match depends on the app by its configuration and the alignments alone. -/
theorem partialMatch_eq (options : Options) (app lib : HashTree) (libRoot : String) :
    partialMatch options app lib libRoot =
      match bestPartition? (alignments options app lib libRoot) with
      | none => ⟨app.config, .noMatch, [], none⟩
      | some best =>
          ⟨app.config, .ofScore best.score, best.selection.map (·.node), some best.partition⟩ :=
  rfl

/-- The same where the candidate lists and the partitions are known. -/
theorem partialMatch_of_eq {libRoot : String} {lists : List CandidateList} {tried : List String}
    (isLists : candidateLists lib.packages app.packages options.appPackage = lists)
    (isTried : partitions app.packages libRoot = tried) :
    partialMatch options app lib libRoot =
      match bestPartition? (tried.filterMap (alignPartition? lists)) with
      | none => ⟨app.config, .noMatch, [], none⟩
      | some best =>
          ⟨app.config, .ofScore best.score, best.selection.map (·.node), some best.partition⟩ := by
  subst isLists isTried
  rfl

/-- A partial match is that of the winning partition, if there is one. -/
theorem partialMatch_cases (options : Options) (app lib : HashTree) (libRoot : String) :
    (alignments options app lib libRoot = [] ∧
      partialMatch options app lib libRoot = ⟨app.config, .noMatch, [], none⟩) ∨
    ∃ best, Wins (alignments options app lib libRoot) best ∧
      partialMatch options app lib libRoot =
        ⟨app.config, .ofScore best.score, best.selection.map (·.node), some best.partition⟩ := by
  cases kept : bestPartition? (alignments options app lib libRoot) with
  | none =>
      left
      rw [partialMatch_eq, kept]
      exact ⟨bestPartition?_eq_none_iff.mp kept, rfl⟩
  | some best =>
      right
      rw [partialMatch_eq, kept]
      refine ⟨best, ?_, rfl⟩
      apply wins_of_bestPartition? (pairwise_alignments options app lib libRoot) _ kept
      intro other member
      exact (mem_alignments.mp member).2.number

/-- The verdict on a score is full containment when the score is at least one. -/
theorem verdict_ofScore {score : Score} (number : score.isNaN = false) :
    (.one ≤ score → Verdict.ofScore score = .full) ∧
      (¬ .one ≤ score → Verdict.ofScore score = .similar score) := by
  have reaches : Score.one ≤ score ↔ score.lt .one = false :=
    Score.le_iff_not_lt (by decide) number
  constructor
  · intro whole
    rw [Verdict.ofScore, reaches.mp whole, if_neg Bool.false_ne_true]
  · intro part
    rw [reaches, Bool.not_eq_false] at part
    rw [Verdict.ofScore, part, if_pos rfl]

/-- Partial matching reports the smallest of the partitions with the highest score, that score and
what was picked for it; and nothing when no partition counts. -/
theorem matchTrees_is_best_partition (reaches : ReachesPartial options app lib)
    (libRoot : String) :
    let lists := candidateLists lib.packages app.packages options.appPackage
    let tried := partitions app.packages libRoot
    ∃ result, matchTrees options app lib (some libRoot) = .ok result ∧
      result.config = app.config ∧
      ((∀ partition ∈ tried, ∀ score selection, ¬ BestAt lists partition score selection) →
        result.verdict = .noMatch ∧ result.nodes = [] ∧ result.rootPackage = none) ∧
      ((∃ partition ∈ tried, ∃ score selection, BestAt lists partition score selection) →
        ∃ partition ∈ tried, ∃ score selection, BestAt lists partition score selection ∧
          (∀ other ∈ tried, ∀ otherScore otherSelection,
            BestAt lists other otherScore otherSelection →
              otherScore ≤ score ∧
                (score ≤ otherScore → other = partition ∨ partition < other)) ∧
          result.rootPackage = some partition ∧
          result.nodes = selection.map (·.node) ∧
          (.one ≤ score → result.verdict = .full) ∧
          (¬ .one ≤ score → result.verdict = .similar score)) := by
  intro lists tried
  refine ⟨partialMatch options app lib libRoot, matchTrees_of_reachesPartial reaches libRoot, ?_⟩
  rcases partialMatch_cases options app lib libRoot with ⟨nothing, result⟩ | ⟨best, wins, result⟩
  · rw [result]
    refine ⟨rfl, fun _ => ⟨rfl, rfl, rfl⟩, ?_⟩
    rintro ⟨partition, member, score, selection, found⟩
    have present : ⟨partition, score, selection⟩ ∈ alignments options app lib libRoot :=
      mem_alignments.mpr ⟨member, found⟩
    rw [nothing] at present
    cases present
  · rw [result]
    obtain ⟨member, found⟩ := mem_alignments.mp wins.member
    refine ⟨rfl, fun nothing => absurd found (nothing _ member _ _), fun _ => ?_⟩
    refine ⟨best.partition, member, best.score, best.selection, found, ?_, rfl, rfl,
      verdict_ofScore found.number⟩
    intro other otherMem otherScore otherSelection otherFound
    have present : ⟨other, otherScore, otherSelection⟩ ∈ alignments options app lib libRoot :=
      mem_alignments.mpr ⟨otherMem, otherFound⟩
    refine ⟨wins.highest _ present, ?_⟩
    intro reached
    rcases wins.first _ present reached with same | after
    · exact .inl (congrArg PartitionMatch.partition same)
    · exact .inr after

/-- Two packages of the app hold three of the library's four classes each. -/
theorem matchTrees_is_best_partition_tie :
    let package (digest : UInt8) (name : String) (classes : List UInt8) : Node :=
      .mk ⟨[digest]⟩ (.package (some name))
        (classes.map fun digest => .mk ⟨[digest]⟩ (.class none) [])
    let lib := HashTree.ofPackages .standard [package 1 "com.lib" [11, 12, 13, 14]] ⟨1, 4, 0⟩
    let app := HashTree.ofPackages .standard
      [package 2 "x.y" [11, 12, 13, 15], package 3 "p.q" [12, 13, 14, 16]] ⟨2, 8, 0⟩
    ReachesPartial ⟨none, false⟩ app lib ∧
      ∃ result, matchTrees ⟨none, false⟩ app lib (some "com.lib") = .ok result ∧
        result.config = .standard := by
  intro package lib app
  have reaches : ReachesPartial ⟨none, false⟩ app lib :=
    ⟨by decide, ⟨_, List.mem_singleton_self _, by decide⟩, rfl⟩
  obtain ⟨result, matched, config, -⟩ := matchTrees_is_best_partition reaches "com.lib"
  exact ⟨reaches, result, matched, config⟩

end LibPrint.Matching
