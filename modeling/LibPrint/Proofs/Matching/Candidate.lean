import LibPrint.Matching.Candidate
import LibPrint.Proofs.Sorting

/-!
# What candidate lists hold

Every named library package has one list, and the list holds the app packages that are similar
enough and not excluded. Sorting arranges the lists and what is in them, but takes nothing away.
-/

namespace LibPrint.Matching

variable {app lib : List Node} {excluded : Option String}

theorem mem_eligible {packages : List Node} {node : Node} {name : String} :
    (node, name) ∈ eligible excluded packages ↔
      node ∈ packages ∧ node.packageName? = some name ∧
        ∀ root ∈ excluded, Package.isWithin name root = false := by
  have spared : (excluded.any fun root => Package.isWithin name root) = false ↔
      ∀ root ∈ excluded, Package.isWithin name root = false := by
    cases excluded <;> simp
  rw [← spared, eligible, List.mem_filterMap]
  constructor
  · rintro ⟨other, member, kept⟩
    cases named : other.packageName? with
    | none =>
        rw [named] at kept
        cases kept
    | some found =>
        simp only [named] at kept
        split at kept
        · cases kept
        · next outside =>
            cases kept
            exact ⟨member, named, Bool.not_eq_true _ ▸ outside⟩
  · rintro ⟨member, named, outside⟩
    exact ⟨node, member, by simp [named, outside]⟩

theorem candidatesFor_eq (packages : List (Node × String)) (node : Node) :
    candidatesFor packages node =
      (packages.filterMap fun entry => Candidate.of? node entry.1 entry.2).mergeSort
        fun left right => (right.score.totalCompare left.score).isLE :=
  rfl

theorem mem_candidatesFor {packages : List (Node × String)} {node : Node}
    {candidate : Candidate} :
    candidate ∈ candidatesFor packages node ↔
      (candidate.node, candidate.package) ∈ packages ∧
        candidate.score = similarity node candidate.node ∧
        minSimilarity.lt candidate.score = true := by
  rw [candidatesFor_eq, List.mem_mergeSort, List.mem_filterMap]
  constructor
  · rintro ⟨⟨found, name⟩, member, kept⟩
    simp only [Candidate.of?] at kept
    split at kept
    · next above =>
        cases kept
        exact ⟨member, rfl, above⟩
    · cases kept
  · rintro ⟨member, score, above⟩
    refine ⟨(candidate.node, candidate.package), member, ?_⟩
    simp only [Candidate.of?, ← score, if_pos above]

/-- When the node resembles one package alone, that is its only candidate. -/
theorem candidatesFor_eq_singleton {front back : List (Node × String)} {node image : Node}
    {name : String} (similar : minSimilarity.lt (similarity node image) = true)
    (others : ∀ other ∈ front ++ back, minSimilarity.lt (similarity node other.1) = false) :
    candidatesFor (front ++ (image, name) :: back) node =
      [⟨image, name, similarity node image⟩] := by
  have nothing (packages : List (Node × String)) (subset : packages ⊆ front ++ back) :
      packages.filterMap (fun entry => Candidate.of? node entry.1 entry.2) = [] := by
    rw [List.filterMap_eq_nil_iff]
    intro entry member
    exact if_neg (Bool.eq_false_iff.mp (others entry (subset member)))
  have found : Candidate.of? node image name = some ⟨image, name, similarity node image⟩ :=
    if_pos similar
  rw [candidatesFor_eq, List.filterMap_append, nothing front (List.subset_append_left _ _),
    List.nil_append, List.filterMap_cons, nothing back (List.subset_append_right _ _)]
  simp only [found, List.mergeSort_singleton]

theorem mem_candidateLists {list : CandidateList} :
    list ∈ candidateLists lib app excluded ↔
      list.node ∈ lib ∧ list.node.packageName? = some list.package ∧
        list.candidates = candidatesFor (eligible excluded app) list.node := by
  rw [candidateLists, List.mem_mergeSort, List.mem_map]
  constructor
  · rintro ⟨⟨node, name⟩, member, rfl⟩
    obtain ⟨present, named, -⟩ := mem_eligible.mp member
    exact ⟨present, named, rfl⟩
  · rintro ⟨present, named, candidates⟩
    refine ⟨(list.node, list.package), mem_eligible.mpr ⟨present, named, nofun⟩, ?_⟩
    simp only [← candidates]

/-! ## One list for each named package -/

theorem map_node_eligible (packages : List Node) :
    (eligible none packages).map (·.1) = packages.filter (·.packageName?.isSome) := by
  rw [eligible, List.map_filterMap, ← List.filterMap_eq_filter]
  apply List.filterMap_congr
  intro node _
  cases named : node.packageName? with
  | none => simp [Option.guard, named]
  | some name => simp [Option.guard, named]

/-- The candidate lists are those of the named library packages, one each. -/
theorem map_node_candidateLists_perm (lib app : List Node) (excluded : Option String) :
    ((candidateLists lib app excluded).map (·.node)).Perm
      (lib.filter (·.packageName?.isSome)) := by
  rw [← map_node_eligible, candidateLists]
  refine ((List.mergeSort_perm _ _).map _).trans ?_
  rw [List.map_map]
  exact .refl _

/-! ## The order of lists -/

/-- Lists are compared in lexicographic order: by having no candidates, by the score and the name of
the best one, and by their own names. -/
theorem CandidateList.compare_eq_compareLex :
    CandidateList.compare =
      compareLex (compareOn fun list => list.top?.isNone)
        (compareLex (compareOn fun list => (list.top?.map fun top => -top.score.rank).getD 0)
          (compareLex (compareOn fun list => (list.top?.map (·.package)).getD "")
            (compareOn (·.package)))) := by
  funext left right
  simp only [CandidateList.compare, compareLex, compareOn]
  cases left.top? with
  | none => cases right.top? <;> rfl
  | some first =>
      cases right.top? with
      | none => rfl
      | some second =>
          have descending : second.score.totalCompare first.score =
              Ord.compare (-first.score.rank) (-second.score.rank) := by
            change compareOfLessAndEq _ _ = compareOfLessAndEq _ _
            simp only [compareOfLessAndEq]
            grind
          simp only [descending]
          rfl

instance : Std.TransCmp CandidateList.compare := by
  rw [CandidateList.compare_eq_compareLex]
  infer_instance

/-- The candidate lists as they are found, before anything is put in order. -/
def foundLists (lib app : List Node) (excluded : Option String) : List CandidateList :=
  (eligible none lib).map fun (node, name) =>
    ⟨node, name, (eligible excluded app).filterMap fun (other, package) =>
      Candidate.of? node other package⟩

/-- What is found in order needs no sorting, and for that the library packages may be taken in any
order. -/
theorem candidateLists_eq_foundLists {arranged : List Node} (perm : lib.Perm arranged)
    (descending : ∀ list ∈ foundLists arranged app excluded,
      list.candidates.Pairwise fun left right =>
        (right.score.totalCompare left.score).isLE = true)
    (ascending : (foundLists arranged app excluded).Pairwise fun left right =>
      left.compare right = .lt) :
    candidateLists lib app excluded = foundLists arranged app excluded := by
  have made : ((eligible none arranged).map fun (node, name) =>
      (⟨node, name, candidatesFor (eligible excluded app) node⟩ : CandidateList)) =
        foundLists arranged app excluded := by
    apply List.map_congr_left
    rintro ⟨node, name⟩ member
    have isList := descending _ (List.mem_map.mpr ⟨_, member, rfl⟩)
    exact congrArg (CandidateList.mk node name) (List.mergeSort_of_pairwise isList)
  have different : (foundLists arranged app excluded).Pairwise fun left right =>
      left.compare right ≠ .eq :=
    ascending.imp fun less => by simp [less]
  have ties : ∀ first ∈ foundLists arranged app excluded,
      ∀ second ∈ foundLists arranged app excluded,
        first.compare second = .eq → first = second := by
    intro first firstMem second secondMem tied
    by_contra apart
    have symmetric : Std.Symm fun left right : CandidateList => left.compare right ≠ .eq :=
      ⟨fun _ _ differ same => differ (Std.OrientedCmp.eq_symm same)⟩
    exact different.forall firstMem secondMem apart tied
  have same : (foundLists arranged app excluded).Perm ((eligible none lib).map
      fun (node, name) => ⟨node, name, candidatesFor (eligible excluded app) node⟩) := by
    rw [← made]
    exact (perm.symm.filterMap _).map _
  rw [candidateLists, ← mergeSort_eq_of_perm CandidateList.compare same ties]
  exact List.mergeSort_of_pairwise (ascending.imp fun less => by rw [less]; rfl)

end LibPrint.Matching
