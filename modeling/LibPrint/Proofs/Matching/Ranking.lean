import LibPrint.Proofs.Matching.Candidate
import LibPrint.Proofs.Score.Order
import LibPrint.Proofs.Text

/-!
# Which candidates, and in which order

A library package has as its candidates all the app packages that are named, not excluded and
similar enough, the most similar first and equally similar ones as they come in the app. The lists
themselves are in a strict order when no two library packages share a name, so the order of the
library's packages does not show in them.
-/

namespace LibPrint.Matching

/-- The app nodes that have to be candidates of a library node: those with a name that is neither
the excluded one nor below it, and which are similar enough. -/
def suitable (excluded : Option String) (lib : Node) (app : List Node) : List Node :=
  app.filter fun node =>
    node.packageName?.any (fun name => !excluded.any fun root => Package.isWithin name root) &&
      minSimilarity.lt (similarity lib node)

/-- The candidates of a library node: the suitable ones, each once, by descending score, and those
of one score in the order of the app. -/
structure Ranks (excluded : Option String) (lib : Node) (app : List Node)
    (candidates : List Candidate) : Prop where
  named : ∀ candidate ∈ candidates, candidate.node.packageName? = some candidate.package
  scored : ∀ candidate ∈ candidates, candidate.score = similarity lib candidate.node
  complete : (candidates.map (·.node)).Perm (suitable excluded lib app)
  descending : candidates.Pairwise fun left right => right.score ≤ left.score
  ties : ∀ score, (candidates.map (·.node)).filter (similarity lib · = score) =
    (suitable excluded lib app).filter (similarity lib · = score)

/-- The order in which candidate lists stand: those without candidates last and by their names, the
others by the highest score, the name of the first candidate and their own name. -/
def Precedes (left right : CandidateList) : Prop :=
  match left.candidates, right.candidates with
  | [], [] => left.package < right.package
  | [], _ :: _ => False
  | _ :: _, [] => True
  | first :: _, second :: _ =>
      second.score.lt first.score = true ∨
        first.score = second.score ∧
          (first.package < second.package ∨
            first.package = second.package ∧ left.package < right.package)

variable {app lib : List Node} {excluded : Option String} {node : Node}

/-! ## One list -/

/-- The candidates as they come in the app. -/
def proposed (excluded : Option String) (node : Node) (app : List Node) : List Candidate :=
  (eligible excluded app).filterMap fun entry => Candidate.of? node entry.1 entry.2

theorem map_node_proposed (excluded : Option String) (node : Node) (app : List Node) :
    (proposed excluded node app).map (·.node) = suitable excluded node app := by
  rw [proposed, eligible, suitable, List.filterMap_filterMap, List.map_filterMap,
    ← List.filterMap_eq_filter]
  apply List.filterMap_congr
  intro other _
  cases named : other.packageName? with
  | none => simp [Option.guard, named]
  | some name =>
      cases spared : excluded.any fun root => Package.isWithin name root <;>
        cases similar : minSimilarity.lt (similarity node other) <;>
          simp [Option.guard, named, spared, similar, Candidate.of?]

theorem positive_of_similar {score : Score} (similar : minSimilarity.lt score = true) :
    Score.zero.lt score = true :=
  Score.lt_trans (by decide +kernel) similar

/-- Candidates are compared by their scores, the highest first. -/
def byScore (left right : Candidate) : Ordering :=
  right.score.totalCompare left.score

instance : Std.TransCmp byScore :=
  @Std.TransCmp.opposite Candidate (compareOn (·.score.rank)) inferInstance

theorem candidatesFor_eligible (excluded : Option String) (node : Node) (app : List Node) :
    candidatesFor (eligible excluded app) node =
      (proposed excluded node app).mergeSort fun left right => (byScore left right).isLE :=
  candidatesFor_eq _ _

theorem ranks_candidatesFor (excluded : Option String) (node : Node) (app : List Node) :
    Ranks excluded node app (candidatesFor (eligible excluded app) node) := by
  have described : ∀ candidate ∈ candidatesFor (eligible excluded app) node,
      candidate.node.packageName? = some candidate.package ∧
        candidate.score = similarity node candidate.node ∧
        Score.zero.lt candidate.score = true := by
    intro candidate member
    obtain ⟨isEligible, score, similar⟩ := mem_candidatesFor.mp member
    exact ⟨(mem_eligible.mp isEligible).2.1, score, positive_of_similar similar⟩
  have sorted : (candidatesFor (eligible excluded app) node).Perm (proposed excluded node app) := by
    rw [candidatesFor_eligible]
    exact List.mergeSort_perm _ _
  refine ⟨fun candidate member => (described candidate member).1,
    fun candidate member => (described candidate member).2.1, ?_, ?_, ?_⟩
  · rw [← map_node_proposed]
    exact sorted.map _
  · have ordered := pairwise_mergeSort_isLE byScore (proposed excluded node app)
    rw [← candidatesFor_eligible] at ordered
    apply ordered.imp_of_mem
    intro left right leftMem rightMem before
    exact (Score.le_iff_totalCompare_isLE (described right rightMem).2.2
      (described left leftMem).2.2).mpr before
  · intro score
    -- Candidates of one score are not told apart by the sort, so it leaves them as they come.
    rw [← map_node_proposed, List.filter_map, List.filter_map, candidatesFor_eligible,
      filter_mergeSort byScore]
    intro first firstMem second secondMem firstKept secondKept
    have firstScore := (described first (sorted.mem_iff.mpr firstMem)).2.1
    have secondScore := (described second (sorted.mem_iff.mpr secondMem)).2.1
    simp only [Function.comp_apply, decide_eq_true_eq] at firstKept secondKept
    rw [byScore, firstScore, secondScore, firstKept, secondKept]
    exact Int.isLE_compare.mpr (Int.le_refl _)

/-! ## All lists -/

theorem map_package_eligible (packages : List Node) :
    (eligible none packages).map (·.2) = packages.filterMap Node.packageName? := by
  rw [eligible, List.map_filterMap]
  apply List.filterMap_congr
  intro node _
  cases node.packageName? <;> rfl

/-- Lists are equal in their order only when they are of packages of one name. -/
theorem package_eq_of_compare_eq {left right : CandidateList} (tied : left.compare right = .eq) :
    left.package = right.package := by
  rw [CandidateList.compare] at tied
  cases leftTop : left.top? with
  | none =>
      cases rightTop : right.top? with
      | none =>
          rw [leftTop, rightTop] at tied
          have names : compare left.package right.package = .eq := tied
          exact Std.LawfulEqCmp.eq_of_compare names
      | some second =>
          rw [leftTop, rightTop] at tied
          cases tied
  | some first =>
      cases rightTop : right.top? with
      | none =>
          rw [leftTop, rightTop] at tied
          cases tied
      | some second =>
          rw [leftTop, rightTop] at tied
          have names := Ordering.then_eq_eq.mp (Ordering.then_eq_eq.mp tied).2
          exact Std.LawfulEqCmp.eq_of_compare names.2

theorem precedes_of_compare_lt {left right : CandidateList}
    (leftPositive : ∀ top ∈ left.candidates, Score.zero.lt top.score = true)
    (rightPositive : ∀ top ∈ right.candidates, Score.zero.lt top.score = true)
    (before : left.compare right = .lt) : Precedes left right := by
  rw [CandidateList.compare, CandidateList.top?, CandidateList.top?] at before
  rw [Precedes]
  cases leftEq : left.candidates with
  | nil =>
      cases rightEq : right.candidates with
      | nil =>
          rw [leftEq, rightEq] at before
          exact Text.compare_eq_lt_iff.mp before
      | cons second _ =>
          rw [leftEq, rightEq] at before
          cases before
  | cons first firsts =>
      cases rightEq : right.candidates with
      | nil => trivial
      | cons second seconds =>
          have firstPositive := leftPositive first (leftEq ▸ List.mem_cons_self)
          have secondPositive := rightPositive second (rightEq ▸ List.mem_cons_self)
          rw [leftEq, rightEq] at before
          simp only [List.head?_cons, Ordering.then_eq_lt] at before
          rcases before with higher | ⟨tied, others⟩
          · exact .inl ((Score.lt_iff_totalCompare_eq secondPositive firstPositive).mpr higher)
          · have same := Score.eq_of_totalCompare_eq secondPositive firstPositive tied
            refine .inr ⟨same.symm, ?_⟩
            rcases others with named | ⟨equal, own⟩
            · exact .inl (Text.compare_eq_lt_iff.mp named)
            · exact .inr ⟨Std.LawfulEqCmp.eq_of_compare equal, Text.compare_eq_lt_iff.mp own⟩

section Distinct

variable (app : List Node) (excluded : Option String)
  (distinct : (lib.filterMap Node.packageName?).Nodup)

include distinct

/-- With distinct names a list is told by the name of its package. -/
theorem eq_of_package_eq {first second : CandidateList}
    (firstMem : first ∈ candidateLists lib app excluded)
    (secondMem : second ∈ candidateLists lib app excluded) (same : first.package = second.package) :
    first = second := by
  obtain ⟨firstPresent, firstNamed, firstCandidates⟩ := mem_candidateLists.mp firstMem
  obtain ⟨secondPresent, secondNamed, secondCandidates⟩ := mem_candidateLists.mp secondMem
  rw [← map_package_eligible] at distinct
  have entries : (first.node, first.package) = (second.node, second.package) :=
    List.inj_on_of_nodup_map distinct (mem_eligible.mpr ⟨firstPresent, firstNamed, nofun⟩)
      (mem_eligible.mpr ⟨secondPresent, secondNamed, nofun⟩) same
  have nodes : first.node = second.node := congrArg Prod.fst entries
  cases first
  cases second
  simp_all

theorem nodup_packages :
    ((candidateLists lib app excluded).map (·.package)).Nodup := by
  have sorted : ((candidateLists lib app excluded).map (·.package)).Perm
      (lib.filterMap Node.packageName?) := by
    rw [← map_package_eligible, candidateLists]
    refine ((List.mergeSort_perm _ _).map _).trans ?_
    rw [List.map_map]
    exact .refl _
  exact sorted.nodup_iff.mpr distinct

theorem pairwise_precedes : (candidateLists lib app excluded).Pairwise Precedes := by
  have ordered : (candidateLists lib app excluded).Pairwise fun left right =>
      (left.compare right).isLE = true :=
    pairwise_mergeSort_isLE CandidateList.compare _
  have different := List.pairwise_map.mp (nodup_packages app excluded distinct)
  apply (ordered.and different).imp_of_mem
  rintro left right leftMem rightMem ⟨before, apart⟩
  -- The total order of scores is that of the numbers where these are positive.
  have positive {list : CandidateList} (member : list ∈ candidateLists lib app excluded) :
      ∀ top ∈ list.candidates, Score.zero.lt top.score = true := by
    intro top topMem
    rw [(mem_candidateLists.mp member).2.2] at topMem
    exact positive_of_similar (mem_candidatesFor.mp topMem).2.2
  apply precedes_of_compare_lt (positive leftMem) (positive rightMem)
  cases order : left.compare right with
  | lt => rfl
  | eq => exact absurd (package_eq_of_compare_eq order) apart
  | gt => simp [order] at before

theorem candidateLists_eq_of_perm {arranged : List Node} (perm : lib.Perm arranged) :
    candidateLists arranged app excluded = candidateLists lib app excluded := by
  have found : (eligible none lib).Perm (eligible none arranged) := perm.filterMap _
  rw [candidateLists, candidateLists]
  refine (mergeSort_eq_of_perm CandidateList.compare (found.map _) ?_).symm
  intro first firstMem second secondMem tied
  exact eq_of_package_eq app excluded distinct (List.mem_mergeSort.mpr firstMem)
    (List.mem_mergeSort.mpr secondMem) (package_eq_of_compare_eq tied)

end Distinct

/-- There is one list for each named library package, it holds the suitable app packages in their
order, and the lists stand in a strict order, which does not depend on that of the library's
packages. -/
theorem candidateLists_are_canonical (app : List Node) (excluded : Option String)
    (distinct : (lib.filterMap Node.packageName?).Nodup) :
    ((candidateLists lib app excluded).map (·.node)).Perm (lib.filter (·.packageName?.isSome)) ∧
    (∀ list ∈ candidateLists lib app excluded,
      list.node.packageName? = some list.package ∧
        Ranks excluded list.node app list.candidates) ∧
    (candidateLists lib app excluded).Pairwise Precedes ∧
    ∀ arranged, lib.Perm arranged →
      candidateLists arranged app excluded = candidateLists lib app excluded := by
  refine ⟨map_node_candidateLists_perm lib app excluded, ?_,
    pairwise_precedes app excluded distinct,
    fun arranged perm => candidateLists_eq_of_perm app excluded distinct perm⟩
  intro list member
  obtain ⟨-, named, candidates⟩ := mem_candidateLists.mp member
  rw [candidates]
  exact ⟨named, ranks_candidatesFor excluded list.node app⟩

/-- All candidates have one score here, so those of a list stay as they come and the lists are in
the order of their first names. -/
theorem candidateLists_are_canonical_tied :
    let package (digest : UInt8) (name : Option String) (classes : List UInt8) : Node :=
      .mk ⟨[digest]⟩ (.package name) (classes.map fun byte => .mk ⟨[byte]⟩ (.class none) [])
    let lib := [package 1 (some "l.c") [], package 2 none [20], package 3 (some "l.b") [20, 21],
      package 4 (some "l.a") [10, 11]]
    let app := [package 5 (some "x.b") [20], package 6 (some "own.a") [10, 11],
      package 7 (some "x.a") [10, 20]]
    let lists := candidateLists lib app (some "own")
    (lib.filterMap Node.packageName?).Nodup ∧
      lists.map (fun list => (list.package, list.candidates.map (·.package))) =
        [("l.a", ["x.a"]), ("l.b", ["x.b", "x.a"]), ("l.c", [])] ∧
      lists.Pairwise Precedes ∧ candidateLists lib.reverse app (some "own") = lists := by
  intro package lib app lists
  have distinct : (lib.filterMap Node.packageName?).Nodup := by decide
  have arranged : lists = foundLists lib.reverse app (some "own") :=
    candidateLists_eq_foundLists lib.reverse_perm.symm (by decide +kernel) (by decide +kernel)
  obtain ⟨-, -, ascends, same⟩ := candidateLists_are_canonical app (some "own") distinct
  refine ⟨distinct, ?_, ascends, same lib.reverse lib.reverse_perm.symm⟩
  rw [arranged]
  decide +kernel

end LibPrint.Matching
