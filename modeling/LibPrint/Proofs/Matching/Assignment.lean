import LibPrint.Proofs.Matching.Outcome
import LibPrint.Proofs.Matching.Relocation
import LibPrint.Proofs.Score.Share

/-!
# What a reported place stands on

A root package is never reported without an assignment behind it: app packages under that root stand
for library packages, at least half of them, each as deep as the library package and similar to it,
and neighbours lie to each other in the app as they do in the library. Each of these facts is
enforced by another stage of partial matching, and all of them are collected here.
-/

namespace LibPrint.Matching

open Package (isWithin relationship)

variable {options : Options} {app lib : HashTree}

/-- A package of the app can stand for the package of a candidate list, inside the partition. -/
structure StandsFor (options : Options) (app : HashTree) (partition : String)
    (list : CandidateList) (candidate : Candidate) : Prop where
  present : candidate.node ∈ app.packages
  named : candidate.node.packageName? = some candidate.package
  within : isWithin candidate.package partition = true
  spared : ∀ excluded ∈ options.appPackage, isWithin candidate.package excluded = false
  deep : Package.depth candidate.package = Package.depth list.package
  similar : minSimilarity.lt (similarity list.node candidate.node) = true

/-- An assignment of app packages to library packages, which has a place for each of the candidate
lists, in their order. -/
structure Assigns (options : Options) (app : HashTree) (partition : String)
    (lists : List CandidateList) (picked : List (Option Candidate)) : Prop where
  each : List.Forall₂ (fun list pick => ∀ candidate ∈ pick,
    StandsFor options app partition list candidate) lists picked
  half : lists.length ≤ 2 * picked.countP Option.isSome
  neighbours : ∀ (position : Nat) (first second : CandidateList) (left right : Candidate),
    lists[position]? = some first → lists[position + 1]? = some second →
      picked[position]? = some (some left) → picked[position + 1]? = some (some right) →
        relationship left.package right.package = relationship first.package second.package

/-! ## One list for each named package -/

theorem length_candidateLists_le (lib app : List Node) (excluded : Option String) :
    (candidateLists lib app excluded).length ≤ lib.length := by
  have same := (map_node_candidateLists_perm lib app excluded).length_eq
  rw [List.length_map] at same
  exact same ▸ List.length_filter_le _ _

/-! ## What each stage enforces -/

/-- A candidate inside a partition stands for the package of its list. -/
theorem standsFor_of_mem_within {partition : String} {list : CandidateList}
    {candidate : Candidate}
    (isList : list ∈ candidateLists lib.packages app.packages options.appPackage)
    (member : candidate ∈ list.within partition) :
    StandsFor options app partition list candidate := by
  obtain ⟨-, -, candidates⟩ := mem_candidateLists.mp isList
  obtain ⟨proposed, fit⟩ := List.mem_filter.mp member
  obtain ⟨within, deep⟩ := Bool.and_eq_true_iff.mp fit
  rw [candidates] at proposed
  obtain ⟨isEligible, score, above⟩ := mem_candidatesFor.mp proposed
  obtain ⟨present, named, spared⟩ := mem_eligible.mp isEligible
  exact ⟨present, named, within, spared, eq_of_beq deep, score ▸ above⟩

/-- What is restricted keeps the lists in their order, and at least half of them hold something. -/
theorem restrict?_eq_some {lists : List CandidateList} {partition : String}
    {restricted : List (List Candidate)} (small : lists.length < 2 ^ 24)
    (kept : restrict? lists partition = some restricted) :
    restricted = lists.map (·.within partition) ∧
      lists.length ≤ 2 * restricted.countP (!·.isEmpty) := by
  obtain ⟨nonempty, rfl, covered⟩ := restrict?_eq_some_iff.mp kept
  refine ⟨rfl, ?_⟩
  have most := List.countP_le_length (p := fun candidates : List Candidate => !candidates.isEmpty)
    (l := lists.map (·.within partition))
  rw [List.length_map] at most
  rw [minCoverage, ← Bool.not_eq_true, Score.ratio_lt_half_iff (by omega) small
    (List.length_eq_zero_iff.not.mpr nonempty)] at covered
  omega

/-- Picks that keep the relationships of the library packages lie to each other as those do. -/
theorem relationship_of_consistent {lists : List CandidateList}
    {picked : List (Option Candidate)} (consistent : Consistent (relationships lists) picked)
    {position : Nat} {first second : CandidateList} {left right : Candidate}
    (firstAt : lists[position]? = some first) (secondAt : lists[position + 1]? = some second)
    (leftAt : picked[position]? = some (some left))
    (rightAt : picked[position + 1]? = some (some right)) :
    relationship left.package right.package = relationship first.package second.package := by
  apply consistent position left right _ leftAt rightAt
  rw [relationships, List.getElem?_zipWith, List.getElem?_tail, firstAt, secondAt]

/-- The selection of a partition is an assignment. -/
theorem exists_assigns_of_bestAt {partition : String} {score : Score}
    {selection : List Candidate} (small : lib.packages.length < 2 ^ 24)
    (best : BestAt (candidateLists lib.packages app.packages options.appPackage) partition score
      selection) :
    ∃ picked, Assigns options app partition
        (candidateLists lib.packages app.packages options.appPackage) picked ∧
      selection = picked.filterMap id := by
  obtain ⟨restricted, kept, -, aligned⟩ := best
  obtain ⟨counter, optimal, -, -, rfl⟩ := exists_optimal_of_align aligned
  have few := Nat.lt_of_le_of_lt
    (length_candidateLists_le lib.packages app.packages options.appPackage) small
  obtain ⟨rfl, half⟩ := restrict?_eq_some few kept
  have arePicks := forall₂_isPick_picks optimal.admissible.counts
  refine ⟨_, ⟨?_, ?_, ?_⟩, rfl⟩
  · rw [List.forall₂_map_left_iff] at arePicks
    refine (forall₂_and_mem arePicks).imp ?_
    rintro list pick ⟨isList, isPick⟩ candidate rfl
    exact standsFor_of_mem_within isList isPick
  · rwa [countP_isSome_of_picks arePicks]
  · intro position first second left right firstAt secondAt leftAt rightAt
    exact relationship_of_consistent optimal.admissible.consistent firstAt secondAt leftAt rightAt

/-! ## The report -/

/-- A root package is reported by partial matching alone. -/
theorem exists_partialMatch_of_rootPackage {libRoot : Option String} {result : TreeMatch}
    {partition : String} (matched : matchTrees options app lib libRoot = .ok result)
    (reported : result.rootPackage = some partition) :
    ∃ root, libRoot = some root ∧ result = partialMatch options app lib root := by
  by_cases same : lib.config.recipe = app.config.recipe
  · by_cases empty : lib.packages = []
    · rw [matchTrees_of_empty same empty] at matched
      cases matched
    · rw [matchTrees_of_comparable same empty] at matched
      obtain rfl := Except.ok.inj matched
      revert reported
      cases contained? app lib with
      | some nodes => nofun
      | none =>
          cases options.fullOnly with
          | true => nofun
          | false =>
              cases libRoot with
              | none => nofun
              | some root => exact fun _ => ⟨root, rfl, rfl⟩
  · rw [matchTrees_of_mismatch same] at matched
    cases matched

/-- Whenever a root package is reported, it is one of the partitions of the app, and the nodes that
are reported with it are an assignment inside it. The places of the assignment are those of the
named library packages, each of which has one. -/
theorem matchTrees_assigns {libRoot : Option String} {result : TreeMatch} {partition : String}
    (small : lib.packages.length < 2 ^ 24)
    (matched : matchTrees options app lib libRoot = .ok result)
    (reported : result.rootPackage = some partition) :
    let lists := candidateLists lib.packages app.packages options.appPackage
    (∃ root, libRoot = some root ∧ partition ∈ partitions app.packages root) ∧
      (lists.map (·.node)).Perm (lib.packages.filter (·.packageName?.isSome)) ∧
      (∀ list ∈ lists, list.node.packageName? = some list.package) ∧
      ∃ picked, Assigns options app partition lists picked ∧
        result.nodes = (picked.filterMap id).map (·.node) := by
  intro lists
  obtain ⟨root, rfl, rfl⟩ := exists_partialMatch_of_rootPackage matched reported
  rcases partialMatch_cases options app lib root with ⟨-, nothing⟩ | ⟨best, wins, result⟩
  · rw [nothing] at reported
    cases reported
  · rw [result] at reported ⊢
    obtain rfl := Option.some.inj reported
    obtain ⟨member, found⟩ := mem_alignments.mp wins.member
    obtain ⟨picked, assigns, selection⟩ := exists_assigns_of_bestAt small found
    refine ⟨⟨root, rfl, member⟩, map_node_candidateLists_perm _ _ _, ?_, picked, assigns, ?_⟩
    · intro list isList
      exact (mem_candidateLists.mp isList).2.1
    · rw [selection]

/-- The app's own package holds all of the library, but only the other one may stand for it. -/
theorem matchTrees_assigns_spared :
    let package (digest : UInt8) (name : String) (classes : List UInt8) : Node :=
      .mk ⟨[digest]⟩ (.package (some name))
        (classes.map fun digest => .mk ⟨[digest]⟩ (.class none) [])
    let lib := HashTree.ofPackages .standard [package 1 "com.lib" [11, 12, 13, 14]] ⟨1, 4, 0⟩
    let app := HashTree.ofPackages .standard
      [package 2 "app" [11, 12, 13, 14], package 3 "x.y" [11, 12, 13, 15]] ⟨2, 8, 0⟩
    let options : Options := ⟨some "app", false⟩
    let lists := candidateLists lib.packages app.packages options.appPackage
    lib.packages.length < 2 ^ 24 ∧
      ∃ result, matchTrees options app lib (some "com.lib") = .ok result ∧
        result.rootPackage = some "x.y" ∧
        ∃ picked, Assigns options app "x.y" lists picked ∧
          result.nodes = (picked.filterMap id).map (·.node) := by
  intro package lib app options lists
  let node := package 1 "com.lib" [11, 12, 13, 14]
  let image := package 3 "x.y" [11, 12, 13, 15]
  have small : lib.packages.length < 2 ^ 24 := by decide
  have candidates : candidatesFor [(image, "x.y")] node =
      [⟨image, "x.y", similarity node image⟩] :=
    candidatesFor_eq_singleton (by decide +kernel) (show ∀ other ∈ [] ++ [], _ from nofun)
  have single : lists = [⟨node, "com.lib", [⟨image, "x.y", similarity node image⟩]⟩] := by
    have made : lists = List.mergeSort [⟨node, "com.lib", candidatesFor [(image, "x.y")] node⟩]
        fun left right => (left.compare right).isLE := rfl
    rw [made, candidates, List.mergeSort_singleton]
  have tried : partitions app.packages "com.lib" = ["x.y"] := by
    have found : ancestors app.packages "com.lib" = (List.mergeSort ["x.y"] Text.le).eraseReps :=
      rfl
    rw [partitions_eq, found, List.mergeSort_singleton]
    rfl
  have root : (partialMatch options app lib "com.lib").rootPackage = some "x.y" := by
    rcases partialMatch_cases options app lib "com.lib" with ⟨nothing, -⟩ | ⟨best, wins, result⟩
    · have occupied : (["x.y"].filterMap (alignPartition? lists)).isEmpty = false := by
        rw [single]
        decide +kernel
      have none : ["x.y"].filterMap (alignPartition? lists) = [] := tried ▸ nothing
      rw [none] at occupied
      cases occupied
    · obtain ⟨member, -⟩ := mem_alignments.mp wins.member
      rw [tried, List.mem_singleton] at member
      rw [result, member]
  have matched : matchTrees options app lib (some "com.lib") =
      .ok (partialMatch options app lib "com.lib") := rfl
  obtain ⟨-, -, -, assignment⟩ := matchTrees_assigns small matched root
  exact ⟨small, _, matched, root, assignment⟩

end LibPrint.Matching
