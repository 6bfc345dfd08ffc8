import LibPrint.Proofs.Matching.Candidate
import LibPrint.Proofs.Matching.PartialMatch
import LibPrint.Proofs.Package.Segments
import LibPrint.Proofs.Score.Rounding

/-!
# Relocated libraries

A library that was moved under another root package, with all its packages below it moved alike, is
found there. Every stage of partial matching lets the true assignment through: its candidates are
similar enough, its root is a partition, enough packages are covered, and neighbours lie to each
other in the app as they do in the library. The alignment can only be better than that assignment.
-/

namespace LibPrint.Matching

open Package (AreSegments IsName Relationship isWithin relationship)

/-! ## Names under another root -/

/-- The name with another root in the place of its first segments. -/
def relocate (libRoot root name : String) : String :=
  Package.join (Package.segments root ++ (Package.segments name).drop (Package.depth libRoot))

/-- A package is within a root, and these are its segments below it. -/
structure Below (libRoot name : String) (rest : List String) : Prop where
  valid : AreSegments rest
  segments : Package.segments name = Package.segments libRoot ++ rest

section Names

variable {libRoot root name : String} {rest : List String}

theorem exists_below (rootValid : IsName libRoot) (valid : IsName name)
    (within : isWithin name libRoot = true) : ∃ rest, Below libRoot name rest := by
  obtain ⟨rest, parts⟩ := (Package.isWithin_iff_prefix valid rootValid).mp within
  refine ⟨rest, ?_, parts.symm⟩
  apply (Package.areSegments_segments name).of_subset
  rw [← parts]
  exact List.subset_append_right _ _

theorem Below.relocate_eq (below : Below libRoot name rest) (root : String) :
    relocate libRoot root name = Package.join (Package.segments root ++ rest) := by
  rw [relocate, below.segments, Package.depth, List.drop_left]

theorem Below.segments_relocate (below : Below libRoot name rest) (root : String) :
    Package.segments (relocate libRoot root name) = Package.segments root ++ rest := by
  rw [below.relocate_eq, Package.segments_join]
  exact (Package.areSegments_segments root).append below.valid

/-- A relocated package is within the new root and as deep as before. -/
theorem fits_relocate (rootValid : IsName root)
    (depth : Package.depth root = Package.depth libRoot) (below : Below libRoot name rest)
    {candidate : Candidate} (named : candidate.package = relocate libRoot root name) :
    fits root name candidate = true := by
  have within : isWithin candidate.package root = true := by
    rw [named, below.relocate_eq]
    nth_rewrite 2 [← Package.join_segments rootValid]
    exact (Package.isWithin_join ((Package.areSegments_segments root).append below.valid)
      (Package.areSegments_segments root)).mpr (List.prefix_append _ _)
  have deep : Package.depth candidate.package = Package.depth name := by
    simp only [Package.depth] at depth
    rw [named, Package.depth, below.segments_relocate, Package.depth, below.segments,
      List.length_append, List.length_append, depth]
  rw [fits, within, deep, beq_self_eq_true, Bool.and_self]

/-- The new root is the ancestor of what was relocated. -/
theorem ancestorAt?_relocate (rootValid : IsName root)
    (depth : Package.depth root = Package.depth libRoot) (below : Below libRoot name rest) :
    Package.ancestorAt? (relocate libRoot root name) (Package.depth libRoot) = some root := by
  have occupied : 0 < (Package.segments root).length := Package.depth_pos rootValid
  rw [← depth, Package.depth, below.relocate_eq, Package.ancestorAt?_join
    ((Package.areSegments_segments root).append below.valid), if_neg, List.take_left,
    Package.join_segments rootValid]
  rw [List.length_append]
  omega

/-- Two packages lie to each other under the new root as they did under the old one. -/
theorem relationship_relocate {other : String} {otherRest : List String} (valid : IsName name)
    (otherValid : IsName other) (below : Below libRoot name rest)
    (otherBelow : Below libRoot other otherRest) :
    relationship (relocate libRoot root name) (relocate libRoot root other) =
      relationship name other := by
  rw [below.relocate_eq, otherBelow.relocate_eq, ← Package.join_segments valid,
    ← Package.join_segments otherValid, below.segments, otherBelow.segments]
  exact Package.relationship_exchange (Package.areSegments_segments root)
    (Package.areSegments_segments libRoot) below.valid otherBelow.valid

/-- An ancestor of a package outside the library's root is outside of it too. -/
theorem not_isWithin_ancestor {ancestor : String} {count : Nat} (valid : IsName name)
    (rootValid : IsName libRoot) (outside : isWithin name libRoot = false)
    (cut : Package.ancestorAt? name count = some ancestor) :
    isWithin ancestor libRoot = false := by
  have segments := Package.areSegments_segments name
  rw [← Package.join_segments valid, Package.ancestorAt?_join segments] at cut
  split at cut
  · cases cut
  · obtain rfl := Option.some.inj cut
    by_contra within
    rw [Bool.not_eq_false, ← Package.join_segments rootValid, Package.isWithin_join
      (segments.of_subset (List.take_subset _ _)) (Package.areSegments_segments libRoot)] at within
    have nested := within.trans (List.take_prefix _ _)
    rw [(Package.isWithin_iff_prefix valid rootValid).mpr nested] at outside
    cases outside

end Names

/-! ## The relocated library -/

/-- The candidates of a list that lie inside the partition. -/
def CandidateList.within (list : CandidateList) (partition : String) : List Candidate :=
  list.candidates.filter (fits partition list.package)

/-- The candidate that bears the relocated name of the library package. -/
def CandidateList.moved? (libRoot root : String) (list : CandidateList) : Option Candidate :=
  (list.within root).find? (·.package == relocate libRoot root list.package)

/-- The packages of a library stand in an app under another root. Each is similar to its image, or
has no candidate there at all. -/
structure Relocated (options : Options) (app lib : HashTree) (libRoot root : String) : Prop where
  appNames : ∀ name ∈ app.packageNames, IsName name
  libNames : ∀ name ∈ lib.packageNames, IsName name
  libRootName : IsName libRoot
  rootName : IsName root
  depth : Package.depth root = Package.depth libRoot
  within : ∀ name ∈ lib.packageNames, isWithin name libRoot = true
  preferred : root = libRoot ∨ ∀ name ∈ app.packageNames, isWithin name libRoot = false
  images : ∀ node ∈ lib.packages, ∀ name, node.packageName? = some name →
    (∃ image ∈ app.packages, image.packageName? = some (relocate libRoot root name) ∧
      (∀ excluded ∈ options.appPackage,
        isWithin (relocate libRoot root name) excluded = false) ∧
      minSimilarity.lt (similarity node image) = true) ∨
    (candidatesFor (eligible options.appPackage app.packages) node).filter (fits root name) = []

section Lists

variable {options : Options} {app lib : HashTree} {libRoot root : String}

theorem mem_packageNames {tree : HashTree} {name : String} :
    name ∈ tree.packageNames ↔ ∃ node ∈ tree.packages, node.packageName? = some name :=
  List.mem_filterMap

/-- What is known of the list of one library package. -/
theorem Relocated.below (relocated : Relocated options app lib libRoot root)
    {list : CandidateList}
    (member : list ∈ candidateLists lib.packages app.packages options.appPackage) :
    IsName list.package ∧ ∃ rest, Below libRoot list.package rest := by
  obtain ⟨present, named, -⟩ := mem_candidateLists.mp member
  have isPackage := mem_packageNames.mpr ⟨list.node, present, named⟩
  have valid := relocated.libNames _ isPackage
  exact ⟨valid, exists_below relocated.libRootName valid (relocated.within _ isPackage)⟩

/-- A list with candidates inside the new root has the relocated package among them. -/
theorem Relocated.exists_image (relocated : Relocated options app lib libRoot root)
    {list : CandidateList}
    (member : list ∈ candidateLists lib.packages app.packages options.appPackage)
    (occupied : list.within root ≠ []) :
    ∃ candidate ∈ list.within root, candidate.package = relocate libRoot root list.package ∧
      candidate.package ∈ app.packageNames := by
  obtain ⟨present, named, candidates⟩ := mem_candidateLists.mp member
  obtain ⟨-, rest, below⟩ := relocated.below member
  rcases relocated.images list.node present list.package named with
    ⟨image, imageMem, imageNamed, outside, similar⟩ | empty
  · refine ⟨⟨image, relocate libRoot root list.package, similarity list.node image⟩, ?_, rfl,
      mem_packageNames.mpr ⟨image, imageMem, imageNamed⟩⟩
    rw [CandidateList.within, List.mem_filter, candidates, mem_candidatesFor]
    exact ⟨⟨mem_eligible.mpr ⟨imageMem, imageNamed, outside⟩, rfl, similar⟩,
      fits_relocate relocated.rootName relocated.depth below rfl⟩
  · rw [← candidates] at empty
    exact absurd empty occupied

/-- Picking the relocated packages is a pick of every list. -/
theorem Relocated.isPick_moved? (relocated : Relocated options app lib libRoot root)
    {list : CandidateList}
    (member : list ∈ candidateLists lib.packages app.packages options.appPackage) :
    IsPick (list.within root) (list.moved? libRoot root) := by
  cases found : list.moved? libRoot root with
  | none =>
      by_contra occupied
      obtain ⟨candidate, candidateMem, named, -⟩ := relocated.exists_image member occupied
      have other := List.find?_eq_none.mp found candidate candidateMem
      rw [named, beq_self_eq_true] at other
      exact other rfl
  | some candidate => exact List.mem_of_find?_eq_some found

theorem moved?_package {list : CandidateList} {candidate : Candidate}
    (found : list.moved? libRoot root = some candidate) :
    candidate.package = relocate libRoot root list.package := by
  rw [CandidateList.moved?] at found
  have named := List.find?_some found
  exact eq_of_beq named

/-- The relocated packages keep the relationships of the library packages. -/
theorem Relocated.consistent (relocated : Relocated options app lib libRoot root) :
    Consistent (relationships (candidateLists lib.packages app.packages options.appPackage))
      ((candidateLists lib.packages app.packages options.appPackage).map
        (·.moved? libRoot root)) := by
  intro position left right expected leftAt rightAt expectedAt
  simp only [List.getElem?_map, Option.map_eq_some_iff] at leftAt rightAt
  obtain ⟨first, firstAt, leftFound⟩ := leftAt
  obtain ⟨second, secondAt, rightFound⟩ := rightAt
  obtain ⟨firstValid, _, firstBelow⟩ := relocated.below (List.mem_of_getElem? firstAt)
  obtain ⟨secondValid, _, secondBelow⟩ := relocated.below (List.mem_of_getElem? secondAt)
  have asked : relationship first.package second.package = expected := by
    rw [relationships, List.getElem?_zipWith, List.getElem?_tail, firstAt, secondAt] at expectedAt
    exact Option.some.inj expectedAt
  rw [← asked, moved?_package leftFound, moved?_package rightFound]
  exact relationship_relocate firstValid secondValid firstBelow secondBelow

/-- The new root is a partition as soon as one list has candidates inside it. -/
theorem Relocated.mem_partitions (relocated : Relocated options app lib libRoot root)
    {list : CandidateList}
    (member : list ∈ candidateLists lib.packages app.packages options.appPackage)
    (occupied : list.within root ≠ []) : root ∈ partitions app.packages libRoot := by
  obtain ⟨-, _, below⟩ := relocated.below member
  obtain ⟨candidate, -, named, isPackage⟩ := relocated.exists_image member occupied
  obtain ⟨node, nodeMem, nodeNamed⟩ := mem_packageNames.mp isPackage
  apply mem_partitions_of_mem
  · refine mem_ancestors.mpr ⟨node, nodeMem, _, nodeNamed, ?_⟩
    rw [named]
    exact ancestorAt?_relocate relocated.rootName relocated.depth below
  · rcases relocated.preferred with rfl | outside
    · left
      exact (Package.isWithin_iff_prefix relocated.rootName relocated.rootName).mpr
        List.prefix_rfl
    · -- No ancestor within the library's root can take the place of the others.
      right
      intro other otherMem
      obtain ⟨node, nodeMem, name, nodeNamed, cut⟩ := mem_ancestors.mp otherMem
      have isName := mem_packageNames.mpr ⟨node, nodeMem, nodeNamed⟩
      exact not_isWithin_ancestor (relocated.appNames name isName) relocated.libRootName
        (outside name isName) cut

end Lists

/-! ## Coverage -/

/-- A mean above the threshold is one of finitely many places. -/
theorem finite_of_above {picked : List (Option Candidate)}
    (above : minPartial.lt (mean picked) = true) :
    (Score.ofNat picked.length).magnitude ≠ Score.infinite := by
  intro infinity
  rw [mean, Score.not_lt_div_of_infinite (by decide +kernel) infinity] at above
  cases above

/-- What is kept of a partition is kept list by list, and covers enough of the library. -/
theorem restrict?_eq_some_iff {lists : List CandidateList} {partition : String}
    {restricted : List (List Candidate)} :
    restrict? lists partition = some restricted ↔
      lists ≠ [] ∧ restricted = lists.map (·.within partition) ∧
        (Score.ratio (restricted.countP (!·.isEmpty)) lists.length).lt minCoverage = false := by
  have unfolded : restrict? lists partition =
      if lists.isEmpty then none
      else if (Score.ratio ((lists.map (·.within partition)).countP (!·.isEmpty))
          (lists.map (·.within partition)).length).lt minCoverage then none
      else some (lists.map (·.within partition)) := rfl
  rw [unfolded, List.length_map, ← List.isEmpty_eq_false_iff]
  cases lists.isEmpty with
  | true => simp
  | false =>
      rw [if_neg Bool.false_ne_true]
      constructor
      · intro kept
        split at kept
        · cases kept
        · next covered =>
            obtain rfl := Option.some.inj kept
            exact ⟨rfl, rfl, Bool.eq_false_iff.mpr covered⟩
      · rintro ⟨-, rfl, covered⟩
        rw [covered, if_neg Bool.false_ne_true]

/-- Half of the lists are enough, however many there are. -/
theorem restrict?_of_half {lists : List CandidateList} {root : String} (nonempty : lists ≠ [])
    (finite : (Score.ofNat lists.length).magnitude ≠ Score.infinite)
    (half : lists.length ≤ 2 * (lists.map (·.within root)).countP (!·.isEmpty)) :
    restrict? lists root = some (lists.map (·.within root)) :=
  restrict?_eq_some_iff.mpr ⟨nonempty, rfl,
    Score.ratio_not_lt_half (List.length_eq_zero_iff.not.mpr nonempty) finite half⟩

/-- When half of the lists have candidates, one of them has. -/
theorem exists_occupied_of_half {lists : List CandidateList} {root : String}
    (nonempty : lists ≠ [])
    (half : lists.length ≤ 2 * (lists.map (·.within root)).countP (!·.isEmpty)) :
    ∃ list ∈ lists, list.within root ≠ [] := by
  have some : 0 < (lists.map (·.within root)).countP (!·.isEmpty) := by
    have length := List.length_pos_iff.mpr nonempty
    omega
  obtain ⟨_, isWithin, occupied⟩ := List.countP_pos_iff.mp some
  obtain ⟨list, member, rfl⟩ := List.mem_map.mp isWithin
  exact ⟨list, member, by simpa using occupied⟩

/-! ## The match -/

section Match

variable {options : Options} {app lib : HashTree} {libRoot root : String}

/-- The alignment of the new root is at least as good as picking the relocated packages. -/
theorem Relocated.exists_bestAt (relocated : Relocated options app lib libRoot root) :
    let lists := candidateLists lib.packages app.packages options.appPackage
    let restricted := lists.map (·.within root)
    let score := mean (lists.map (·.moved? libRoot root))
    lists.length ≤ 2 * restricted.countP (!·.isEmpty) →
      combinationCount restricted ≤ maxCombinations →
      minPartial.lt score = true →
      ∃ found selection, BestAt lists root found selection ∧ score ≤ found := by
  intro lists restricted score half few above
  have nonempty : lists ≠ [] := List.map_eq_nil_iff.not.mp (ne_nil_of_above above)
  have finite := finite_of_above above
  rw [List.length_map] at finite
  -- The relocated packages are one of the combinations that are tried.
  have arePicks : List.Forall₂ IsPick restricted (lists.map (·.moved? libRoot root)) := by
    rw [List.forall₂_map_left_iff, List.forall₂_map_right_iff, List.forall₂_same]
    exact fun list member => relocated.isPick_moved? member
  obtain ⟨counter, counts, picked⟩ := exists_counter_of_picks arePicks
  have admissible : Admissible restricted (relationships lists) counter :=
    ⟨counts, picked ▸ relocated.consistent⟩
  have reached : scoreAt restricted counter = score := congrArg mean picked
  obtain ⟨found, selection, aligned, atLeast⟩ :=
    exists_best_of_admissible few admissible (reached ▸ above)
  exact ⟨found, selection, ⟨restricted, restrict?_of_half nonempty finite half, few, aligned⟩,
    reached ▸ atLeast⟩

/-- A relocated library is not missed: partial matching finds it with at least the score of the
relocated packages, and fully when that is one. -/
theorem matchTrees_of_relocated (reaches : ReachesPartial options app lib)
    (relocated : Relocated options app lib libRoot root) :
    let lists := candidateLists lib.packages app.packages options.appPackage
    let restricted := lists.map (·.within root)
    let score := mean (lists.map (·.moved? libRoot root))
    lists.length ≤ 2 * restricted.countP (!·.isEmpty) →
      combinationCount restricted ≤ maxCombinations →
      minPartial.lt score = true →
      ∃ result, matchTrees options app lib (some libRoot) = .ok result ∧
        (result.verdict = .full ∨
          ∃ found, result.verdict = .similar found ∧ score ≤ found) ∧
        (score = .one → result.verdict = .full) := by
  intro lists restricted score half few above
  refine ⟨partialMatch options app lib libRoot, matchTrees_of_reachesPartial reaches libRoot, ?_⟩
  obtain ⟨found, selection, best, atLeast⟩ := relocated.exists_bestAt half few above
  obtain ⟨list, member, occupied⟩ :=
    exists_occupied_of_half (List.map_eq_nil_iff.not.mp (ne_nil_of_above above)) half
  have present : ⟨root, found, selection⟩ ∈ alignments options app lib libRoot :=
    mem_alignments.mpr ⟨relocated.mem_partitions member occupied, best⟩
  rcases partialMatch_cases options app lib libRoot with ⟨nothing, -⟩ | ⟨winner, wins, result⟩
  · rw [nothing] at present
    cases present
  · have higher := Score.le_trans atLeast (wins.highest _ present)
    obtain ⟨full, part⟩ := verdict_ofScore higher.2.1
    rw [result]
    constructor
    · by_cases whole : Score.one ≤ winner.score
      · exact .inl (full whole)
      · exact .inr ⟨winner.score, part whole, higher⟩
    · intro one
      exact full (one ▸ higher)

end Match

/-- Both packages of the library were moved, and one class of each is another one in the app. -/
theorem matchTrees_of_relocated_pair :
    let package (digest : UInt8) (name : String) (classes : List UInt8) : Node :=
      .mk ⟨[digest]⟩ (.package (some name))
        (classes.map fun digest => .mk ⟨[digest]⟩ (.class none) [])
    let lib := HashTree.ofPackages .standard
      [package 1 "com.lib.a" [11, 12, 13, 14], package 2 "com.lib.b" [21, 22, 23, 24]] ⟨2, 8, 0⟩
    let app := HashTree.ofPackages .standard
      [package 3 "x.y.a" [11, 12, 13, 15], package 4 "x.y.b" [21, 22, 23, 25]] ⟨2, 8, 0⟩
    let lists := candidateLists lib.packages app.packages none
    ReachesPartial ⟨none, false⟩ app lib ∧ Relocated ⟨none, false⟩ app lib "com.lib" "x.y" ∧
      lists.length ≤ 2 * (lists.map (·.within "x.y")).countP (!·.isEmpty) ∧
      combinationCount (lists.map (·.within "x.y")) ≤ maxCombinations ∧
      minPartial.lt (mean (lists.map (·.moved? "com.lib" "x.y"))) = true ∧
      ∃ result, matchTrees ⟨none, false⟩ app lib (some "com.lib") = .ok result ∧
        (result.verdict = .full ∨
          ∃ found, result.verdict = .similar found ∧ .ratio 3 4 ≤ found) := by
  intro package lib app lists
  let a := package 1 "com.lib.a" [11, 12, 13, 14]
  let b := package 2 "com.lib.b" [21, 22, 23, 24]
  let x := package 3 "x.y.a" [11, 12, 13, 15]
  let y := package 4 "x.y.b" [21, 22, 23, 25]
  have reaches : ReachesPartial ⟨none, false⟩ app lib :=
    ⟨by decide, ⟨a, List.mem_cons_self, by decide⟩, rfl⟩
  have relocated : Relocated ⟨none, false⟩ app lib "com.lib" "x.y" := by
    refine ⟨by decide +kernel, by decide +kernel, by decide +kernel, by decide +kernel,
      by decide +kernel, by decide +kernel, .inr (by decide +kernel), ?_⟩
    intro node member name named
    rcases List.mem_pair.mp member with rfl | rfl <;> obtain rfl := Option.some.inj named
    · exact .inl ⟨x, List.mem_cons_self, by decide +kernel, nofun, by decide +kernel⟩
    · exact .inl ⟨y, .tail _ List.mem_cons_self, by decide +kernel, nofun, by decide +kernel⟩
  have first : candidatesFor [(x, "x.y.a"), (y, "x.y.b")] a = [⟨x, "x.y.a", similarity a x⟩] :=
    candidatesFor_eq_singleton (by decide +kernel)
      (show ∀ other ∈ [] ++ [(y, "x.y.b")], _ by decide +kernel)
  have second : candidatesFor [(x, "x.y.a"), (y, "x.y.b")] b = [⟨y, "x.y.b", similarity b y⟩] :=
    candidatesFor_eq_singleton (by decide +kernel)
      (show ∀ other ∈ [(x, "x.y.a")] ++ [], _ by decide +kernel)
  have sorted : lists = [⟨a, "com.lib.a", [⟨x, "x.y.a", similarity a x⟩]⟩,
      ⟨b, "com.lib.b", [⟨y, "x.y.b", similarity b y⟩]⟩] := by
    have made : lists = List.mergeSort
        [⟨a, "com.lib.a", candidatesFor [(x, "x.y.a"), (y, "x.y.b")] a⟩,
          ⟨b, "com.lib.b", candidatesFor [(x, "x.y.a"), (y, "x.y.b")] b⟩]
        fun left right => (left.compare right).isLE := rfl
    rw [made, first, second]
    exact List.mergeSort_of_pairwise (by decide +kernel)
  have half : lists.length ≤ 2 * (lists.map (·.within "x.y")).countP (!·.isEmpty) := by
    rw [sorted]
    decide +kernel
  have few : combinationCount (lists.map (·.within "x.y")) ≤ maxCombinations := by
    rw [sorted]
    decide +kernel
  have score : mean (lists.map (·.moved? "com.lib" "x.y")) = .ratio 3 4 := by
    rw [sorted]
    decide +kernel
  have above : minPartial.lt (mean (lists.map (·.moved? "com.lib" "x.y"))) = true := by
    rw [score]
    decide +kernel
  obtain ⟨result, matched, verdict, -⟩ := matchTrees_of_relocated reaches relocated half few above
  exact ⟨reaches, relocated, half, few, above, result, matched, score ▸ verdict⟩

end LibPrint.Matching
