import LibPrint.Proofs.Matching.PartialMatch

/-!
# What matching sees

Of a package node matching looks at the digest, the name and the digests of the classes in it. The
outline of a node is what is left when everything else is taken away. Each stage of a comparison
gives for outlines the outlines of what it gives for the nodes themselves, and so does the
comparison as a whole: scores, names and order are the same.
-/

namespace LibPrint

/-! ## Nodes and trees -/

namespace Node

/-- A node with the digests of its children alone. -/
def outline : Node → Node
  | mk digest kind children =>
      mk digest kind (children.map fun child => mk child.digest (.class none) [])

variable (node : Node)

@[simp] theorem digest_outline : node.outline.digest = node.digest := by
  cases node
  rfl

@[simp] theorem level_outline : node.outline.level = node.level := by
  cases node
  rfl

@[simp] theorem label_outline : node.outline.label = node.label := by
  cases node
  rfl

@[simp] theorem packageName?_outline : node.outline.packageName? = node.packageName? := by
  cases node
  rfl

theorem children_outline :
    node.outline.children = node.children.map fun child => mk child.digest (.class none) [] := by
  cases node
  rfl

@[simp] theorem hasDigest_map_outline (nodes : List Node) (wanted : Digest) :
    hasDigest (nodes.map outline) wanted = hasDigest nodes wanted := by
  simp [hasDigest, Function.comp_def]

theorem filterMap_packageName?_outline (nodes : List Node) :
    (nodes.map outline).filterMap packageName? = nodes.filterMap packageName? := by
  simp [List.filterMap_map]

end Node

/-- A tree of outlines. -/
def HashTree.outline (tree : HashTree) : HashTree :=
  ⟨{ tree.config with verboseness := .normal },
    .mk tree.root.digest tree.root.kind (tree.packages.map Node.outline), tree.stats⟩

@[simp] theorem HashTree.packages_outline (tree : HashTree) :
    tree.outline.packages = tree.packages.map Node.outline := rfl

/-- A result with the outlines of the nodes it found. -/
def TreeMatch.outline (result : TreeMatch) : TreeMatch :=
  { result with
    config := { result.config with verboseness := .normal }
    nodes := result.nodes.map Node.outline }

@[simp] theorem TreeMatch.packageNames_outline (result : TreeMatch) :
    result.outline.packageNames = result.packageNames :=
  Node.filterMap_packageName?_outline result.nodes

namespace Matching

/-! ## Candidates -/

theorem similarity_outline (lib app : Node) :
    similarity lib.outline app.outline = similarity lib app := by
  have shared : sharedChildren lib.outline app.outline = sharedChildren lib app := by
    simp [sharedChildren, Node.children_outline, Node.hasDigest, List.countP_map,
      Function.comp_def, Node.digest]
  simp [similarity, shared, Node.children_outline]

def Candidate.outline (candidate : Candidate) : Candidate :=
  { candidate with node := candidate.node.outline }

def CandidateList.outline (list : CandidateList) : CandidateList :=
  ⟨list.node.outline, list.package, list.candidates.map Candidate.outline⟩

theorem eligible_outline (excluded : Option String) (packages : List Node) :
    eligible excluded (packages.map Node.outline) =
      (eligible excluded packages).map fun entry => (entry.1.outline, entry.2) := by
  rw [eligible, eligible, List.filterMap_map, List.map_filterMap]
  congr 1
  funext node
  simp only [Function.comp, Node.packageName?_outline]
  cases node.packageName? with
  | none => rfl
  | some name =>
      simp only
      split <;> rfl

theorem of?_outline (lib app : Node) (name : String) :
    Candidate.of? lib.outline app.outline name =
      (Candidate.of? lib app name).map Candidate.outline := by
  rw [Candidate.of?, Candidate.of?, similarity_outline]
  cases minSimilarity.lt (similarity lib app) <;> rfl

theorem candidatesFor_outline (packages : List (Node × String)) (lib : Node) :
    candidatesFor (packages.map fun entry => (entry.1.outline, entry.2)) lib.outline =
      (candidatesFor packages lib).map Candidate.outline := by
  rw [candidatesFor, candidatesFor, List.filterMap_map, List.map_mergeSort, List.map_filterMap]
  · congr 2
    funext entry
    exact of?_outline lib entry.1 entry.2
  · intro left _ right _
    rfl

theorem compare_outline (left right : CandidateList) :
    left.outline.compare right.outline = left.compare right := by
  simp only [CandidateList.compare, CandidateList.top?, CandidateList.outline, List.head?_map]
  cases left.candidates.head? <;> cases right.candidates.head? <;> rfl

theorem candidateLists_outline (lib app : List Node) (excluded : Option String) :
    candidateLists (lib.map Node.outline) (app.map Node.outline) excluded =
      (candidateLists lib app excluded).map CandidateList.outline := by
  rw [candidateLists, candidateLists, List.map_mergeSort, eligible_outline, eligible_outline,
    List.map_map, List.map_map]
  · congr 2
    funext entry
    simp only [Function.comp, CandidateList.outline, candidatesFor_outline]
  · intro left _ right _
    rw [compare_outline]

theorem relationships_outline (lists : List CandidateList) :
    relationships (lists.map CandidateList.outline) = relationships lists := by
  rw [relationships, relationships, ← List.map_tail, List.zipWith_map]
  rfl

/-! ## Partitions -/

theorem partitions_outline (app : List Node) (libRoot : String) :
    partitions (app.map Node.outline) libRoot = partitions app libRoot := by
  rw [partitions, partitions, Node.filterMap_packageName?_outline]

theorem restrict?_outline (lists : List CandidateList) (partition : String) :
    restrict? (lists.map CandidateList.outline) partition =
      (restrict? lists partition).map (List.map (List.map Candidate.outline)) := by
  have restricted : ((lists.map CandidateList.outline).map fun list =>
      list.candidates.filter (fits partition list.package)) =
        (lists.map fun list => list.candidates.filter (fits partition list.package)).map
          (List.map Candidate.outline) := by
    rw [List.map_map, List.map_map]
    apply List.map_congr_left
    intro list _
    exact List.filter_map
  simp only [restrict?, restricted, List.isEmpty_map, List.countP_map, List.length_map,
    Function.comp_def]
  cases lists.isEmpty with
  | true => rfl
  | false =>
      simp only [Bool.false_eq_true, if_false]
      split <;> rfl

/-! ## Alignments -/

def Alignment.outline : Alignment → Alignment
  | best score selection => best score (selection.map Candidate.outline)
  | noImprovement => noImprovement
  | tooMany combinations => tooMany combinations

section Picks

variable (lists : List (List Candidate))

theorem picks_outline (counter : List Nat) :
    picks (lists.map (List.map Candidate.outline)) counter =
      (picks lists counter).map (Option.map Candidate.outline) := by
  rw [picks, picks, List.zipWith_map_left, List.map_zipWith]
  congr 1
  funext list digit
  exact List.getElem?_map

theorem mean_outline (picked : List (Option Candidate)) :
    mean (picked.map (Option.map Candidate.outline)) = mean picked := by
  have scores : (picked.map (Option.map Candidate.outline)).filterMap
      (fun pick => pick.map (·.score)) = picked.filterMap fun pick => pick.map (·.score) := by
    rw [List.filterMap_map]
    congr 1
    funext pick
    cases pick <;> rfl
  rw [mean, mean, scores, List.length_map]

theorem isConsistent_outline (picked : List (Option Candidate))
    (relationships : List Package.Relationship) :
    isConsistent (picked.map (Option.map Candidate.outline)) relationships =
      isConsistent picked relationships := by
  induction picked generalizing relationships with
  | nil => rfl
  | cons first picked ih =>
      cases picked with
      | nil => rfl
      | cons second picked =>
          cases relationships with
          | nil => rfl
          | cons expected relationships =>
              have rest := ih relationships
              simp only [List.map_cons] at rest
              simp only [List.map_cons, isConsistent, rest]
              cases first <;> cases second <;> rfl

variable (relationships : List Package.Relationship)

theorem challenge_outline (leader : Leader) (counter : List Nat) :
    leader.challenge (lists.map (List.map Candidate.outline)) relationships counter =
      leader.challenge lists relationships counter := by
  simp only [Leader.challenge, picks_outline, mean_outline, isConsistent_outline]

/-- The search for the best picks takes the same course. -/
theorem run_outline (sizes : List Nat) (remaining : Nat) (counter : List Nat) (leader : Leader) :
    Leader.run (lists.map (List.map Candidate.outline)) relationships sizes remaining counter
        leader =
      Leader.run lists relationships sizes remaining counter leader := by
  induction remaining generalizing counter leader with
  | zero => rfl
  | succ remaining ih => rw [Leader.run, Leader.run, challenge_outline, ih]

theorem combinationCount_outline :
    combinationCount (lists.map (List.map Candidate.outline)) = combinationCount lists := by
  simp only [combinationCount, List.foldl_map, List.length_map]

theorem align_outline :
    align (lists.map (List.map Candidate.outline)) relationships =
      (align lists relationships).outline := by
  have sizes : (lists.map (List.map Candidate.outline)).map List.length =
      lists.map List.length := by
    simp [Function.comp_def]
  have start : ((lists.map (List.map Candidate.outline)).map fun _ => 0) =
      lists.map fun _ => 0 := by
    simp [Function.comp_def]
  simp only [align, List.isEmpty_map, combinationCount_outline, sizes, start, run_outline,
    picks_outline]
  split
  · rfl
  split
  · rfl
  split
  · rfl
  · simp only [Alignment.outline, List.filterMap_map, List.map_filterMap, Function.comp_def, id]

end Picks

/-! ## Partial matching -/

def PartitionMatch.outline (found : PartitionMatch) : PartitionMatch :=
  { found with selection := found.selection.map Candidate.outline }

theorem alignPartition?_outline (lists : List CandidateList) (partition : String) :
    alignPartition? (lists.map CandidateList.outline) partition =
      (alignPartition? lists partition).map PartitionMatch.outline := by
  rw [alignPartition?, alignPartition?, restrict?_outline, relationships_outline]
  cases restrict? lists partition with
  | none => rfl
  | some restricted =>
      simp only [Option.map_some, align_outline]
      cases align restricted (relationships lists) <;> rfl

theorem bestPartition?_outline (found : List PartitionMatch) :
    bestPartition? (found.map PartitionMatch.outline) =
      (bestPartition? found).map PartitionMatch.outline := by
  induction found using List.reverseRecOn with
  | nil => rfl
  | append_singleton found next ih =>
      rw [List.map_append, List.map_singleton, bestPartition?_concat, bestPartition?_concat, ih]
      cases bestPartition? found with
      | none => rfl
      | some best =>
          have same : best.outline.score.lt next.outline.score = best.score.lt next.score := rfl
          simp only [Option.map_some, same]
          cases best.score.lt next.score <;> rfl

theorem alignments_outline (options : Options) (app lib : HashTree) (libRoot : String) :
    alignments options app.outline lib.outline libRoot =
      (alignments options app lib libRoot).map PartitionMatch.outline := by
  rw [alignments, alignments, HashTree.packages_outline, HashTree.packages_outline,
    partitions_outline, candidateLists_outline, List.map_filterMap]
  congr 1
  funext partition
  exact alignPartition?_outline _ partition

theorem partialMatch_outline (options : Options) (app lib : HashTree) (libRoot : String) :
    partialMatch options app.outline lib.outline libRoot =
      (partialMatch options app lib libRoot).outline := by
  rw [partialMatch_eq, partialMatch_eq, alignments_outline, bestPartition?_outline]
  cases bestPartition? (alignments options app lib libRoot) with
  | none => rfl
  | some best =>
      have nodes : best.outline.selection.map (·.node) =
          (best.selection.map (·.node)).map Node.outline := by
        rw [PartitionMatch.outline, List.map_map, List.map_map]
        rfl
      simp only [Option.map_some, nodes]
      rfl

/-! ## The whole comparison -/

theorem contained?_outline (app lib : HashTree) :
    contained? app.outline lib.outline = (contained? app lib).map (List.map Node.outline) := by
  simp only [contained?, HashTree.packages_outline, List.all_map, Function.comp_def,
    Node.hasDigest_map_outline, Node.digest_outline, List.filter_map]
  split <;> rfl

/-- Comparing outlines is comparing trees and taking the outline of the result. -/
theorem matchTrees_outline (options : Options) (app lib : HashTree) (libRoot : Option String) :
    matchTrees options app.outline lib.outline libRoot =
      (matchTrees options app lib libRoot).map TreeMatch.outline := by
  have comparable : lib.outline.config.comparable app.outline.config =
      lib.config.comparable app.config := rfl
  have empty : lib.outline.isEmpty = lib.isEmpty := by
    simp [HashTree.isEmpty]
  simp only [matchTrees, comparable, empty, contained?_outline]
  split
  · rfl
  split
  · rfl
  cases contained? app lib with
  | some nodes => rfl
  | none =>
      simp only [Option.map_none]
      split
      · rfl
      cases libRoot with
      | none => rfl
      | some root => exact congrArg Except.ok (partialMatch_outline options app lib root)

end Matching

end LibPrint
