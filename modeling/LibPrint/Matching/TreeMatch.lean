import LibPrint.Error
import LibPrint.HashTree
import LibPrint.Matching.Candidate

/-!
# Matching

One app tree is compared with one library tree: the candidates of all library packages are aligned,
and the verdict says how much of the library was found.
-/

/-!
## Alignment

One candidate is picked for every library package so that the mean score is highest, while packages
that are neighbours in the list stay in the same relationship. All picks are tried: a counter with
one digit for each list runs through them in lexicographic order. Too many are refused.
-/

namespace LibPrint.Matching

open Package (Relationship relationship)

/-- Alignments have to be above this score. -/
def minPartial : Score :=
  .ratio 7 10

/-- The number of combinations above which none is tried. -/
def maxCombinations : Nat := 65536

/-- The largest number of combinations that is told. -/
def maxCount : Nat := twoTo 64 - 1

/-- What became of an alignment. -/
inductive Alignment where
  /-- The best pick above the threshold, with its score. -/
  | best (score : Score) (selection : List Candidate)
  | noImprovement
  | tooMany (combinations : Nat)

/-- The number of picks, where a list without candidates has one; it stops at `maxCount`. -/
def combinationCount (lists : List (List Candidate)) : Nat :=
  lists.foldl (fun count list => min maxCount (count * max 1 list.length)) 1

/-- The next value of a counter and whether it ran over; the last digit runs fastest, and a digit
without a size of its own stays zero. -/
def advance : (sizes counter : List Nat) → List Nat × Bool
  | size :: sizes, digit :: counter =>
      match advance sizes counter with
      | (rest, false) => (digit :: rest, false)
      | (rest, true) =>
          if digit + 1 < size then ((digit + 1) :: rest, false) else (0 :: rest, true)
  | _, _ => ([], true)

/-- The candidate of each list at its digit. -/
def picks (lists : List (List Candidate)) (counter : List Nat) : List (Option Candidate) :=
  List.zipWith (fun list digit => list[digit]?) lists counter

/-- The mean of the picked scores over all places, a place without a pick counting as zero. -/
def mean (picks : List (Option Candidate)) : Score :=
  (Score.sum (picks.filterMap fun pick => pick.map (·.score))).div (.ofNat picks.length)

/-- Whether neighbouring picks are in the given relationships. -/
def isConsistent : List (Option Candidate) → List Relationship → Bool
  | first :: second :: picks, expected :: relationships =>
      (match first, second with
        | some left, some right => relationship left.package right.package == expected
        | _, _ => true) && isConsistent (second :: picks) relationships
  | _, _ => true

/-- The highest score so far and the counter it was reached at. -/
structure Leader where
  score : Score
  counter : Option (List Nat)

variable (lists : List (List Candidate)) (relationships : List Relationship)

/-- The leader after one more counter; an equal score does not replace it. -/
def Leader.challenge (leader : Leader) (counter : List Nat) : Leader :=
  let picked := picks lists counter
  let score := mean picked
  if leader.score.lt score && isConsistent picked relationships then ⟨score, some counter⟩
  else leader

/-- The leader after the given number of counters. -/
def Leader.run (sizes : List Nat) : Nat → List Nat → Leader → Leader
  | 0, _, leader => leader
  | remaining + 1, counter, leader =>
      run sizes remaining (advance sizes counter).1
        (leader.challenge lists relationships counter)

/-- The best alignment of the lists, given how each library package lies to the next one. -/
def align : Alignment :=
  if lists.isEmpty then .noImprovement
  else
    let count := combinationCount lists
    if maxCombinations < count then .tooMany count
    else
      let sizes := lists.map List.length
      let leader := Leader.run lists relationships sizes count (lists.map fun _ => 0)
        ⟨minPartial, none⟩
      match leader.counter with
      | none => .noImprovement
      | some counter => .best leader.score ((picks lists counter).filterMap id)

end LibPrint.Matching

/-!
## Matching trees

The comparison of an app's hash tree with a library's. The library is fully contained when every
package digest of it occurs in the app. Otherwise it may be contained in part, under other names:
for each partition of the app the candidates are aligned, and the best partition counts.
-/

namespace LibPrint

/-- How far a library was found in an app under one configuration. -/
inductive Verdict where
  /-- Only full containment could be tested, since the library has no root package. -/
  | noRootPackage
  | noMatch
  /-- Contained in part, with a score below one. -/
  | similar (score : Score)
  | full
deriving DecidableEq, Inhabited

namespace Verdict

/-- The score that verdicts are ordered by. -/
def score : Verdict → Score
  | noRootPackage => ⟨0xbf800000⟩
  | noMatch => .zero
  | similar score => score
  | full => .one

def isFull (verdict : Verdict) : Bool :=
  match verdict with
  | full => true
  | _ => false

def isSimilar (verdict : Verdict) : Bool :=
  match verdict with
  | similar _ => true
  | _ => false

/-- The name of the kind of a verdict. -/
def kind : Verdict → String
  | noRootPackage => "no_root_package"
  | noMatch => "no_match"
  | similar _ => "partial"
  | full => "full"

def display : Verdict → String
  | noRootPackage => "no root package"
  | noMatch => "no match"
  | similar score => "partial match (" ++ score.fixed 4 ++ ")"
  | full => "full match"

/-- The verdict on an alignment of the given score. -/
def ofScore (score : Score) : Verdict :=
  if score.lt .one then similar score else full

end Verdict

/-- The result for one configuration. -/
structure TreeMatch where
  config : TreeConfig
  verdict : Verdict
  /-- The app's package nodes that were found to be the library's. -/
  nodes : List Node
  /-- The app package that stands for the library's root package. -/
  rootPackage : Option String

namespace TreeMatch

/-- The names of the packages found. -/
def packageNames (result : TreeMatch) : List String :=
  result.nodes.filterMap Node.packageName?

def display (result : TreeMatch) : String :=
  let root := match result.verdict, result.rootPackage with
    | .similar _, some root => ", root package: " ++ root
    | _, _ => ""
  "Config: " ++ result.config.display ++ " - " ++ result.verdict.display ++ root

end TreeMatch

namespace Matching

/-- How a library is looked for. -/
structure Options where
  /-- The app's own package, which is no candidate. -/
  appPackage : Option String
  /-- Whether only full containment counts. -/
  fullOnly : Bool
deriving Inhabited

/-- The package nodes of the app whose digest is one of the library's, when those are all of the
library's digests. -/
def contained? (app lib : HashTree) : Option (List Node) :=
  if lib.packages.all fun node => Node.hasDigest app.packages node.digest then
    some (app.packages.filter fun node => Node.hasDigest lib.packages node.digest)
  else none

/-- The best alignment of a partition. -/
structure PartitionMatch where
  partition : String
  score : Score
  selection : List Candidate

/-- The alignment of one partition, when it is good enough. -/
def alignPartition? (lists : List CandidateList) (partition : String) : Option PartitionMatch :=
  match restrict? lists partition with
  | none => none
  | some restricted =>
      match align restricted (relationships lists) with
      | .best score selection => some ⟨partition, score, selection⟩
      | _ => none

/-- The first of the partitions with the highest score. -/
def bestPartition? (found : List PartitionMatch) : Option PartitionMatch :=
  found.foldl (fun best? next =>
    match best? with
    | none => some next
    | some best => if best.score.lt next.score then some next else some best) none

/-- The partial match of two trees. -/
def partialMatch (options : Options) (app lib : HashTree) (libRoot : String) : TreeMatch :=
  let lists := candidateLists lib.packages app.packages options.appPackage
  let found := (partitions app.packages libRoot).filterMap (alignPartition? lists)
  match bestPartition? found with
  | none => ⟨app.config, .noMatch, [], none⟩
  | some best =>
      ⟨app.config, .ofScore best.score, best.selection.map (·.node), some best.partition⟩

/-- The comparison of an app's tree with a library's, whose root package is given if it has one.
Trees of different recipes are not compared, and neither is an empty library tree. -/
def matchTrees (options : Options) (app lib : HashTree) (libRoot : Option String) :
    Except Error TreeMatch :=
  if !lib.config.comparable app.config then
    .error (.recipeMismatch app.config.recipe lib.config.recipe)
  else if lib.isEmpty then
    .error (.emptyTree ("library tree (" ++ lib.config.display ++ ")"))
  else
    match contained? app lib with
    | some nodes => .ok ⟨app.config, .full, nodes, none⟩
    | none =>
        if options.fullOnly then .ok ⟨app.config, .noMatch, [], none⟩
        else
          match libRoot with
          | none => .ok ⟨app.config, .noRootPackage, [], none⟩
          | some root => .ok (partialMatch options app lib root)

end Matching

end LibPrint
