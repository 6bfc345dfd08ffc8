import LibPrint.HashTree
import LibPrint.Package.Tree
import LibPrint.Score
import LibPrint.Text.Basic

/-!
# Candidates and partitions

What a library package may have become in an app, and where in the app it is looked for.
-/

/-!
## Similarity of nodes

How much of a library node is found in an app node: all of it when the digests are equal, otherwise
the share of the library node's children whose digest occurs among the app node's children. What the
app node has beyond that does not count against it.
-/

namespace LibPrint.Matching

/-- The number of children of a library node that the app node has too. -/
def sharedChildren (lib app : Node) : Nat :=
  lib.children.countP fun child => Node.hasDigest app.children child.digest

/-- The similarity of a library node to an app node. Nodes of different levels share nothing, and
neither does a node without children unless the digests are equal. -/
def similarity (lib app : Node) : Score :=
  if lib.level ≠ app.level then .zero
  else if lib.digest = app.digest then .one
  else if lib.children.isEmpty then .zero
  else .ratio (sharedChildren lib app) lib.children.length

/-!
## Candidates

The app packages that may be a library package under another name: those similar enough to it, best
first. The app's own packages are never candidates. The lists of a library come in an order of their
own, which does not depend on the order of its packages.
-/

/-- Candidates have to be above this similarity. -/
def minSimilarity : Score :=
  .ratio 33 100

/-- An app package proposed for a library package. -/
structure Candidate where
  node : Node
  package : String
  score : Score
deriving Inhabited

/-- The candidates of a library package. -/
structure CandidateList where
  node : Node
  package : String
  candidates : List Candidate

namespace Candidate

def display (candidate : Candidate) : String :=
  candidate.package ++ " (" ++ candidate.score.fixed 3 ++ ")"

/-- The candidate of an app node, when it is similar enough to the library node. -/
def of? (lib app : Node) (package : String) : Option Candidate :=
  let score := similarity lib app
  if minSimilarity.lt score then some ⟨app, package, score⟩ else none

end Candidate

namespace CandidateList

/-- The best candidate. -/
def top? (list : CandidateList) : Option Candidate :=
  list.candidates.head?

def display (list : CandidateList) : String :=
  list.package ++ " :" ++
    String.join (list.candidates.map fun candidate => " " ++ candidate.display)

/-- The order of lists: by the score of the best candidate, the highest first, then by its name,
then by the name of the library package. Lists without candidates come last. -/
def compare (left right : CandidateList) : Ordering :=
  match left.top?, right.top? with
  | none, none => Ord.compare left.package right.package
  | none, some _ => .gt
  | some _, none => .lt
  | some first, some second =>
      (second.score.totalCompare first.score).then
        ((Ord.compare first.package second.package).then
          (Ord.compare left.package right.package))

end CandidateList

/-- The named nodes with their names, without those at or below the excluded package. -/
def eligible (excluded : Option String) (packages : List Node) : List (Node × String) :=
  packages.filterMap fun node =>
    match node.packageName? with
    | none => none
    | some name =>
        if excluded.any fun root => Package.isWithin name root then none else some (node, name)

/-- The candidates among the given app packages, best first and in app order where equal. -/
def candidatesFor (app : List (Node × String)) (lib : Node) : List Candidate :=
  (app.filterMap fun (node, name) => Candidate.of? lib node name).mergeSort fun left right =>
    (right.score.totalCompare left.score).isLE

/-- The candidate lists of all named library packages. -/
def candidateLists (lib app : List Node) (excluded : Option String) : List CandidateList :=
  let app := eligible excluded app
  let lists := (eligible none lib).map fun (node, name) =>
    (⟨node, name, candidatesFor app node⟩ : CandidateList)
  lists.mergeSort fun left right => (left.compare right).isLE

/-- The relationship of each library package to the next one. -/
def relationships (lists : List CandidateList) : List Package.Relationship :=
  List.zipWith (fun left right => Package.relationship left.package right.package)
    lists lists.tail

/-!
## Partitions

Where a library may have been moved to inside an app: the app packages as deep as the library's root
package. A library that kept its root package is looked for there alone.
-/

/-- The share of library packages that need a candidate inside a partition. -/
def minCoverage : Score :=
  .ratio 1 2

/-- The app packages that may stand for the library's root package, in order. -/
def partitions (app : List Node) (libRoot : String) : List String :=
  let names := app.filterMap Node.packageName?
  let found := Text.sortDistinct
    (names.filterMap fun name => Package.ancestorAt? name (Package.depth libRoot))
  if found.length ≤ 1 then found
  else
    match found.filter fun package => Package.isWithin package libRoot with
    | [] => found
    | kept => kept

/-- Whether a candidate can stand for the library package inside the partition. -/
def fits (partition libPackage : String) (candidate : Candidate) : Bool :=
  Package.isWithin candidate.package partition &&
    Package.depth candidate.package == Package.depth libPackage

/-- The candidates inside a partition and as deep as their library package. `none` when too few
library packages have any. -/
def restrict? (lists : List CandidateList) (partition : String) :
    Option (List (List Candidate)) :=
  if lists.isEmpty then none
  else
    let restricted := lists.map fun list => list.candidates.filter (fits partition list.package)
    let covered := restricted.countP fun candidates => !candidates.isEmpty
    if (Score.ratio covered restricted.length).lt minCoverage then none else some restricted

end LibPrint.Matching
