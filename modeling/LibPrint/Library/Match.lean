import LibPrint.Library.Profile
import LibPrint.Matching.TreeMatch

/-!
# Matching a library

The results of comparing an app with one library under every configuration both were profiled with,
best result first, and what follows from them: how surely the library is contained, and whether its
packages were renamed.
-/

namespace LibPrint

/-- How surely a library is contained in an app. -/
inductive MatchLevel where
  /-- Fully under every configuration. -/
  | allConfigs
  /-- Fully under some configuration. -/
  | someConfigs
  /-- Only in part. -/
  | inPart
  | notFound
deriving DecidableEq, Inhabited

namespace MatchLevel

/-- All levels, the surest first. -/
def all : List MatchLevel :=
  [allConfigs, someConfigs, inPart, notFound]

def display : MatchLevel → String
  | allConfigs => "all configs"
  | someConfigs => "some configs"
  | inPart => "partial"
  | notFound => "none"

/-- The level's name in data. -/
def name : MatchLevel → String
  | allConfigs => "all_configs"
  | someConfigs => "some_configs"
  | inPart => "partial"
  | notFound => "none"

end MatchLevel

/-- The results for one library. -/
structure LibraryMatch where
  profile : LibProfile
  results : List TreeMatch
  /-- The app has a package with the name of the library's root package. -/
  rootPresent : Bool
  /-- There is a newer version of the library. -/
  isDeprecated : Bool
  /-- The library was not matched in time. -/
  timedOut : Bool

namespace LibraryMatch

/-- A match without results. -/
def ofProfile (profile : LibProfile) : LibraryMatch :=
  ⟨profile, [], false, false, false⟩

/-- The order of results: the highest score first, and at equal scores full containment first. -/
def compareResults (left right : TreeMatch) : Ordering :=
  (right.verdict.score.totalCompare left.verdict.score).then
    (compare right.verdict.isFull left.verdict.isFull)

/-- The match with one more result, in order. -/
def add (found : LibraryMatch) (result : TreeMatch) : LibraryMatch :=
  { found with
    results := (found.results ++ [result]).mergeSort fun left right =>
      (compareResults left right).isLE }

/-- The result of the given configuration. -/
def result? (found : LibraryMatch) (config : TreeConfig) : Option TreeMatch :=
  found.results.find? (·.config.comparable config)

/-- The best result. -/
def best? (found : LibraryMatch) : Option TreeMatch :=
  found.results.head?

/-- The first result of full containment. -/
def full? (found : LibraryMatch) : Option TreeMatch :=
  found.results.find? (·.verdict.isFull)

def allFull (found : LibraryMatch) : Bool :=
  !found.results.isEmpty && found.results.all (·.verdict.isFull)

def anyFull (found : LibraryMatch) : Bool :=
  found.results.any (·.verdict.isFull)

/-- Whether the library is contained in part and nowhere fully. -/
def onlyInPart (found : LibraryMatch) : Bool :=
  !found.anyFull && found.results.any (·.verdict.isSimilar)

def level (found : LibraryMatch) : MatchLevel :=
  if found.allFull then .allConfigs
  else if found.anyFull then .someConfigs
  else if found.onlyInPart then .inPart
  else .notFound

/-- The configurations with a verdict of the given kind. -/
def configs (found : LibraryMatch) (test : Verdict → Bool) : List TreeConfig :=
  (found.results.filter fun result => test result.verdict).map (·.config)

/-- The packages found by the first result of full containment. -/
def packageTree? (found : LibraryMatch) : Option PackageTree :=
  found.full?.map fun result => PackageTree.ofPackages result.packageNames

/-- Whether a fully contained library has other package names in the app. The names of the library's
tree are compared with those found; when their numbers differ, which more copies of a package in the
app bring about, a name that was not found is what counts. -/
def isObfuscated (found : LibraryMatch) : Bool :=
  match found.full? with
  | none => false
  | some result =>
      match HashTree.find? found.profile.hashTrees result.config with
      | none => false
      | some tree =>
          let wanted := Text.sort tree.packageNames
          let present := Text.sort result.packageNames
          if wanted.length ≠ present.length then wanted.any fun name => !present.contains name
          else wanted != present

/-- The score of a verdict as data. -/
def verdictJson (verdict : Verdict) : Json :=
  match verdict with
  | .similar score =>
      .object [("kind", .string verdict.kind),
        ("score", .ofOption .number score.shortestText?)]
  | _ => .object [("kind", .string verdict.kind)]

/-- A result as data. -/
def resultJson (result : TreeMatch) : Json :=
  .object
    ([("config", .string result.config.display), ("score", verdictJson result.verdict)] ++
      result.rootPackage.toList.map (fun root => ("root_package", .string root)) ++
      [("matched_packages", .ofTexts result.packageNames)])

/-- The match as data. -/
def toJson (found : LibraryMatch) : Json :=
  let description := found.profile.description
  .object
    ([("name", .string description.name),
        ("version", .ofOption .string description.version),
        ("category", .string description.category.name),
        ("classification", .string found.level.name),
        ("deprecated", .bool found.isDeprecated),
        ("obfuscated", .bool found.isObfuscated),
        ("lib_root_package_present", .bool found.rootPresent)] ++
      description.advisory?.toList.map (fun advisory => ("security", .string advisory.name)) ++
      [("timed_out", .bool found.timedOut),
        ("results", .array (found.results.map resultJson))])

end LibraryMatch

namespace Matching

/-- The result for one tree of the app: `none` when the library has no tree to compare it with, or
an empty one. -/
def matchTree? (options : Options) (lib : LibProfile) (tree : HashTree) : Option TreeMatch :=
  match HashTree.find? lib.hashTrees tree.config with
  | none => none
  | some libTree => (matchTrees options tree libTree lib.rootPackage?).toOption

/-- The comparison of an app with a library under all configurations of the app. -/
def matchProfile (options : Options) (app : AppProfile) (lib : LibProfile) : LibraryMatch :=
  (app.hashTrees.filterMap (matchTree? options lib)).foldl LibraryMatch.add (.ofProfile lib)

end Matching

end LibPrint
