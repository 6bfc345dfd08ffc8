import LibPrint.Json.Basic
import LibPrint.Library.Catalog
import LibPrint.Library.Match
import LibPrint.Number
import LibPrint.Text.Table

/-!
# Identification

Which libraries of a catalog an app contains, and the report about it.
-/

/-!
## Matching by tasks

Which libraries of a catalog an app contains. Each library is matched by a task of its own, and the
tasks end in any order; what they deliver is put back into the catalog's order. A library whose task
began after the deadline, or did not end before the gathering stopped, counts as not matched in
time. A task that breaks down makes the whole identification fail. Nothing is begun under a deadline
that lies beyond the end of time.
-/

namespace LibPrint.Identify

/-- How an identification is done. -/
structure Options where
  matching : Matching.Options
  /-- Root packages whose presence says nothing, since several libraries share them. -/
  ambiguousRoots : List String
  /-- The time limit, in nanoseconds. -/
  deadline : Option Nat

/-- A second, in nanoseconds. -/
def second : Nat := 1000000000

/-- The first time that a clock cannot show, in nanoseconds. Its seconds are numbers of 64 bits,
half of which are negative. -/
def endOfTime : Nat :=
  twoTo 63 * second

/-- The root packages that are taken to be shared unless others are given. -/
def defaultAmbiguousRoots : List String :=
  ["com.google", "com.google.android", "com.google.android.gms", "android.support"]

/-- Partial matching without a time limit. -/
def Options.standard : Options :=
  ⟨⟨none, false⟩, defaultAmbiguousRoots, none⟩

variable (options : Options) (app : AppProfile) (catalog : Catalog)

/-- Whether the app has a package named like the library's root package, a shared one apart. -/
def hasRoot (lib : LibProfile) : Bool :=
  match lib.rootPackage? with
  | none => false
  | some root => !options.ambiguousRoots.contains root && app.packageTree.contains root

/-- The places in the catalog of the libraries whose root package the app has. -/
def presentRoots : List Nat :=
  (catalog.profiles.zipIdx.filter fun (lib, _) => hasRoot options app lib).map (·.2)

/-- The matching options of a run: the app's own package is the one it declares unless another is
given. -/
def runOptions : Matching.Options :=
  { options.matching with appPackage := options.matching.appPackage <|> app.packageName }

/-- A match with what is known of the library before any comparison. -/
def annotate (found : LibraryMatch) : LibraryMatch :=
  { found with
    rootPresent := hasRoot options app found.profile
    isDeprecated := catalog.isDeprecated found.profile }

/-- The match of a library that was not compared in time. -/
def timedOut (lib : LibProfile) : LibraryMatch :=
  let results := app.hashTrees.map fun tree => (⟨tree.config, .noMatch, [], none⟩ : TreeMatch)
  { results.foldl LibraryMatch.add (.ofProfile lib) with timedOut := true }

/-- How a task ended. -/
inductive TaskResult where
  /-- The library was compared. -/
  | compared
  /-- The task began after the deadline. -/
  | late
  /-- The task broke down, with the words for it. -/
  | failed (text : String)
deriving DecidableEq

/-- The end of a task: the library's place in the catalog, and how the task ended. -/
structure TaskEnd where
  place : Nat
  result : TaskResult
deriving DecidableEq

/-- What a task delivers. -/
def outcome (lib : LibProfile) : TaskResult → Except Error LibraryMatch
  | .compared =>
      .ok (annotate options app catalog
        (Matching.matchProfile (runOptions options app) app lib))
  | .late => .ok (annotate options app catalog (timedOut app lib))
  | .failed text => .error (.taskFailed text)

/-- The slots of the libraries after one more task has ended: that of its library holds what the
task delivers. -/
def fill (slots : List (Option LibraryMatch)) (taskEnd : TaskEnd) :
    Except Error (List (Option LibraryMatch)) :=
  match catalog.profiles[taskEnd.place]? with
  | none => .ok slots
  | some lib =>
      (outcome options app catalog lib taskEnd.result).map fun found =>
        slots.set taskEnd.place (some found)

/-- What the slots hold in the end, an empty one a library that was not compared in time. -/
def settle (slots : List (Option LibraryMatch)) : List LibraryMatch :=
  List.zipWith (fun slot lib => slot.getD (annotate options app catalog (timedOut app lib)))
    slots catalog.profiles

/-- The matches in catalog order after the given ends of tasks, of which none may have failed. -/
def gather (ends : List TaskEnd) : Except Error (List LibraryMatch) :=
  (ends.foldlM (fill options app catalog) (catalog.profiles.map fun _ => none)).map
    (settle options app catalog)

/-- The ends of all tasks in catalog order. Only a limit of no time at all makes them late. -/
def orderly : List TaskEnd :=
  (List.range catalog.profiles.length).map fun place =>
    ⟨place, if options.deadline == some 0 then .late else .compared⟩

/-- Whether a run that starts at the given time has a deadline which the clock cannot show. -/
def overruns (started : Nat) : Bool :=
  options.deadline.any fun limit => endOfTime ≤ started + limit

/-- The libraries in an app, one match for each library of the catalog. An app without any code to
compare is refused. -/
def identify (started : Nat) (ends : List TaskEnd) : Except Error (List LibraryMatch) :=
  if app.isEmpty then .error (.emptyTree "application")
  else if overruns options started then .error (.brokenDown .clock)
  else gather options app catalog ends

end LibPrint.Identify

/-!
## Reports

The outcome of an identification, as a table of the libraries found and as data about all of them.
-/

namespace LibPrint.Identify

/-- How many libraries are of each level, and how many were not matched in time. -/
structure LevelCounts where
  allConfigs : Nat
  someConfigs : Nat
  inPart : Nat
  notFound : Nat
  timedOut : Nat
deriving DecidableEq

/-- The outcome of an identification. -/
structure Report where
  appPackage : Option String
  found : List LibraryMatch
  /-- How long it took, in milliseconds. -/
  elapsed : Nat

namespace LevelCounts

def display (counts : LevelCounts) : String :=
  toString counts.allConfigs ++ " full matches, " ++ toString counts.someConfigs ++
    " matches in some configs, " ++ toString counts.inPart ++ " partial matches, " ++
    toString counts.notFound ++ " not found" ++
    (if counts.timedOut = 0 then "" else " (" ++ toString counts.timedOut ++ " timed out)")

def toJson (counts : LevelCounts) : Json :=
  .object
    [("all_configs", .ofNat counts.allConfigs), ("some_configs", .ofNat counts.someConfigs),
      ("partial", .ofNat counts.inPart), ("none", .ofNat counts.notFound),
      ("timed_out", .ofNat counts.timedOut)]

end LevelCounts

namespace Report

/-- The matches of a level, in order. -/
def ofLevel (report : Report) (level : MatchLevel) : List LibraryMatch :=
  report.found.filter (·.level == level)

def counts (report : Report) : LevelCounts :=
  ⟨(report.ofLevel .allConfigs).length, (report.ofLevel .someConfigs).length,
    (report.ofLevel .inPart).length, (report.ofLevel .notFound).length,
    report.found.countP (·.timedOut)⟩

/-- The report as data. -/
def toJson (report : Report) : Json :=
  .object
    [("app_package", .ofOption .string report.appPackage),
      ("elapsed_ms", .ofNat report.elapsed),
      ("counts", report.counts.toJson),
      ("libraries", .array (report.found.map LibraryMatch.toJson))]

/-- What is worth a note about a match. -/
def notes (found : LibraryMatch) : List String :=
  (if found.isDeprecated then ["outdated"] else []) ++
    (if found.isObfuscated then ["obfuscated"] else []) ++
    (if found.rootPresent then ["root package present"] else []) ++
    (match found.profile.description.advisory? with
      | some .vulnerable => ["security issue"]
      | some .fix => ["security fix"]
      | none => [])

/-- The columns of the table. -/
def columns : List String :=
  ["Library", "Version", "Category", "Match", "Score", "Root package", "Notes"]

/-- The row of a match. -/
def row (found : LibraryMatch) : List String :=
  let description := found.profile.description
  let root := (found.best?.bind (·.rootPackage)) <|> found.profile.rootPackage?
  [description.name, description.versionText, description.category.name, found.level.display,
    (found.best?.map fun best => best.verdict.score.fixed 4).getD "-", root.getD "-",
    ", ".intercalate (notes found)]

/-- The rows of all libraries found, the surest first. -/
def rows (report : Report) : List (List String) :=
  ([MatchLevel.allConfigs, .someConfigs, .inPart].flatMap report.ofLevel).map row

/-- The report for people. -/
def text (report : Report) : String :=
  let app := match report.appPackage with
    | some package => "  App package: " ++ package ++ "\n"
    | none => ""
  let table := match report.rows with
    | [] => "  No library found."
    | rows => Text.Table.render columns rows
  Text.heading "Identified libraries" ++ "\n\n" ++ app ++
    "  Libraries checked: " ++ toString report.found.length ++ "\n" ++
    "  Duration: " ++ toString report.elapsed ++ " ms\n\n" ++
    table ++ "\n\n  " ++ report.counts.display ++ "\n"

end Report

end LibPrint.Identify
