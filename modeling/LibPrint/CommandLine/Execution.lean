import LibPrint.Code.Hierarchy
import LibPrint.CommandLine.Reading
import LibPrint.Identify
import LibPrint.Library.Profile
import LibPrint.Settings.Configuration
import LibPrint.Store

/-!
# Carrying out commands

A command first finds something out, and that only reads files. What it has found is then delivered:
a text to print, and one changed file at most, which is the profile that was made or the report that
was asked for. A command that fails changes no file.
-/

namespace LibPrint.CommandLine

/-- What a command has found out. -/
inductive Finding where
  /-- The profile of a library, still to be stored. -/
  | made (profile : LibProfile)
  /-- There are no profiles to match with. -/
  | noProfiles
  /-- The matches of all libraries, with the profile files that could not be used and the path of
  the file that the report goes to. -/
  | matched (appPackage : Option String) (found : List LibraryMatch) (skipped : List Skipped)
      (json : Option String)
  /-- A stored profile, to be shown. -/
  | stored (profile : LibProfile) (withPackages : Bool)

/-- The text of a file in UTF-8. -/
def readText? (files : Files) (path : String) : Option String :=
  (files.read? path).bind Text.decode?

/-- The configuration of an invocation. -/
def configure (environment : Environment) (files : Files) (invocation : Invocation) :
    Except ConfigError Configuration := do
  let configuration ← Configuration.load environment files invocation.config
  return { configuration with
    profilesDir := invocation.profilesDir.getD configuration.profilesDir
    logging := invocation.logging configuration.logging }

/-- What a command meets with when it is carried out. -/
structure Circumstances where
  /-- How profiles are sorted. -/
  sorting : Catalog.Sorting
  /-- Whether the command is carried out by a task. One task must not wait for others. -/
  insideTask : Bool
  /-- The time at which matching starts, in nanoseconds. -/
  started : Nat
  /-- The ends of the tasks that match libraries. -/
  tasks : Identify.Options → Catalog → List Identify.TaskEnd

variable (configuration : Configuration)

/-- The store of profiles. -/
def store : ProfileStore :=
  ⟨configuration.profilesDir⟩

/-- The hierarchy of a class dump. -/
def loadHierarchy (path : String) (files : Files) : Except Error Hierarchy :=
  match readText? files path with
  | none => .error (.unreadableDump path)
  | some text =>
      match Dump.read? configuration.frameworkPackages text with
      | none => .error .malformedDump
      | some hierarchy => .ok hierarchy

/-- The description in a file. -/
def loadDescription (path : String) (files : Files) : Except Error Description :=
  match readText? files path with
  | none => .error (.unreadableDescription path)
  | some text => Description.read text

/-- Makes the profile of a library. -/
def makeProfile (classes description : String) (verbose : Bool) (files : Files) :
    Except Error LibProfile := do
  let hierarchy ← loadHierarchy configuration classes files
  let description ← loadDescription description files
  LibProfile.create hierarchy description
    (if verbose then .trace else configuration.verboseness)

/-- Looks for the libraries of the store in an app. The time limit is in seconds. -/
def findLibraries (circumstances : Circumstances) (classes : String)
    (appPackage json : Option String) (noPartial : Bool) (timeout : Option Nat) (files : Files) :
    Except Error Finding := do
  let hierarchy ← loadHierarchy configuration classes files
  let app := AppProfile.create hierarchy configuration.verboseness
  let app := if appPackage.isSome then app.withPackageName appPackage else app
  let loaded ← (store configuration).loadCatalog circumstances.sorting files
  if loaded.catalog.profiles.isEmpty then return .noProfiles
  let matching := { configuration.matching with
    noPartial := configuration.matching.noPartial || noPartial
    timeout := timeout <|> configuration.matching.timeout }
  let options := matching.options app.packageName
  if circumstances.insideTask then
    throw (.taskFailed "Cannot start matching from within an async runtime")
  let found ← Identify.identify options app loaded.catalog circumstances.started
    (circumstances.tasks options loaded.catalog)
  return .matched app.packageName found loaded.skipped json

/-- What a command finds out. -/
def find (circumstances : Circumstances) (command : Command) (files : Files) :
    Except Error Finding :=
  match command with
  | .profileLibrary classes description verbose =>
      (makeProfile configuration classes description verbose files).map .made
  | .matchApp classes appPackage json noPartial timeout =>
      findLibraries configuration circumstances classes appPackage json noPartial timeout files
  | .inspectProfile path withPackages =>
      ((ProfileStore.load path files).mapError Error.storage).map (.stored · withPackages)

/-- Writes the report as data to a file, if one is given. -/
def writeReport (report : Identify.Report) (json : Option String) (files : Files) :
    Except Error Files :=
  match json with
  | none => .ok files
  | some path =>
      match files.write? path (Text.encode report.toJson.pretty) with
      | none => .error (.storage (.access path))
      | some files => .ok files

/-- The line about profile files that could not be used. -/
def skippedText (skipped : List Skipped) : String :=
  if skipped.isEmpty then ""
  else "  " ++ toString skipped.length ++ " unreadable profiles skipped\n"

/-- The text to print about a finding, and the files with what is kept of it. `elapsed` says how
long the matching took, in milliseconds. -/
def deliver (elapsed : Nat) (finding : Finding) (files : Files) :
    Except Error (String × Files) :=
  match finding with
  | .made profile => do
      let (path, files) ← ((store configuration).save profile files).mapError Error.storage
      return ("Profile of " ++ profile.description.display ++ " saved to " ++ path, files)
  | .noProfiles => .ok ("No library profiles found in " ++ configuration.profilesDir, files)
  | .matched appPackage found skipped json => do
      let report : Identify.Report := ⟨appPackage, found, elapsed⟩
      let files ← writeReport report json files
      return (report.text ++ skippedText skipped, files)
  | .stored profile withPackages => .ok (profile.text withPackages, files)

/-- The text to print for a command, and the files after it. -/
def execute (circumstances : Circumstances) (elapsed : Nat) (command : Command) (files : Files) :
    Except Error (String × Files) := do
  deliver configuration elapsed (← find configuration circumstances command files) files

/-- The outcome of a command with the files after it, which are those before it when it fails. -/
def run (circumstances : Circumstances) (elapsed : Nat) (command : Command) (files : Files) :
    Except Error String × Files :=
  match execute configuration circumstances elapsed command files with
  | .ok (text, files) => (.ok text, files)
  | .error error => (.error error, files)

end LibPrint.CommandLine
