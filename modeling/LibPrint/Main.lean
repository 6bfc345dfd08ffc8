import LibPrint.CommandLine.Execution
import LibPrint.CommandLine.Reading
import LibPrint.Logging.Setup

/-!
# The program

Takes the files that a command needs from the disk, carries the command out on them, and writes the
files that it changed.
-/

namespace LibPrint.Program

/-- The variables the program was started with. -/
def readEnvironment : IO Environment := do
  let bytes ← try IO.FS.readBinFile "/proc/self/environ" catch _ => pure .empty
  let texts := Text.pieces '\x00' (String.ofList (Text.decodeLossy bytes.toList))
  let entries := texts.map fun text =>
    (String.ofList (text.toList.takeWhile (· != '=')),
      String.ofList ((text.toList.dropWhile (· != '=')).drop 1))
  return ⟨entries, none⟩

/-- No files yet, in the folder the program was started in. -/
def noFiles : IO Files := do
  let folder := (Path.steps (toString (← IO.currentDir))).filter (· != "")
  return ⟨folder, [], [folder]⟩

/-- Adds what lies at a path, and for a folder what it holds down to a depth. What cannot be read is
as good as not there. -/
def gather : (depth : Nat) → (path : String) → Files → IO Files
  | depth, path, files => do
    match ← ((← IO.currentDir) / path).readDir.toBaseIO, depth with
    | .ok _, 0 => return (files.makeFolders? path).getD files
    | .ok entries, depth + 1 =>
        entries.foldlM (fun files entry => gather depth (Path.join path entry.fileName) files)
          ((files.makeFolders? path).getD files)
    | .error _, _ =>
        match ← (IO.FS.readBinFile path).toBaseIO with
        | .error _ => return files
        | .ok bytes =>
            return ((files.makeParents? path).bind (·.write? path bytes.toList)).getD files

/-- Adds the files of the given paths, and the folders that they lie in. -/
def gatherAll (paths : List String) (files : Files) : IO Files :=
  paths.foldlM (fun files path => do
    let folder := match Text.beforeLast? '/' path.toList with
      | some folder => String.ofList folder ++ "/"
      | none => "."
    gather 0 path (← gather 0 folder files)) files

/-- The files that the configuration may come from. -/
def configPaths (environment : Environment) (invocation : CommandLine.Invocation) : List String :=
  (Configuration.globalPath? environment).toList ++
    invocation.config.toList.flatMap fun path => [path, path ++ ".toml"]

/-- The files that a command names. -/
def commandPaths : CommandLine.Command → List String
  | .profileLibrary classes description _ => [classes, description]
  | .matchApp classes _ json _ _ => classes :: json.toList
  | .inspectProfile profile _ => [profile]

/-- How many levels of folders a store may have. -/
def storeDepth : Nat := 128

/-- Adds the files that a command needs. -/
def gatherFor (environment : Environment) (configuration : Configuration)
    (command : CommandLine.Command) (files : Files) : IO Files := do
  let log := (Logging.filePath environment none configuration.logging.file).toOption
  let files ← gatherAll (log.toList ++ commandPaths command) files
  match command with
  | .matchApp .. => gather storeDepth configuration.profilesDir files
  | _ => return files

/-- Writes the files that are not as before. -/
def keep (before after : Files) : IO Unit := do
  for (place, bytes) in after.files do
    if before.fileAt? place != some bytes then
      IO.FS.createDirAll ("/" ++ "/".intercalate place.dropLast)
      IO.FS.writeBinFile ("/" ++ "/".intercalate place) ⟨bytes.toArray⟩

/-- The value, or the error with what was being done. -/
def attempt {α : Type} (doing : String) (result : Except Error α) : IO α :=
  match result with
  | .ok value => return value
  | .error error => throw (IO.userError (doing ++ error.message))

/-- Carries out an invocation. The outcome is the text to print. -/
def carryOut (invocation : CommandLine.Invocation) : IO String := do
  let environment ← readEnvironment
  let files ← gatherAll (configPaths environment invocation) (← noFiles)
  let configuration ← attempt "Error loading configuration: "
    ((CommandLine.configure environment files invocation).mapError .config)
  let files ← gatherFor environment configuration invocation.command files
  let logged ← attempt "Error initializing logging: "
    ((Logging.setUp environment configuration.logging files).mapError .config)
  keep files logged
  let started ← IO.monoNanosNow
  let circumstances : CommandLine.Circumstances := ⟨.checked, false, started, Identify.orderly⟩
  let finding ← attempt "" (CommandLine.find configuration circumstances invocation.command logged)
  let elapsed := ((← IO.monoNanosNow) - started) / tenTo 6
  let (text, after) ← attempt "" (CommandLine.deliver configuration elapsed finding logged)
  keep logged after
  return text

/-- Carries out a command line; gives the exit code. -/
def run (words : List String) : IO UInt32 := do
  match CommandLine.read words with
  | .error .help => do
      IO.println CommandLine.usage
      return 0
  | .error cause => do
      IO.eprintln ("error: " ++ cause.message ++ "\n\n" ++ CommandLine.usage)
      return 2
  | .ok invocation =>
      try
        IO.println (← carryOut invocation)
        return 0
      catch error => do
        IO.eprintln ("Error: " ++ toString error)
        return 1

end LibPrint.Program

/-- The program: prints what a command has to say, or what went wrong. -/
def main (words : List String) : IO UInt32 :=
  LibPrint.Program.run words
