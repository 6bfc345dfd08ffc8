import LibPrint.Error
import LibPrint.Logging.Directive
import LibPrint.Settings.Configuration

/-!
# Setting up logging

The settings of logging are checked before anything is logged, and the log file is made. Variables
of the environment come before the settings.
-/

namespace LibPrint.Logging

/-- The path of the log file: as the command says, the environment, the settings, or else in the
folder for state. -/
def filePath (environment : Environment) (command settings : Option String) :
    Except ConfigError String :=
  match command.filter (· != "") <|> environment.nonempty? "LIBSIFT_LOG_FILE" <|>
      settings.filter (· != "") with
  | some path => .ok path
  | none =>
      match environment.stateHome? with
      | some folder => .ok (Path.join (Environment.ownFolder folder) "libsift.log")
      | none => .error .noLogFolder

/-- Where log lines can go. -/
inductive Output where
  | stdout
  | stderr
  | file
  | fileAndStderr
  | both
deriving DecidableEq

namespace Output

/-- The output of the given name. -/
def ofName? : String → Option Output
  | "stdout" => some stdout
  | "stderr" => some stderr
  | "file" => some file
  | "file+stderr" => some fileAndStderr
  | "both" => some both
  | _ => none

/-- Whether a log file is written. -/
def toFile : Output → Bool
  | file | fileAndStderr => true
  | _ => false

end Output

/-- The directives that the settings and the environment add to the level. -/
def moduleDirectives (environment : Environment) (settings : Settings) : List String :=
  let added := (environment.get? "LIBSIFT_LOG_MODULES").getD ""
  let added := (Text.pieces ',' added).filterMap fun entry =>
    match entry.toList.dropWhile (· != '=') with
    | [] => none
    | _ :: level =>
        some (Text.trim (String.ofList (entry.toList.takeWhile (· != '='))) ++ "=" ++
          Text.trim (String.ofList level))
  (settings.modules.map fun (name, level) => name ++ "=" ++ level) ++ added

/-- Checks what is to be logged. A filter of the environment, if it is well-formed, replaces the
level and all directives; without a level nothing is logged and no directive is read. -/
def checkFilter (environment : Environment) (settings : Settings) : Except ConfigError Unit :=
  let replaced := (environment.get? "LIBSIFT_LOG").any fun filter =>
    areDirectives (Text.pieces ',' filter)
  if replaced || settings.level == "off" then .ok ()
  else
    match (moduleDirectives environment settings).find? (!isDirective ·) with
    | some directive => .error (.logDirective directive)
    | none => .ok ()

def isFormat (text : String) : Bool :=
  text == "json" || text == "text"

/-- Checks how is logged. A format of the environment counts only if there is one of that name. -/
def checkFormat (environment : Environment) (settings : Settings) : Except ConfigError Unit :=
  if (environment.get? "LIBSIFT_LOG_FORMAT").any isFormat || isFormat settings.format then .ok ()
  else .error (.logFormat settings.format)

/-- Where is logged to. An output of the environment always counts. -/
def output (environment : Environment) (settings : Settings) : Except ConfigError Output :=
  let name := (environment.get? "LIBSIFT_LOG_OUTPUT").getD settings.output
  match Output.ofName? name with
  | some output => .ok output
  | none => .error (.logOutput name)

/-- Makes the log file, with the folders it lies in, if it is not there. -/
def openFile (path : String) (files : Files) : Except ConfigError Files :=
  match files.makeParents? path with
  | none => .error .logDirectory
  | some files =>
      match files.target? path with
      | none => .error (.logFile path)
      | some place => .ok (if (files.fileAt? place).isSome then files else files.put place [])

/-- Checks the settings and makes the log file. Logging that is not enabled needs neither. -/
def setUp (environment : Environment) (settings : Settings) (files : Files) :
    Except ConfigError Files := do
  if !settings.enabled then return files
  checkFilter environment settings
  checkFormat environment settings
  let output ← output environment settings
  if !output.toFile then return files
  openFile (← filePath environment none settings.file) files

end LibPrint.Logging
