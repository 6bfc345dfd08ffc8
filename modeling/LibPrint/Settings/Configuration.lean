import LibPrint.Code.Hierarchy
import LibPrint.Files
import LibPrint.Identify
import LibPrint.Settings.Basic
import LibPrint.Text.Basic
import LibPrint.Toml.Reader

/-!
# The configuration

Everything a user can set, and the places that settings come from.
-/

/-!
## The environment

The variables a program is started with, and the folders they name for configuration, data and
state.
-/

namespace LibPrint

/-- The variables with their values, and the home folder of the account for when no variable names
one. -/
structure Environment where
  entries : List (String × String)
  accountHome : Option String

namespace Environment

/-- The program's own folder among those for configuration, data and state. -/
def ownFolder (folder : String) : String :=
  Path.join folder "libsift"

/-- The value of a variable. -/
def get? (environment : Environment) (name : String) : Option String :=
  environment.entries.lookup name

/-- The value of a variable that is not empty. -/
def nonempty? (environment : Environment) (name : String) : Option String :=
  (environment.get? name).filter (· != "")

/-- The folder under which data is kept. -/
def dataHome? (environment : Environment) : Option String :=
  environment.nonempty? "XDG_DATA_HOME" <|>
    (environment.get? "HOME").map fun home => Path.join (Path.join home ".local") "share"

/-- The folder under which configurations are kept. -/
def configHome? (environment : Environment) : Option String :=
  environment.nonempty? "XDG_CONFIG_HOME" <|>
    (environment.get? "HOME").map fun home => Path.join home ".config"

/-- The folder under which state is kept; only an absolute path can name it. There is none without
a home folder. -/
def stateHome? (environment : Environment) : Option String := do
  let home ← environment.nonempty? "HOME" <|> environment.accountHome
  match (environment.get? "XDG_STATE_HOME").filter Path.isAbsolute with
  | some folder => some folder
  | none => some (Path.join home ".local/state")

end Environment

end LibPrint

/-!
## Settings of logging

What is logged, how it is written and where to.
-/

namespace LibPrint.Logging

/-- The settings of logging, as they are given. -/
structure Settings where
  enabled : Bool
  level : String
  format : String
  output : String
  file : Option String
  color : Bool
  /-- Levels of single modules, in the order of the modules' names. -/
  modules : List (String × String)
deriving DecidableEq

namespace Settings

/-- Logging of general information as text to the error stream. -/
def standard : Settings :=
  ⟨true, "info", "text", "stderr", none, true, []⟩

/-- The settings as a group, on top of which others can be given. -/
def toSetting (settings : Settings) : Setting :=
  .group
    [("enabled", .boolean settings.enabled), ("level", .text settings.level),
      ("format", .text settings.format), ("output", .text settings.output),
      ("file", (settings.file.map Setting.text).getD .absent),
      ("color", .boolean settings.color),
      ("modules", .group (settings.modules.map fun (name, level) => (name, .text level)))]

/-- The settings in a group; what is left out is standard. -/
def ofSetting? (value : Setting) : Option Settings := do
  match ← value.fields?
      ["enabled", "level", "format", "output", "file", "color", "modules"] with
  | [enabled, level, format, output, file, color, modules] =>
      some
        { enabled := ← Setting.field standard.enabled Setting.bool? enabled
          level := ← Setting.field standard.level Setting.text? level
          format := ← Setting.field standard.format Setting.text? format
          output := ← Setting.field standard.output Setting.text? output
          file := ← Setting.field standard.file (Setting.optional Setting.text?) file
          color := ← Setting.field standard.color Setting.bool? color
          modules := ← Setting.field standard.modules Setting.namedTexts? modules }
  | _ => none

end Settings

end LibPrint.Logging

/-!
## The configuration

Everything a user can set: where profiles are kept, how apps are matched, how much profiles hold,
which packages belong to the platform, and how is logged.
-/

namespace LibPrint

/-- How apps are matched unless a command says otherwise. -/
structure MatchSettings where
  noPartial : Bool
  ambiguousRoots : List String
  /-- The time limit in seconds. -/
  timeout : Option Nat

namespace MatchSettings

def standard : MatchSettings :=
  ⟨false, Identify.defaultAmbiguousRoots, none⟩

def toSetting (settings : MatchSettings) : Setting :=
  .group
    [("no_partial_matching", .boolean settings.noPartial),
      ("ambiguous_root_packages", .list (settings.ambiguousRoots.map Setting.text)),
      ("timeout_secs", (settings.timeout.map fun limit => .integer limit).getD .absent)]

def ofSetting? (value : Setting) : Option MatchSettings := do
  match ← value.fields? ["no_partial_matching", "ambiguous_root_packages", "timeout_secs"] with
  | [noPartial, ambiguousRoots, timeout] =>
      some
        { noPartial := ← Setting.field standard.noPartial Setting.bool? noPartial
          ambiguousRoots :=
            ← Setting.field standard.ambiguousRoots Setting.texts? ambiguousRoots
          timeout :=
            ← Setting.field standard.timeout (Setting.optional Setting.natural?) timeout }
  | _ => none

/-- The options of an identification for an app of the given package. -/
def options (settings : MatchSettings) (appPackage : Option String) : Identify.Options :=
  ⟨⟨appPackage, settings.noPartial⟩, settings.ambiguousRoots,
    settings.timeout.map (· * Identify.second)⟩

end MatchSettings

/-- The configuration of the program. -/
structure Configuration where
  logging : Logging.Settings
  /-- The path of the folder of profiles. -/
  profilesDir : String
  matching : MatchSettings
  /-- Whether profiles keep the signatures of methods. -/
  verboseProfiles : Bool
  frameworkPackages : List String

namespace Configuration

/-- The folder of profiles unless another is given. -/
def defaultProfilesDir (environment : Environment) : String :=
  match environment.dataHome? with
  | some folder => Path.join (Environment.ownFolder folder) "profiles"
  | none => "profiles"

/-- The configuration when nothing is set. -/
def standard (environment : Environment) : Configuration :=
  ⟨.standard, defaultProfilesDir environment, .standard, false, Hierarchy.defaultFramework⟩

/-- The verboseness of profiles. -/
def verboseness (configuration : Configuration) : Verboseness :=
  if configuration.verboseProfiles then .trace else .normal

/-- The configuration as settings, on top of which others can be given. -/
def toSetting (configuration : Configuration) : Setting :=
  .group
    [("logging", configuration.logging.toSetting),
      ("profiles_dir", .text configuration.profilesDir),
      ("matching", configuration.matching.toSetting),
      ("profiling", .group [("verbose_profiles", .boolean configuration.verboseProfiles)]),
      ("hierarchy", .group
        [("framework_packages",
          .list (configuration.frameworkPackages.map Setting.text))])]

/-- Whether profiles are verbose, from the group about profiles. -/
def verboseProfiles? (value : Setting) : Option Bool := do
  match ← value.fields? ["verbose_profiles"] with
  | [verbose] => Setting.field false Setting.bool? verbose
  | _ => none

/-- The packages of the platform, from the group about hierarchies. -/
def frameworkPackages? (value : Setting) : Option (List String) := do
  match ← value.fields? ["framework_packages"] with
  | [packages] => Setting.field Hierarchy.defaultFramework Setting.texts? packages
  | _ => none

/-- The configuration in the settings; what is left out is as in the given one, and unknown settings
are passed over. -/
def ofSetting? (missing : Configuration) (value : Setting) : Option Configuration := do
  match ← value.fields? ["logging", "profiles_dir", "matching", "profiling", "hierarchy"] with
  | [logging, profilesDir, matching, profiling, hierarchy] =>
      some
        { logging := ← Setting.field missing.logging Logging.Settings.ofSetting? logging
          profilesDir := ← Setting.field missing.profilesDir Setting.text? profilesDir
          matching := ← Setting.field missing.matching MatchSettings.ofSetting? matching
          verboseProfiles :=
            ← Setting.field missing.verboseProfiles verboseProfiles? profiling
          frameworkPackages :=
            ← Setting.field missing.frameworkPackages frameworkPackages? hierarchy }
  | _ => none

end Configuration

end LibPrint

/-!
## Sources of settings

The configuration is put together from four layers, the later ones on top: what is built in, the
user's configuration file if there is one, a file that was asked for, and variables of the
environment.
-/

namespace LibPrint.Configuration

/-- The path of the user's configuration file. -/
def globalPath? (environment : Environment) : Option String :=
  environment.configHome?.map fun folder => Path.join (Environment.ownFolder folder) "config.toml"

/-- The settings in the bytes of a configuration file. Malformed bytes and a byte order mark do no
harm. -/
def readFile? (bytes : List UInt8) : Option (List (String × Setting)) :=
  let text := match Text.decodeLossy bytes with
    | '\ufeff' :: rest => rest
    | text => text
  (Toml.read? (String.ofList text)).map Setting.ofTable

/-- The path with the extension of configuration files at its last name, whatever slashes and
single dots follow. A path that ends upwards has no name to extend. -/
def extended? (files : Files) (path : String) : Option String :=
  let steps := (if Path.isAbsolute path then [] else files.current) ++ Path.steps path
  match steps.reverse.dropWhile fun step => step == "" || step == "." with
  | [] => none
  | name :: folders =>
      if name == ".." then none
      else some ("/" ++ "/".intercalate (folders.reverse ++ [name ++ ".toml"]))

/-- The bytes of a file that was asked for; its extension may be left out. -/
def findFile? (files : Files) (path : String) : Option (List UInt8) :=
  files.read? path <|> (extended? files path).bind files.read?

/-- The layer of a file that must be there. -/
def requiredLayer (files : Files) (path : String) :
    Except ConfigError (List (String × Setting)) :=
  match (findFile? files path).bind readFile? with
  | some entries => .ok entries
  | none => .error .settings

/-- The layer of the user's file. It may be missing, but not malformed. -/
def globalLayer (environment : Environment) (files : Files) :
    Except ConfigError (List (String × Setting)) :=
  match (globalPath? environment).bind files.read? with
  | none => .ok []
  | some bytes =>
      match readFile? bytes with
      | some entries => .ok entries
      | none => .error .settings

/-- The start of the names of variables that are settings, in small letters. -/
def variablePrefix : List Char :=
  "libsift__".toList

/-- A name with a point for every two underscores. -/
def pointed : List Char → List Char
  | '_' :: '_' :: rest => '.' :: pointed rest
  | character :: rest => character :: pointed rest
  | [] => []

/-- The settings that a variable gives as a list. -/
def listKeys : List String :=
  ["matching.ambiguous_root_packages", "hierarchy.framework_packages"]

/-- The value of a variable: a truth value or a number if it can be read as one, parts between
commas where a list is wanted, and else a text. -/
def variableValue (key value : String) : Setting :=
  match Text.lowerAscii value with
  | "true" => .boolean true
  | "false" => .boolean false
  | _ =>
      match Number.integer? value, Binary64.ofText? value with
      | some number, _ => .integer number
      | none, some number => .float number
      | none, none =>
          if listKeys.contains key then .list ((Text.pieces ',' value).map Setting.text)
          else .text value

/-- The layer of the environment. -/
def environmentLayer (environment : Environment) : List (String × Setting) :=
  environment.entries.filterMap fun (name, value) =>
    (Text.afterStart? variablePrefix (Text.lower name).toList).map fun rest =>
      let key := String.ofList (pointed rest)
      (key, variableValue key value)

/-- The configuration with layers on top of what is built in. -/
def ofLayers (environment : Environment) (layers : List (List (String × Setting))) :
    Except ConfigError Configuration :=
  let builtIn := standard environment
  let settings := layers.foldl (fun settings layer => Setting.give layer settings) builtIn.toSetting
  match ofSetting? builtIn settings with
  | some configuration => .ok configuration
  | none => .error .settings

/-- The configuration of a file alone. -/
def ofFile (environment : Environment) (files : Files) (path : String) :
    Except ConfigError Configuration := do
  ofLayers environment [← requiredLayer files path]

/-- The configuration from all sources, with a file if one was asked for. -/
def load (environment : Environment) (files : Files) (asked : Option String) :
    Except ConfigError Configuration := do
  let global ← globalLayer environment files
  let explicit ← match asked with
    | none => .ok []
    | some path => requiredLayer files path
  ofLayers environment [global, explicit, environmentLayer environment]

end LibPrint.Configuration
