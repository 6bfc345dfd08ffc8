import LibPrint.HashTree
import LibPrint.Library.Description

/-!
# Errors

Why an operation was refused, and the words for it. What a search does not find is no error; these
are for input that cannot be used, for misuse, and for files. The program breaks down where
something is wrong that it does not look for.
-/

namespace LibPrint

/-- What went wrong with a stored profile. -/
inductive StorageError where
  /-- Reading, writing or listing failed. -/
  | access (path : String)
  /-- The profile has no hash tree or an empty one. -/
  | refused (description : String)
  /-- The file is of another format version. -/
  | version (path : String) (found expected : Nat)
  /-- The file holds a profile without hash trees. -/
  | noTrees (path : String)
  /-- The bytes are no profile. -/
  | undecodable (path : String)
  | notDirectory (path : String)
  | notFound (path : String)
deriving DecidableEq

/-- What went wrong with the configuration. -/
inductive ConfigError where
  | logFormat (text : String)
  | logOutput (text : String)
  | logDirective (text : String)
  /-- There is no home folder to keep log files in. -/
  | noLogFolder
  /-- The folder of the log file cannot be made. -/
  | logDirectory
  | logFile (path : String)
  /-- A source of settings cannot be read or has a value of the wrong kind. -/
  | settings
deriving DecidableEq

/-- What the program breaks down at. -/
inductive Breakdown where
  /-- Profiles are sorted whose order is none. -/
  | sorting
  /-- A time is wanted that the clock cannot show. -/
  | clock
deriving DecidableEq

/-- Why an operation was refused, or what it broke down at. -/
inductive Error where
  | config (cause : ConfigError)
  | storage (cause : StorageError)
  | malformedDump
  | unreadableDump (path : String)
  | malformedDescription
  | unreadableDescription (path : String)
  | invalidDescription (cause : Description.Invalid)
  | unknownCategory (text : String)
  | emptyTree (owner : String)
  | recipeMismatch (app lib : Recipe)
  | unknownAlgorithm (text : String)
  | taskFailed (text : String)
  | brokenDown (cause : Breakdown)
deriving DecidableEq

namespace StorageError

def message : StorageError → String
  | access path => "I/O error: " ++ path
  | refused description =>
      "Serialization error: Refusing to store profile " ++ description ++ " with empty hash trees"
  | version path found expected =>
      "Corrupt profile " ++ path ++ ": unsupported format version " ++ toString found ++
        " (expected " ++ toString expected ++ ")"
  | noTrees path => "Corrupt profile " ++ path ++ ": profile contains no hash trees"
  | undecodable path => "Corrupt profile " ++ path ++ ": malformed profile data"
  | notDirectory path => "Invalid path: Profile directory " ++ path ++ " is not a directory"
  | notFound path => "Profile not found: " ++ path

end StorageError

namespace ConfigError

def message : ConfigError → String
  | logFormat text => "Invalid log format: " ++ text ++ " (must be 'json' or 'text')"
  | logOutput text =>
      "Invalid log output: " ++ text ++
        " (must be 'stdout', 'stderr', 'file', 'file+stderr', or 'both')"
  | logDirective text => "Invalid log directive " ++ text
  | noLogFolder => "Could not determine platform directories for log file"
  | logDirectory => "Failed to create log directory"
  | logFile path => "Failed to open log file " ++ path
  | settings => "invalid settings"

end ConfigError

namespace Breakdown

def message : Breakdown → String
  | sorting => "user-provided comparison function does not correctly implement a total order"
  | clock => "overflow when adding duration to instant"

end Breakdown

namespace Error

def message : Error → String
  | config cause => "Configuration error: " ++ cause.message
  | storage cause => "Storage error: " ++ cause.message
  | malformedDump => "Invalid class hierarchy: Failed to parse class dump"
  | unreadableDump path => "Invalid class hierarchy: Failed to read " ++ path
  | malformedDescription => "Invalid library description: Failed to parse description"
  | unreadableDescription path => "Invalid library description: Failed to read " ++ path
  | invalidDescription .emptyName =>
      "Invalid library description: Library name must not be empty"
  | invalidDescription (.emptyVersion name) =>
      "Invalid library description: Empty version string for library " ++ name
  | unknownCategory text => "Invalid library description: Unknown library category: " ++ text
  | emptyTree owner => "Hash tree for " ++ owner ++ " is empty, no classes survived filtering"
  | recipeMismatch app lib =>
      "Refusing to compare hash trees built with different configs (app: " ++ app.display ++
        ", lib: " ++ lib.display ++ ")"
  | unknownAlgorithm text => "Unknown hash algorithm: " ++ text
  | taskFailed text => "Matching task failed: " ++ text
  | brokenDown cause => cause.message

end Error

end LibPrint
