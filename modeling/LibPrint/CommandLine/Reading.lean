import LibPrint.Number
import LibPrint.Settings.Configuration
import LibPrint.Text.Basic

/-!
# The command line

Commands with their options, and how they are read from the words of a command line.
-/

/-!
## Commands

What can be asked for on the command line, and the options that go with every command.
-/

namespace LibPrint.CommandLine

/-- A command with its arguments. Files are given by their paths. -/
inductive Command where
  /-- Makes the profile of a library and stores it. -/
  | profileLibrary (classes description : String) (verbose : Bool)
  /-- Looks for all known libraries in an app. -/
  | matchApp (classes : String) (appPackage json : Option String) (noPartial : Bool)
      (timeout : Option Nat)
  /-- Shows a stored profile. -/
  | inspectProfile (profile : String) (withPackages : Bool)
deriving DecidableEq

/-- A command with the options that go with every command. -/
structure Invocation where
  command : Command
  config : Option String
  profilesDir : Option String
  logLevel : Option String
  logFormat : Option String
  logOutput : Option String
  logFile : Option String
deriving DecidableEq

/-- Why a command line is not carried out. -/
inductive UsageError where
  | unknownArgument
  | unknownCommand
  | missingArgument
  | missingCommand
  /-- An option is given twice. -/
  | repeatedArgument
  /-- The value is no number in range. -/
  | invalidNumber
  /-- The value is missing, or it is empty where it must not be. -/
  | missingValue
  /-- A value is given to an option without one. -/
  | needlessValue
  /-- There is no argument at all, so help is shown. -/
  | nothingGiven
  /-- Help was asked for. -/
  | help
deriving DecidableEq

/-- What is wrong with the command line. -/
def UsageError.message : UsageError → String
  | unknownArgument => "unexpected argument"
  | unknownCommand => "unrecognized subcommand"
  | missingArgument => "a required argument was not provided"
  | missingCommand | nothingGiven => "a subcommand is required but was not provided"
  | repeatedArgument => "an argument cannot be used multiple times"
  | invalidNumber => "invalid number"
  | missingValue => "a value is required but none was supplied"
  | needlessValue => "an unexpected value was supplied"
  | help => "help"

/-- The settings of logging with those of the command line on top. -/
def Invocation.logging (invocation : Invocation) (settings : Logging.Settings) :
    Logging.Settings :=
  { settings with
    level := invocation.logLevel.getD settings.level
    format := invocation.logFormat.getD settings.format
    output := invocation.logOutput.getD settings.output
    file := invocation.logFile <|> settings.file }

/-!
## Options

Which options there are, and what their values must be. Options of the top level go with every
command and may stand before or after its name; each command has some of its own.
-/

/-- What the value of an argument must be. -/
inductive ValueKind where
  /-- There is no value; the option is there or not. -/
  | switch
  | text
  /-- A text that is not empty. -/
  | path
  /-- A natural number of 64 bits. -/
  | number
deriving DecidableEq

/-- An argument: an option, by its name after two hyphens, or a positional one. -/
structure Argument where
  name : String
  kind : ValueKind
  required : Bool
deriving DecidableEq

/-- A part of the command line that is read on its own: all of it up to the name of a command, or
what follows that name. -/
structure Part where
  options : List Argument
  /-- An argument without a name. -/
  positional : Option Argument
  /-- The commands that may follow. -/
  commands : List String

namespace Part

/-- The options that go with every command. -/
def common : List Argument :=
  [⟨"config", .path, false⟩, ⟨"profiles-dir", .path, false⟩, ⟨"log-level", .text, false⟩,
    ⟨"log-format", .text, false⟩, ⟨"log-output", .text, false⟩, ⟨"log-file", .path, false⟩,
    ⟨"help", .switch, false⟩]

/-- The part up to the name of the command. -/
def top : Part :=
  ⟨common, none, ["profile", "match", "inspect", "help"]⟩

/-- The part after the name of a command. -/
def ofCommand (name : String) : Part :=
  match name with
  | "profile" =>
      ⟨common ++ [⟨"classes", .path, true⟩, ⟨"description", .path, true⟩,
        ⟨"verbose-profile", .switch, false⟩], none, []⟩
  | "match" =>
      ⟨common ++ [⟨"classes", .path, true⟩, ⟨"app-package", .text, false⟩,
        ⟨"json", .path, false⟩, ⟨"no-partial-matching", .switch, false⟩,
        ⟨"timeout", .number, false⟩], none, []⟩
  | _ =>
      ⟨common ++ [⟨"packages", .switch, false⟩], some ⟨"profile", .path, true⟩, []⟩

/-- All arguments of a part. -/
def arguments (part : Part) : List Argument :=
  part.positional.toList ++ part.options

/-- The option of the given name. -/
def option? (part : Part) (name : String) : Option Argument :=
  part.options.find? (·.name == name)

end Part

/-- How an argument is written. -/
def Argument.usage (argument : Argument) : String :=
  let text := "--" ++ argument.name ++ (if argument.kind = .switch then "" else " <value>")
  if argument.required then text else "[" ++ text ++ "]"

/-- How a command is written. -/
def commandUsage (name : String) : String :=
  let part := Part.ofCommand name
  let own := part.options.filter (!Part.common.contains ·)
  let positional := part.positional.toList.map fun argument => "<" ++ argument.name ++ ">"
  "  " ++ " ".intercalate (name :: positional ++ own.map Argument.usage)

/-- How the program is called. -/
def usage : String :=
  let commands := Part.top.commands.filter (· != "help")
  "\n".intercalate (["Commands:"] ++ commands.map commandUsage ++
    ["", "Options of every command:"] ++ Part.common.map fun argument => "  " ++ argument.usage)

/-!
## Reading the command line

The words of a command line, one after the other. The value of an option stands after an equals sign
or in the next word; after two hyphens alone all words are positional. The value of an option is
checked when the next option begins, or at the end of its part, so an error in a later word can come
first.
-/

/-- What has been read of a part. -/
structure Progress where
  /-- The arguments whose values have been checked; a switch has an empty one. -/
  given : List (String × String)
  /-- The argument that was read last, with its value if there is one yet. -/
  pending : Option (Argument × Option String)
  /-- Whether there was a positional argument. -/
  positional : Bool

namespace Progress

def start : Progress :=
  ⟨[], none, false⟩

/-- Whether the last option still lacks its value. -/
def awaitsValue (progress : Progress) : Bool :=
  match progress.pending with
  | some (_, none) => true
  | _ => false

/-- Checks the value of an argument. -/
def check (argument : Argument) (value : String) : Except UsageError Unit :=
  match argument.kind with
  | .switch | .text => .ok ()
  | .path => if value == "" then .error .missingValue else .ok ()
  | .number => if (Number.natural? value).isSome then .ok () else .error .invalidNumber

/-- Takes an argument with its value; each can be given once. -/
def accept (progress : Progress) (argument : Argument) (value : String) :
    Except UsageError Progress := do
  if (progress.given.lookup argument.name).isSome then throw .repeatedArgument
  check argument value
  return { progress with given := progress.given ++ [(argument.name, value)] }

/-- Checks the argument that was read last. -/
def settle (progress : Progress) : Except UsageError Progress :=
  match progress.pending with
  | none => .ok progress
  | some (_, none) => .error .missingValue
  | some (argument, some value) => { progress with pending := none }.accept argument value

/-- The checked value of an argument. -/
def value? (progress : Progress) (name : String) : Option String :=
  progress.given.lookup name

end Progress

/-- The name of an option and its value after an equals sign, from a word that begins with two
hyphens and goes on. -/
def longOption? (word : String) : Option (String × Option String) :=
  match word.toList with
  | '-' :: '-' :: character :: rest =>
      let text := character :: rest
      let name := String.ofList (text.takeWhile (· != '='))
      match text.dropWhile (· != '=') with
      | [] => some (name, none)
      | _ :: value => some (name, some (String.ofList value))
  | _ => none

/-- The letter after a single hyphen. -/
def shortOption? (word : String) : Option Char :=
  match word.toList with
  | '-' :: letter :: _ => if letter = '-' then none else some letter
  | _ => none

/-- Reads an option. -/
def readOption (part : Part) (progress : Progress) (name : String) (value : Option String) :
    Except UsageError Progress :=
  match part.option? name with
  | none => .error .unknownArgument
  | some argument =>
      match decide (argument.kind = .switch), value with
      | true, some _ => .error .needlessValue
      | true, none => do
          let progress ← progress.settle
          if name == "help" then throw .help
          progress.accept argument ""
      | false, some value => do (← progress.settle).accept argument value
      | false, none => do
          let progress ← progress.settle
          return { progress with pending := some (argument, none) }

/-- Reads a word that is no option. `isLiteral` says whether it stands after two hyphens alone. -/
def readPositional (part : Part) (progress : Progress) (isLiteral : Bool) (word : String) :
    Except UsageError Progress :=
  match part.positional, progress.positional with
  | some argument, false => do
      let progress ← progress.settle
      return { progress with pending := some (argument, some word), positional := true }
  | _, _ =>
      if part.commands.isEmpty || (isLiteral && part.commands.contains word) then
        .error .unknownArgument
      else .error .unknownCommand

/-- What help is asked for after the word `help`: that on a command, or on all of them. -/
def helpOn (words : List String) : UsageError :=
  match words with
  | [] => .help
  | [word] => if Part.top.commands.contains word then .help else .unknownCommand
  | _ => .unknownCommand

/-- Reads the words of a part; ends at the name of a command, which is given back with the words
after it. -/
def readPart (part : Part) : Progress → List String →
    Except UsageError (Progress × Option (String × List String))
  | progress, [] => .ok (progress, none)
  | progress, word :: words =>
      if !progress.awaitsValue && part.commands.contains word then
        if word == "help" then .error (helpOn words) else .ok (progress, some (word, words))
      else if word == "--" then do
        let progress ← words.foldlM (fun progress word => readPositional part progress true word)
          progress
        return (progress, none)
      else
        match longOption? word, shortOption? word with
        | some (name, value), _ => do readPart part (← readOption part progress name value) words
        | none, some letter =>
            if letter = 'h' then do
              let _ ← progress.settle
              throw .help
            else .error .unknownArgument
        | none, none =>
            match progress.pending with
            | some (argument, none) =>
                readPart part { progress with pending := some (argument, some word) } words
            | _ => do readPart part (← readPositional part progress false word) words

/-- Reads the part after the name of a command. -/
def readCommand (name : String) (words : List String) : Except UsageError Progress := do
  let part := Part.ofCommand name
  let (progress, _) ← readPart part .start words
  let progress ← progress.settle
  if part.arguments.all fun argument =>
      !argument.required || (progress.value? argument.name).isSome then return progress
  else throw .missingArgument

/-- The command with its arguments. -/
def commandOf (name : String) (progress : Progress) : Command :=
  let text (name : String) := (progress.value? name).getD ""
  let switch (name : String) := (progress.value? name).isSome
  match name with
  | "profile" =>
      .profileLibrary (text "classes") (text "description") (switch "verbose-profile")
  | "match" =>
      .matchApp (text "classes") (progress.value? "app-package") (progress.value? "json")
        (switch "no-partial-matching") ((progress.value? "timeout").bind Number.natural?)
  | _ => .inspectProfile (text "profile") (switch "packages")

/-- The invocation of a command, from what is given before and after its name. An option that is
given in both places has the later value. -/
def invocationOf (name : String) (before after : Progress) : Invocation :=
  let value? (name : String) := after.value? name <|> before.value? name
  { command := commandOf name after
    config := value? "config"
    profilesDir := value? "profiles-dir"
    logLevel := value? "log-level"
    logFormat := value? "log-format"
    logOutput := value? "log-output"
    logFile := value? "log-file" }

/-- The invocation that the words of a command line stand for. -/
def read (words : List String) : Except UsageError Invocation :=
  match readPart .top .start words with
  | .error cause => .error cause
  | .ok (before, none) =>
      match before.settle with
      | .error cause => .error cause
      | .ok before =>
          .error (if before.given.isEmpty then .nothingGiven else .missingCommand)
  | .ok (before, some (name, words)) => do
      let after ← readCommand name words
      return invocationOf name (← before.settle) after

end LibPrint.CommandLine
