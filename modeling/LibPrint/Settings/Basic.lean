import LibPrint.Number
import LibPrint.Text.Basic
import LibPrint.Text.Letter
import LibPrint.Toml.Value

/-!
# Settings

Values that several sources may give, one on top of the other. Groups are merged key by key, and
everything else replaces what was there. Capitals in a key do not matter: it is given in small
letters. What a setting is read as depends on who reads it: a switch may be written as a word, a
number as a text.
-/

namespace LibPrint

/-- The value of a setting. -/
inductive Setting where
  /-- Explicitly no value. -/
  | absent
  | boolean (value : Bool)
  | integer (value : Int)
  | float (value : Float)
  | text (value : String)
  | list (elements : List Setting)
  | group (entries : List (String × Setting))
deriving Inhabited

namespace Setting

/-- The entries of a group; nothing else has any. -/
def entries : Setting → List (String × Setting)
  | group entries => entries
  | _ => []

/-- The elements of a list; nothing else has any. -/
def elements : Setting → List Setting
  | list elements => elements
  | _ => []

/-- The entries with that of a key changed or added. -/
def update (key : String) (change : Option Setting → Setting) :
    List (String × Setting) → List (String × Setting)
  | [] => [(key, change none)]
  | (other, value) :: entries =>
      if other = key then (other, change (some value)) :: entries
      else (other, value) :: update key change entries

mutual

/-- What is there after a setting was given on top of another. -/
def merge : (given : Setting) → Option Setting → Setting
  | group [], old => old.getD (group [])
  | group entries, old => group (mergeAll entries ((old.map Setting.entries).getD []))
  | given, _ => given

/-- Merges the entries of a group one after the other. -/
def mergeAll : (given : List (String × Setting)) → List (String × Setting) →
    List (String × Setting)
  | [], old => old
  | (key, value) :: given, old => mergeAll given (update (Text.lower key) (merge value) old)

end

/-- A step on the way to a setting. -/
inductive Step where
  | key (name : String)
  /-- A place in a list, counted from the end if it is negative. -/
  | index (place : Int)
deriving DecidableEq

/-- The step to the entry of the given name. -/
def Step.named (name : String) : Step :=
  key (Text.lower name)

/-- The number of elements before a place in a list of the given length. -/
def Step.before (length : Nat) (place : Int) : Nat :=
  if 0 ≤ place then place.toNat else length - place.natAbs

/-- The settings with the one at the end of a path given. What is in the way is replaced, and a list
that is too short is filled up. -/
def put (value : Setting) : List Step → Option Setting → Setting
  | [], old => merge value old
  | .key name :: path, old =>
      group (update name (put value path) ((old.map entries).getD []))
  | .index place :: path, old =>
      let old := (old.map elements).getD []
      let place := Step.before old.length place
      let padded := old ++ List.replicate (place + 1 - old.length) absent
      list (padded.modify place fun element =>
        if path.isEmpty then value else put value path (some element))

/-- The characters that the names in a path consist of. -/
def isNameCharacter (character : Char) : Bool :=
  character.isAlphanum || character == '_' || character == '-' || character == ' '

/-- The place in brackets: a whole number without a plus sign, perhaps between spaces and tabs. -/
def place? (text : List Char) : Option Int :=
  let isGap (character : Char) := character == ' ' || character == '\t'
  let number := Text.dropEndWhile isGap (text.dropWhile isGap)
  if number.head? = some '+' then none else Number.integer? (String.ofList number)

/-- The steps after the first name: names after points, and places in brackets. The first argument
bounds the number of steps. -/
def steps? : Nat → List Char → Option (List Step)
  | _, [] => some []
  | 0, _ => none
  | fuel + 1, '.' :: characters =>
      match characters.takeWhile isNameCharacter with
      | [] => none
      | name => do
          let path ← steps? fuel (characters.dropWhile isNameCharacter)
          some (.named (String.ofList name) :: path)
  | fuel + 1, '[' :: characters =>
      match characters.dropWhile (· != ']') with
      | [] => none
      | _ :: rest => do
          let place ← place? (characters.takeWhile (· != ']'))
          let path ← steps? fuel rest
          some (.index place :: path)
  | _ + 1, _ => none

/-- The path a key stands for. A key that is no path is a single name. -/
def pathOf (key : String) : List Step :=
  match key.toList.takeWhile isNameCharacter with
  | [] => [.named key]
  | name =>
      let rest := key.toList.dropWhile isNameCharacter
      match steps? rest.length rest with
      | some path => .named (String.ofList name) :: path
      | none => [.named key]

/-- The settings with all entries of a source given on top, each at the path its key stands for. -/
def give (entries : List (String × Setting)) (old : Setting) : Setting :=
  entries.foldl (fun settings (key, value) => put value (pathOf key) (some settings)) old

mutual

/-- A value of a configuration file. -/
def ofToml : Toml → Setting
  | .string value => text value
  | .integer value => integer value
  | .float value => float value
  | .boolean value => boolean value
  | .moment value => text value
  | .array elements => list (ofTomls elements)
  | .table entries => group (ofTable entries)

def ofTomls : List Toml → List Setting
  | [] => []
  | value :: values => ofToml value :: ofTomls values

/-- The entries of a table. -/
def ofTable : List (String × Toml) → List (String × Setting)
  | [] => []
  | (key, value) :: entries => (key, ofToml value) :: ofTable entries

end

/-- The switch a word stands for. -/
def switch? (word : String) : Option Bool :=
  let word := Text.lowerAscii word
  if ["true", "on", "yes"].contains word then some true
  else if ["false", "off", "no"].contains word then some false
  else none

/-- The setting as a switch. -/
def bool? : Setting → Option Bool
  | boolean value => some value
  | integer value => some (value != 0)
  | float value => some (value != 0.0)
  | text value => if value == "1" then some true else if value == "0" then some false
      else switch? value
  | _ => none

/-- The setting as a natural number of 64 bits. A number with a fraction is rounded. -/
def natural? : Setting → Option Nat
  | boolean value => some value.toNat
  | integer value => if 0 ≤ value then some value.toNat else none
  | float value => some value.round.toUInt64.toNat
  | text value => (switch? value).map Bool.toNat <|> Number.natural? value
  | _ => none

/-- The setting as a text. -/
def text? : Setting → Option String
  | boolean value => some (toString value)
  | integer value => some (toString value)
  | float value => some (Binary64.text value)
  | text value => some value
  | _ => none

/-- The setting as a list of texts. -/
def texts? : Setting → Option (List String)
  | list elements => elements.mapM text?
  | _ => none

/-- The setting as texts under names, in the order of the names. -/
def namedTexts? : Setting → Option (List (String × String))
  | group entries => do
      let entries ← entries.mapM fun (name, value) => do some (name, ← value.text?)
      some (entries.mergeSort fun left right => Text.le left.1 right.1)
  | _ => none

/-- A setting that may be absent. -/
def optional {α : Type} (decode : Setting → Option α) : Setting → Option (Option α)
  | absent => some none
  | value => (decode value).map some

/-- The values of a group's fields, `none` for one that is left out. A list gives the fields in
their order. -/
def fields? (names : List String) : Setting → Option (List (Option Setting))
  | group entries => some (names.map fun name => entries.lookup name)
  | list elements => some (names.zipIdx.map fun (_, place) => elements[place]?)
  | _ => none

/-- The value of a field, or what stands for one that is left out. -/
def field {α : Type} (missing : α) (decode : Setting → Option α) (value : Option Setting) :
    Option α :=
  match value with
  | none => some missing
  | some value => decode value

end Setting

end LibPrint
