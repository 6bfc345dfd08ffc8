import LibPrint.Text.Basic
import LibPrint.Toml.Value

/-!
# TOML documents

A document as a whole: the tables that its lines build.
-/

/-!
## Tables under construction

How a document's lines build its tables. A table may come into being on the way to another one, by
a dotted key, by its own header, or as an element of an array of tables, and these decide what may
still be added: each table is defined in one way and once.
-/

namespace LibPrint.Toml

/-- How a table came into being. -/
inductive Origin where
  /-- On the way of a header to a table below. -/
  | implied
  /-- By a dotted key. -/
  | dotted
  /-- By its header. -/
  | header
deriving DecidableEq

/-- What a key stands for so far. -/
inductive Entry where
  /-- A value that is complete. -/
  | value (value : Toml)
  | table (origin : Origin) (entries : List (String × Entry))
  /-- An array of tables, the last one first. -/
  | tables (elements : List (List (String × Entry)))
deriving Inhabited

/-- The entries of a table. -/
abbrev Entries := List (String × Entry)

namespace Entry

mutual

/-- The finished value. -/
def toToml : Entry → Toml
  | value finished => finished
  | table _ entries => .table (toEntries entries)
  | tables elements => .array (toTables elements).reverse

/-- The finished entries of a table. -/
def toEntries : List (String × Entry) → List (String × Toml)
  | [] => []
  | (key, entry) :: entries => (key, toToml entry) :: toEntries entries

/-- The finished tables of an array. -/
def toTables : List (List (String × Entry)) → List Toml
  | [] => []
  | entries :: elements => .table (toEntries entries) :: toTables elements

end

end Entry

namespace Entries

/-- The entries with that of a key changed; a change that fails is no change. -/
def alter (key : String) (change : Option Entry → Option Entry) : Entries → Option Entries
  | [] => (change none).map fun entry => [(key, entry)]
  | (other, entry) :: entries =>
      if other = key then (change (some entry)).map fun entry => (other, entry) :: entries
      else (alter key change entries).map ((other, entry) :: ·)

/-- Changes the table at the end of a header's path. Tables that are missing on the way are implied,
and an array of tables is entered at its last element. -/
def below (change : Entries → Option Entries) : List String → Entries → Option Entries
  | [], entries => change entries
  | key :: path, entries =>
      alter key (fun
        | none => (below change path []).map (.table .implied)
        | some (.table origin inner) => (below change path inner).map (.table origin)
        | some (.tables (last :: elements)) =>
            (below change path last).map fun last => .tables (last :: elements)
        | some _ => none) entries

/-- Adds a value under a dotted key to a table of the given origin. The tables on the way may have
been made by dotted keys or implied by headers, or be elements of arrays; of those only a table made
by dotted keys takes the value itself. -/
def insert (origin : Origin) (key : String) (value : Toml) : List String → Entries → Option Entries
  | [], entries =>
      if origin = .implied then none
      else alter key (fun
        | none => some (.value value)
        | some _ => none) entries
  | step :: path, entries =>
      alter step (fun
        | none => (insert .dotted key value path []).map (.table .dotted)
        | some (.table .header _) => none
        | some (.table origin inner) => (insert origin key value path inner).map (.table origin)
        | some (.tables (last :: elements)) =>
            (insert .implied key value path last).map fun last => .tables (last :: elements)
        | some _ => none) entries

/-- Adds a value under a dotted key to the table whose lines are being read. -/
def insertLine (path : List String) (key : String) (value : Toml) : Entries → Option Entries :=
  insert .header key value path

/-- Opens a table by its header: it must be new, or implied until now. -/
def openTable (path : List String) (key : String) : Entries → Option Entries :=
  below (alter key fun
    | none => some (.table .header [])
    | some (.table .implied entries) => some (.table .header entries)
    | some _ => none) path

/-- Opens a further element of an array of tables. -/
def openElement (path : List String) (key : String) : Entries → Option Entries :=
  below (alter key fun
    | none => some (.tables [[]])
    | some (.tables elements) => some (.tables ([] :: elements))
    | some _ => none) path

end Entries

/-!
## Reading TOML

Version 1.0 of the format. A document is read line by line: headers choose the table that the lines
after them belong to. Every function takes what is left of the text and gives back its result with
the rest.
-/

/-- The characters of keys without quotes. -/
def isKeyCharacter (character : Char) : Bool :=
  character.isAlphanum || character == '-' || character == '_'

def skipSpace (text : List Char) : List Char :=
  text.dropWhile isSpace

/-- One key, with or without quotes. -/
def simpleKey (text : List Char) : Option (String × List Char) :=
  match text.takeWhile isKeyCharacter with
  | [] => quotedKey text
  | key => some (String.ofList key, text.dropWhile isKeyCharacter)

/-- A key or several joined by points, and the spaces around them. -/
def dottedKey : Nat → List Char → Option (List String × List Char)
  | 0, _ => none
  | fuel + 1, text => do
      let (key, rest) ← simpleKey (skipSpace text)
      match skipSpace rest with
      | '.' :: rest => do
          let (keys, rest) ← dottedKey fuel rest
          some (key :: keys, rest)
      | rest => some ([key], rest)

/-- A dotted key as the way to the last key and the last key; one too long is refused. -/
def keyPath (text : List Char) : Option ((List String × String) × List Char) := do
  let (keys, rest) ← dottedKey (text.length + 1) text
  let last ← keys.getLast?
  if keys.length < maxNesting then some ((keys.dropLast, last), rest) else none

/-- The text from the end of the line on; spaces and a comment may come before it. -/
def lineEnd? (text : List Char) : Option (List Char) :=
  let rest := match skipSpace text with
    | '#' :: rest => rest.dropWhile isPrintable
    | rest => rest
  if rest.isEmpty then some [] else afterBreak? rest

/-- The text without the spaces, line breaks and comments at its start. -/
def skipLines : Nat → List Char → Option (List Char)
  | 0, _ => none
  | fuel + 1, text =>
      match skipBreaks text with
      | '#' :: rest => do
          let rest ← afterBreak? (rest.dropWhile isPrintable)
          skipLines fuel rest
      | rest => some rest

/-- A reader of one value. -/
abbrev ValueReader := List Char → Option (Toml × List Char)

/-- The elements of an array after its opening bracket. Line breaks and comments may stand anywhere
between them, and a comma after the last one. -/
def elements (read : ValueReader) : Nat → List Char → Option (List Toml × List Char)
  | 0, _ => none
  | fuel + 1, text => do
      match ← skipLines (text.length + 1) text with
      | ']' :: rest => some ([], rest)
      | text => do
          let (element, rest) ← read text
          match ← skipLines (rest.length + 1) rest with
          | ']' :: rest => some ([element], rest)
          | ',' :: rest => do
              let (more, rest) ← elements read fuel rest
              some (element :: more, rest)
          | _ => none

/-- A dotted key and its value. -/
def keyValue (read : ValueReader) (text : List Char) :
    Option ((List String × String × Toml) × List Char) := do
  let ((path, key), rest) ← keyPath text
  match rest with
  | '=' :: rest => do
      let (value, rest) ← read (skipSpace rest)
      some ((path, key, value), rest)
  | _ => none

/-- The entries of an inline table after its opening brace, on one line and without a comma after
the last one. -/
def inlineEntries (read : ValueReader) : Nat → Entries → List Char → Option (Entries × List Char)
  | 0, _, _ => none
  | fuel + 1, entries, text => do
      let ((path, key, value), rest) ← keyValue read text
      let entries ← entries.insertLine path key value
      match skipSpace rest with
      | '\x7d' :: rest => some (entries, rest)
      | ',' :: rest => inlineEntries read fuel entries rest
      | _ => none

/-- A value. The first argument is how deep it may be nested. -/
def value : Nat → ValueReader
  | 0, _ => none
  | nesting + 1, text =>
      match text with
      | '[' :: rest =>
          if nesting = 0 then none
          else do
            let (elements, rest) ← elements (value nesting) (rest.length + 1) rest
            some (array elements, rest)
      | '\x7b' :: rest =>
          if nesting = 0 then none
          else
            match skipSpace rest with
            | '\x7d' :: rest => some (table [], rest)
            | rest => do
                let (entries, rest) ← inlineEntries (value nesting) (rest.length + 1) [] rest
                some (table (Entry.toEntries entries), rest)
      | '"' :: _ | '\'' :: _ => do
          let (text, rest) ← quoted text
          some (string text, rest)
      | _ => plain text

/-- The path of a header between its brackets. -/
def header (text : List Char) : Option ((List String × String) × List Char) :=
  match text with
  | '[' :: rest => do
      let (path, rest) ← keyPath rest
      match rest with
      | ']' :: ']' :: rest => some (path, rest)
      | _ => none
  | _ => do
      let (path, rest) ← keyPath text
      match rest with
      | ']' :: rest => some (path, rest)
      | _ => none

/-- The lines of a document, added to its entries. `current` is the path of the table the lines
belong to. -/
def lines : Nat → (current : List String) → Entries → List Char → Option Entries
  | 0, _, _, _ => none
  | fuel + 1, current, entries, text =>
      match skipSpace text with
      | [] => some entries
      | '#' :: rest => do
          let rest ← lineEnd? ('#' :: rest)
          lines fuel current entries rest
      | '[' :: rest => do
          let ((path, key), after) ← header rest
          let openHere := match rest with
            | '[' :: _ => Entries.openElement
            | _ => Entries.openTable
          let entries ← openHere path key entries
          let rest ← lineEnd? after
          lines fuel (path ++ [key]) entries rest
      | text =>
          match afterBreak? text with
          | some rest => lines fuel current entries rest
          | none => do
              let ((path, key, found), rest) ← keyValue (value maxNesting) text
              let rest ← lineEnd? rest
              let entries ← Entries.below (Entries.insertLine path key found) current entries
              lines fuel current entries rest

/-- The table a document holds. A byte order mark at the start is passed over. -/
def read? (text : String) : Option (List (String × Toml)) := do
  let characters := match text.toList with
    | '\ufeff' :: rest => rest
    | characters => characters
  let entries ← lines (characters.length + 1) [] [] characters
  some (Entry.toEntries entries)

end LibPrint.Toml
