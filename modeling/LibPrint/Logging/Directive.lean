import LibPrint.Number
import LibPrint.Text.Basic
import LibPrint.Text.Letter

/-!
# Directives

What may be said about which events are logged.
-/

/-!
## Patterns

The regular expressions that the value of a field may be compared with. Here only matters whether a
text is one. No tables of character properties are at hand, so what needs them is refused: the
shorthands for digits, blanks and words, the edges of words, and letters whatever their case. All of
that can be said about ASCII alone when Unicode is switched off, but then nothing may match half a
character. Look-around, back references and numbers of repetitions are refused as well.
-/

namespace LibPrint.Logging

/-- What is switched on at a place in a pattern. -/
structure PatternMode where
  ignoreCase : Bool
  unicode : Bool
  /-- Whether blanks and comments are passed over. -/
  spaced : Bool

namespace PatternMode

/-- The mode at the start of a pattern. -/
def standard : PatternMode :=
  ⟨false, true, false⟩

/-- The mode with a switch set. Other switches than these three make no difference here. -/
def set (mode : PatternMode) (on : Bool) : Char → PatternMode
  | 'i' => { mode with ignoreCase := on }
  | 'u' => { mode with unicode := on }
  | 'x' => { mode with spaced := on }
  | _ => mode

/-- The letters of the switches. -/
def letters : List Char :=
  ['i', 'm', 's', 'U', 'u', 'R', 'x']

/-- The mode with switches set: those before a hyphen are turned on, those after it off. Every one
is named once at most, and one at least follows a hyphen. -/
def setAll? (mode : PatternMode) (switches : List Char) : Option PatternMode :=
  let on := switches.takeWhile (· != '-')
  let named := switches.filter (· != '-')
  if !named.all letters.contains || !decide named.Nodup || switches.count '-' > 1 ||
      switches.getLast? == some '-' then none
  else
    let off := switches.drop on.length
    some (off.foldl (set · false) (on.foldl (set · true) mode))

/-- Whether a pattern can be searched for a character. Without Unicode it has to be one byte if it
is part of a set or written as a byte. -/
def allows (mode : PatternMode) (code : Nat) (asByte : Bool) : Bool :=
  if mode.unicode then !mode.ignoreCase else !asByte || code ≤ 0x7f

/-- The text without the blanks and comments it begins with, if they are passed over. The first
argument bounds the number of comments. -/
def skip (mode : PatternMode) : Nat → List Char → List Char
  | 0, text => text
  | fuel + 1, text =>
      if !mode.spaced then text
      else
        match text.dropWhile Text.isBlank with
        | '#' :: rest => mode.skip fuel ((rest.dropWhile (· != '\n')).drop 1)
        | rest => rest

/-- `skip`, as often as it takes. -/
def skipGaps (mode : PatternMode) (text : List Char) : List Char :=
  mode.skip (text.length + 1) text

end PatternMode

/-- What a backslash and the characters after it stand for. -/
inductive PatternEscape where
  | character (code : Nat) (asByte : Bool)
  /-- One of the shorthands for digits, blanks and words, or its opposite. -/
  | shorthand (negated : Bool)
  /-- A place between characters, perhaps an edge of a word. -/
  | edge (ofWord : Bool)

namespace PatternEscape

/-- The value of so many hexadecimal digits. -/
def digits? (mode : PatternMode) : (count value : Nat) → List Char → Option (Nat × List Char)
  | 0, value, text => some (value, text)
  | count + 1, value, text =>
      match mode.skipGaps text with
      | digit :: rest => do digits? mode count (16 * value + (← Text.hexValue? digit)) rest
      | [] => none

/-- A character given by so many hexadecimal digits. -/
def numeric? (mode : PatternMode) (count : Nat) (text : List Char) :
    Option (PatternEscape × List Char) := do
  let (code, rest) ← digits? mode count 0 text
  if Nat.isValidChar code then some (character code (count == 2), rest) else none

/-- The code points of the escapes for control characters. -/
def controls : List (Char × Nat) :=
  [('a', 0x07), ('t', 0x09), ('n', 0x0a), ('v', 0x0b), ('f', 0x0c), ('r', 0x0d)]

/-- What stands after a backslash. A sign of ASCII stands for itself. -/
def read? (mode : PatternMode) : List Char → Option (PatternEscape × List Char)
  | [] => none
  | sign :: rest =>
      if sign = 'x' then numeric? mode 2 rest
      else if sign = 'u' then numeric? mode 4 rest
      else if sign = 'U' then numeric? mode 8 rest
      else if ['d', 's', 'w'].contains sign then some (shorthand false, rest)
      else if ['D', 'S', 'W'].contains sign then some (shorthand true, rest)
      else if sign = 'A' ∨ sign = 'z' then some (edge false, rest)
      else if ['b', 'B', '<', '>'].contains sign then some (edge true, rest)
      else
        match controls.lookup sign with
        | some code => some (character code false, rest)
        | none =>
            if sign.isAlphanum || 0x80 ≤ sign.toNat then none
            else some (character sign.toNat false, rest)

/-- Whether the escape can stand by itself. -/
def isAllowed (mode : PatternMode) : PatternEscape → Bool
  | character code asByte => mode.allows code asByte
  | shorthand negated => !mode.unicode && !negated
  | edge ofWord => !(mode.unicode && ofWord)

/-- Whether the escape can be an element of a set. -/
def isElement (mode : PatternMode) : PatternEscape → Bool
  | character code _ => mode.allows code true
  | shorthand negated => !mode.unicode && !negated
  | edge _ => false

end PatternEscape

namespace PatternSet

/-- An element of a set: an escape, or any character for itself. -/
def element? (mode : PatternMode) : List Char → Option (PatternEscape × List Char)
  | '\\' :: rest => PatternEscape.read? mode rest
  | character :: rest => some (.character character.toNat false, rest)
  | [] => none

/-- An element, or a range from one character to another. A hyphen before the end of the set or
before another hyphen makes no range. -/
def range? (mode : PatternMode) (text : List Char) : Option (List Char) := do
  let (first, rest) ← element? mode text
  let single := if first.isElement mode then some (mode.skipGaps rest) else none
  match mode.skipGaps rest with
  | '-' :: rest =>
      match mode.skipGaps rest with
      | [] => none
      | next :: after =>
          if next = ']' ∨ next = '-' then single
          else do
            let (last, rest) ← element? mode (next :: after)
            match first, last with
            | .character low _, .character high _ =>
                if low ≤ high && first.isElement mode && last.isElement mode then some rest
                else none
            | _, _ => none
  | _ => single

/-- The names of the sets of ASCII characters. -/
def names : List String :=
  ["alnum", "alpha", "ascii", "blank", "cntrl", "digit", "graph", "lower", "print", "punct",
    "space", "upper", "word", "xdigit"]

/-- A named set after its opening bracket, whether it is turned round, and the rest. -/
def named? : List Char → Option (Bool × List Char)
  | ':' :: text =>
      let negated := text.head? == some '^'
      let text := if negated then text.drop 1 else text
      let name := text.takeWhile (· != ':')
      match text.dropWhile (· != ':') with
      | ':' :: ']' :: rest =>
          if names.contains (String.ofList name) then some (negated, rest) else none
      | _ => none
  | _ => none

/-- Whether a set may be turned round: without Unicode it would match halves of characters. -/
def mayNegate (mode : PatternMode) (negated : Bool) : Bool :=
  mode.unicode || !negated

/-- The hyphens at the start of a set, or else a closing bracket there, which stand for
themselves. -/
def first? (mode : PatternMode) (text : List Char) : Option (List Char) :=
  let isGap (character : Char) := character == '-' || (mode.spaced && Text.isBlank character)
  match text with
  | '-' :: rest => if mode.allows 0x2d true then some (rest.dropWhile isGap) else none
  | ']' :: rest => if mode.allows 0x5d true then some rest else none
  | text => some text

/-- A set after its opening bracket: what is first in it, and the rest. -/
def start? (mode : PatternMode) (text : List Char) : Option (List Char) :=
  match mode.skipGaps text with
  | '^' :: rest => if mode.unicode then first? mode (mode.skipGaps rest) else none
  | text => first? mode text

/-- The elements of a set up to its closing bracket, and what is left. Sets may be nested, and
combined by doubled signs. The first argument bounds the number of elements. -/
def rest? (mode : PatternMode) : Nat → List Char → Option (List Char)
  | 0, _ => none
  | fuel + 1, text =>
      match mode.skipGaps text with
      | [] => none
      | ']' :: rest => some rest
      | '[' :: rest =>
          match named? rest with
          | some (negated, rest) =>
              if mode.allows 0 true && mayNegate mode negated then rest? mode fuel rest else none
          | none => do rest? mode fuel (← rest? mode fuel (← start? mode rest))
      | '&' :: '&' :: rest => rest? mode fuel rest
      | '-' :: '-' :: rest => rest? mode fuel rest
      | '~' :: '~' :: rest => rest? mode fuel rest
      | text => do rest? mode fuel (← range? mode text)

end PatternSet

namespace Pattern

/-- How a group begins. -/
inductive Head where
  /-- It has no content and sets the mode of what follows it. -/
  | switches (mode : PatternMode)
  | content (mode : PatternMode) (names : List (List Char))

/-- Whether a group can have the name. -/
def isName : List Char → Bool
  | [] => false
  | first :: rest =>
      (first == '_' || Text.isLetter first) &&
        rest.all fun character =>
          ['_', '.', '[', ']'].contains character || Text.isLetterOrDigit character

/-- A group with a name that no group before it has. -/
def named? (mode : PatternMode) (names : List (List Char)) (text : List Char) :
    Option (Head × List Char) :=
  let name := text.takeWhile (· != '>')
  match text.dropWhile (· != '>') with
  | [] => none
  | _ :: rest =>
      if isName name && !names.contains name then some (.content mode (name :: names), rest)
      else none

/-- The start of a group after its opening parenthesis. -/
def head? (mode : PatternMode) (names : List (List Char)) (text : List Char) :
    Option (Head × List Char) :=
  match mode.skipGaps text with
  | '?' :: 'P' :: '<' :: rest => named? mode names rest
  | '?' :: '<' :: rest => named? mode names rest
  | '?' :: rest => do
      let switches := rest.takeWhile fun character => character != ':' && character != ')'
      let inner ← mode.setAll? switches
      match rest.drop switches.length with
      | ':' :: rest => some (.content inner names, rest)
      | ')' :: rest => if switches.isEmpty then none else some (.switches inner, rest)
      | _ => none
  | text => some (.content mode names, text)

/-- The items of a pattern up to the end of the group they are in: the names of groups so far, and
what is left. An operator of repetition needs an item before it. The first argument bounds the
number of items. -/
def items? : Nat → PatternMode → (names : List (List Char)) → (repeatable : Bool) → List Char →
    Option (List (List Char) × List Char)
  | 0, _, _, _, _ => none
  | fuel + 1, mode, names, repeatable, text =>
      match mode.skipGaps text with
      | [] => some (names, [])
      | ')' :: rest => some (names, ')' :: rest)
      | '|' :: rest => items? fuel mode names false rest
      | '(' :: rest => do
          match ← head? mode names rest with
          | (.switches inner, rest) => items? fuel inner names false rest
          | (.content inner names, rest) =>
              match ← items? fuel inner names false rest with
              | (names, ')' :: rest) => items? fuel mode names true rest
              | _ => none
      | '[' :: rest => do
          let rest ← PatternSet.start? mode rest
          items? fuel mode names true (← PatternSet.rest? mode (rest.length + 1) rest)
      | '\x7b' :: _ => none
      | '\\' :: rest => do
          let (escape, rest) ← PatternEscape.read? mode rest
          if escape.isAllowed mode then items? fuel mode names true rest else none
      | '.' :: rest => if mode.unicode then items? fuel mode names true rest else none
      | character :: rest =>
          if ['?', '*', '+'].contains character then
            let rest := if rest.head? == some '?' then rest.drop 1 else rest
            if repeatable then items? fuel mode names true rest else none
          else if character = '^' ∨ character = '$' ∨ mode.allows character.toNat false then
            items? fuel mode names true rest
          else none

end Pattern

/-- Whether a text is a pattern. -/
def isPattern (text : String) : Bool :=
  let characters := text.toList
  match Pattern.items? (characters.length + 1) .standard [] false characters with
  | some (_, []) => true
  | _ => false

/-!
## Filter directives

What may be said about which events are logged: a level, a target, or a target and a level with an
equals sign between them. After a target a span may be named in brackets, with fields in braces.
Here only matters whether a text is well-formed.

The parts of a directive are found in the text without the blanks around it, but cut from the whole
text at the same bytes. So blanks are harmless around a text that is a single part, and spoil a
level otherwise.
-/

/-- Whether a text names a level, by a number up to five or by its name. -/
def isLevel (text : String) : Bool :=
  (Number.natural? text).any (· ≤ 5) ||
    ["error", "warn", "info", "debug", "trace", "off"].contains (Text.lowerAscii text)

/-- Whether a target may begin with the character. -/
def startsTarget (character : Char) : Bool :=
  character == '-' || character == ':' || character == '_' || Text.isLetterOrDigit character

/-- The number of bytes of a text. -/
def byteSize (text : List Char) : Nat :=
  total (text.map Char.utf8Size)

/-- The characters of a text that begin at a byte or after it. -/
def fromByte : (start : Nat) → List Char → List Char
  | _, [] => []
  | 0, text => text
  | start + 1, character :: text => fromByte (start + 1 - character.utf8Size) text

/-- The characters of a text that begin within its first bytes. -/
def firstBytes : (size : Nat) → List Char → List Char
  | _, [] => []
  | 0, _ => []
  | size + 1, character :: text => character :: firstBytes (size + 1 - character.utf8Size) text

/-- A directive: the whole text, and the byte at which the part to be read begins. -/
structure DirectiveSource where
  whole : List Char
  place : Nat

namespace DirectiveSource

/-- The source some bytes further on. -/
def skip (source : DirectiveSource) (passed : List Char) : DirectiveSource :=
  { source with place := source.place + byteSize passed }

/-- The text in place of the part that begins here. -/
def cut (source : DirectiveSource) (part : List Char) : String :=
  String.ofList (firstBytes (byteSize part) (fromByte source.place source.whole))

/-- The text from here to the end. -/
def tail (source : DirectiveSource) : String :=
  String.ofList (fromByte source.place source.whole)

/-- Whether a level is all that is left; it may be empty, and a comma may follow it. -/
def isLevelPart (source : DirectiveSource) (text : List Char) : Bool :=
  let level := text.takeWhile (· != ',')
  let (found, isEnd) := match text.drop level.length with
    | [] => (source.tail, true)
    | _ :: rest => (source.cut level, rest.isEmpty)
  isEnd && (found == "" || isLevel found)

/-- Whether what follows a span is well-formed: nothing, or an equals sign and a level. -/
def isAfterSpan (source : DirectiveSource) : List Char → Bool
  | [] => true
  | '=' :: text => (source.skip ['=']).isLevelPart text
  | _ => false

/-- Whether a text is a field: a name, and perhaps a value to compare with, which is a number or a
pattern. -/
def isField (text : String) : Bool :=
  match Text.pieces '=' text with
  | _ :: value :: _ => (Binary64.ofText? value).isSome || isPattern value
  | _ => text != ""

/-- Whether the fields of a span after their opening brace are well-formed, and the rest too. The
first argument bounds their number. -/
def areFields : Nat → DirectiveSource → List Char → Bool
  | 0, _, _ => false
  | fuel + 1, source, text =>
      let isEnd (character : Char) := character == ',' || character == '\x7d'
      let field := text.takeWhile (!isEnd ·)
      let after := source.skip field
      isField (source.cut field) &&
        match text.drop field.length with
        | ',' :: rest => areFields fuel (after.skip [',']) rest
        | '\x7d' :: ']' :: rest => (after.skip ['\x7d', ']']).isAfterSpan rest
        | _ => false

/-- Whether a span after its opening bracket is well-formed, and the rest too. -/
def isSpan (source : DirectiveSource) (text : List Char) : Bool :=
  let name := text.takeWhile fun character => character != ']' && character != '\x7b'
  let after := source.skip name
  match text.drop name.length with
  | ']' :: rest => (after.skip [']']).isAfterSpan rest
  | '\x7b' :: rest => areFields (rest.length + 1) (after.skip ['\x7b']) rest
  | _ => false

/-- Whether a text, without the blanks around it, is a directive. -/
def isDirective (source : DirectiveSource) (text : List Char) : Bool :=
  let target := text.takeWhile fun character =>
    character != '=' && character != '[' && character != ','
  let after := source.skip target
  target.head?.all startsTarget &&
    match text.drop target.length with
    | '=' :: rest => !target.isEmpty && (after.skip ['=']).isLevelPart rest
    | '[' :: rest => (after.skip ['[']).isSpan rest
    | ',' :: rest => !target.isEmpty && rest.isEmpty
    | _ => !target.isEmpty

end DirectiveSource

/-- Whether a text is a directive. -/
def isDirective (text : String) : Bool :=
  (DirectiveSource.mk text.toList 0).isDirective (Text.trimBlanks text.toList)

/-- Whether a text is a list of directives between commas; empty ones are passed over. -/
def areDirectives (pieces : List String) : Bool :=
  (pieces.filter (· != "")).all isDirective

end LibPrint.Logging
