import LibPrint.Json.Basic
import LibPrint.Text.Basic

/-!
# Reading JSON

The strict grammar: no comments, no commas at the end, no leading zeros, no control characters in
strings, and nothing but blanks after the value. Every function takes what is left of the text and
gives back its result with the rest.
-/

namespace LibPrint.Json

/-- The four characters that may stand between tokens. -/
def isSpace (character : Char) : Bool :=
  character == ' ' || character == '\n' || character == '\t' || character == '\r'

def skipSpace (text : List Char) : List Char :=
  text.dropWhile isSpace

/-- The code point of an escape other than the numeric one. -/
def escaped? : Char → Option Nat
  | '"' => some 0x22
  | '\\' => some 0x5c
  | '/' => some 0x2f
  | 'b' => some 0x08
  | 'f' => some 0x0c
  | 'n' => some 0x0a
  | 'r' => some 0x0d
  | 't' => some 0x09
  | _ => none

/-- The value of four hexadecimal digits. -/
def fourDigits? (a b c d : Char) : Option Nat := do
  let a ← Text.hexValue? a
  let b ← Text.hexValue? b
  let c ← Text.hexValue? c
  let d ← Text.hexValue? d
  some (((a * 16 + b) * 16 + c) * 16 + d)

/-- The codes of a string after its opening quote: code points, or surrogates from escapes. -/
def codes : List Char → Option (List Nat × List Char)
  | [] => none
  | '"' :: rest => some ([], rest)
  | '\\' :: 'u' :: a :: b :: c :: d :: rest => do
      let code ← fourDigits? a b c d
      let (more, rest) ← codes rest
      some (code :: more, rest)
  | '\\' :: escape :: rest => do
      let code ← escaped? escape
      let (more, rest) ← codes rest
      some (code :: more, rest)
  | character :: rest =>
      if character.toNat < 0x20 ∨ character = '\\' then none
      else do
        let (more, rest) ← codes rest
        some (character.toNat :: more, rest)

/-- The text of the codes, with pairs of surrogates joined; `none` if one has no partner. -/
def joinSurrogates : List Nat → Option (List Char)
  | [] => some []
  | high :: low :: codes =>
      if 0xd800 ≤ high ∧ high < 0xdc00 then
        if 0xdc00 ≤ low ∧ low < 0xe000 then
          (joinSurrogates codes).map
            (Char.ofNat (0x10000 + (high - 0xd800) * 0x400 + (low - 0xdc00)) :: ·)
        else none
      else if 0xdc00 ≤ high ∧ high < 0xe000 then none
      else (joinSurrogates (low :: codes)).map (Char.ofNat high :: ·)
  | [code] =>
      if 0xd800 ≤ code ∧ code < 0xe000 then none else some [Char.ofNat code]

/-- A string after its opening quote. -/
def quoted (text : List Char) : Option (Json × List Char) := do
  let (codes, rest) ← codes text
  match joinSurrogates codes with
  | some characters => some (string (String.ofList characters), rest)
  | none => some (unpaired, rest)

/-- One digit at least, and as many as follow. -/
def digits (text : List Char) : Option (List Char × List Char) :=
  match text.takeWhile Char.isDigit with
  | [] => none
  | found => some (found, text.dropWhile Char.isDigit)

/-- The whole part of a number: a zero, or digits that do not start with one. -/
def whole : List Char → Option (List Char × List Char)
  | '0' :: rest =>
      match rest with
      | next :: _ => if next.isDigit then none else some (['0'], rest)
      | [] => some (['0'], rest)
  | text => digits text

/-- The fraction of a number, if it has one. -/
def fraction : List Char → Option (List Char × List Char)
  | '.' :: rest => do
      let (found, rest) ← digits rest
      some ('.' :: found, rest)
  | text => some ([], text)

/-- The exponent of a number, if it has one. -/
def exponent : List Char → Option (List Char × List Char)
  | mark :: text =>
      if mark = 'e' ∨ mark = 'E' then
        match text with
        | '+' :: rest => do
            let (found, rest) ← digits rest
            some (mark :: '+' :: found, rest)
        | '-' :: rest => do
            let (found, rest) ← digits rest
            some (mark :: '-' :: found, rest)
        | rest => do
            let (found, rest) ← digits rest
            some (mark :: found, rest)
      else some ([], mark :: text)
  | [] => some ([], [])

/-- A number without its sign. -/
def unsigned (text : List Char) : Option (List Char × List Char) := do
  let (whole, rest) ← whole text
  let (fraction, rest) ← fraction rest
  let (exponent, rest) ← exponent rest
  some (whole ++ fraction ++ exponent, rest)

/-- A number. -/
def numeral : List Char → Option (Json × List Char)
  | '-' :: rest => do
      let (found, rest) ← unsigned rest
      some (number (String.ofList ('-' :: found)), rest)
  | text => do
      let (found, rest) ← unsigned text
      some (number (String.ofList found), rest)

/-- The object of names and values; a name that is no text spoils it. -/
def ofMembers (members : List (Json × Json)) : Json :=
  match members.mapM fun (name, value) => (text? name).map (·, value) with
  | some members => object members
  | none => unpaired

mutual

/-- A value; blanks before it are passed over. The first argument bounds the nesting and the number
of elements read, and the length of the text is always enough. -/
def value : Nat → List Char → Option (Json × List Char)
  | 0, _ => none
  | fuel + 1, text =>
      match skipSpace text with
      | 'n' :: 'u' :: 'l' :: 'l' :: rest => some (null, rest)
      | 't' :: 'r' :: 'u' :: 'e' :: rest => some (bool true, rest)
      | 'f' :: 'a' :: 'l' :: 's' :: 'e' :: rest => some (bool false, rest)
      | '"' :: rest => quoted rest
      | '[' :: rest =>
          match skipSpace rest with
          | ']' :: rest => some (array [], rest)
          | rest => do
              let (elements, rest) ← elements fuel rest
              some (array elements, rest)
      | '\x7b' :: rest =>
          match skipSpace rest with
          | '\x7d' :: rest => some (object [], rest)
          | rest => do
              let (members, rest) ← members fuel rest
              some (ofMembers members, rest)
      | rest => numeral rest

/-- The elements of an array from a value to the closing bracket. -/
def elements : Nat → List Char → Option (List Json × List Char)
  | 0, _ => none
  | fuel + 1, text => do
      let (first, rest) ← value fuel text
      match skipSpace rest with
      | ']' :: rest => some ([first], rest)
      | ',' :: rest => do
          let (more, rest) ← elements fuel rest
          some (first :: more, rest)
      | _ => none

/-- The members of an object from a name to the closing brace. -/
def members : Nat → List Char → Option (List (Json × Json) × List Char)
  | 0, _ => none
  | fuel + 1, text =>
      match skipSpace text with
      | '"' :: rest => do
          let (name, rest) ← quoted rest
          match skipSpace rest with
          | ':' :: rest => do
              let (first, rest) ← value fuel rest
              match skipSpace rest with
              | '\x7d' :: rest => some ([(name, first)], rest)
              | ',' :: rest => do
                  let (more, rest) ← members fuel rest
                  some ((name, first) :: more, rest)
              | _ => none
          | _ => none
      | _ => none

end

/-- The value a text holds. -/
def read? (text : String) : Option Json := do
  let characters := text.toList
  let (value, rest) ← value (characters.length + 1) characters
  if (skipSpace rest).isEmpty then some value else none

end LibPrint.Json
