import LibPrint.Library.Description
import LibPrint.Number
import LibPrint.Text.Basic

/-!
# Values in TOML

What a TOML document may hold, and how single values are written.
-/

/-!
## TOML values

A document is a table. Tables keep the order in which their keys were first seen, and no key occurs
twice in one. A moment (a date, a time or both) is kept as the text it is normalised to.
-/

namespace LibPrint

/-- A TOML value. -/
inductive Toml where
  | string (text : String)
  | integer (value : Int)
  | float (value : Float)
  | boolean (value : Bool)
  | moment (text : String)
  | array (elements : List Toml)
  | table (entries : List (String × Toml))
deriving Inhabited

namespace Toml

/-- The text of a string. -/
def text? : Toml → Option String
  | string text => some text
  | _ => none

/-- Whether the value is an array or a table with nothing in it. -/
def isEmptyCollection : Toml → Bool
  | array elements => elements.isEmpty
  | table entries => entries.isEmpty
  | _ => false

/-- How deep arrays and inline tables may be nested, and how many keys a dotted one may join. -/
def maxNesting : Nat := 80

end Toml

end LibPrint

/-!
## Quoted text in TOML

The four kinds of strings: basic ones, in which a backslash escapes, and literal ones, each on one
line or on several between triple quotes. A line break within a string is always a line feed,
however it is written, and one right after the opening quotes does not count. Every function takes
what is left of the text and gives back its result with the rest.
-/

namespace LibPrint.Toml

/-- A space or a tab. -/
def isSpace (character : Char) : Bool :=
  character == ' ' || character == '\t'

/-- What may stand in comments and between quotes: no control character but the tab. -/
def isPrintable (character : Char) : Bool :=
  character == '\t' || (0x20 ≤ character.toNat && character.toNat != 0x7f)

/-- The text after a line break, which is a line feed with or without a carriage return. -/
def afterBreak? : List Char → Option (List Char)
  | '\n' :: rest => some rest
  | '\r' :: '\n' :: rest => some rest
  | _ => none

/-- The text without the spaces and line breaks at its start. -/
def skipBreaks : List Char → List Char
  | '\r' :: '\n' :: rest => skipBreaks rest
  | character :: rest =>
      if isSpace character || character == '\n' then skipBreaks rest else character :: rest
  | [] => []

/-- The character of a code point, and none for a surrogate or a number too large. -/
def scalar? (code : Nat) : Option Char :=
  if code < 0xd800 ∨ (0xdfff < code ∧ code < 0x110000) then some (Char.ofNat code) else none

/-- The character of an escape with a fixed number of hexadecimal digits. -/
def numericEscape (length : Nat) (text : List Char) : Option (Char × List Char) := do
  let digits := text.take length
  if digits.length < length then none
  let values ← digits.mapM Text.hexValue?
  let character ← scalar? (values.foldl (fun code value => 16 * code + value) 0)
  some (character, text.drop length)

/-- The character of an escape after its backslash. -/
def escape : List Char → Option (Char × List Char)
  | 'b' :: rest => some ('\x08', rest)
  | 't' :: rest => some ('\t', rest)
  | 'n' :: rest => some ('\n', rest)
  | 'f' :: rest => some ('\x0c', rest)
  | 'r' :: rest => some ('\r', rest)
  | '"' :: rest => some ('"', rest)
  | '\\' :: rest => some ('\\', rest)
  | 'u' :: rest => numericEscape 4 rest
  | 'U' :: rest => numericEscape 8 rest
  | _ => none

/-- What follows a backslash at the end of a line: the break and all blanks after it are passed
over. -/
def afterJoin? (text : List Char) : Option (List Char) :=
  (afterBreak? (text.dropWhile isSpace)).map skipBreaks

/-- How many times the given quote stands at the start of the text. -/
def countQuotes (quote : Char) (text : List Char) : Nat :=
  (text.takeWhile (· == quote)).length

/-- A string on one line after its opening quote. The first argument bounds the number of characters
read; the length of the text is enough. -/
def oneLine (escapes : Bool) (quote : Char) : Nat → List Char → Option (List Char × List Char)
  | 0, _ | _, [] => none
  | fuel + 1, character :: rest =>
      if character = quote then some ([], rest)
      else if escapes ∧ character = '\\' then do
        let (escaped, rest) ← escape rest
        let (more, rest) ← oneLine escapes quote fuel rest
        some (escaped :: more, rest)
      else if isPrintable character then do
        let (more, rest) ← oneLine escapes quote fuel rest
        some (character :: more, rest)
      else none

/-- A string between triple quotes after the opening ones. Up to two quotes may stand right before
the closing three. -/
def manyLines (escapes : Bool) (quote : Char) : Nat → List Char → Option (List Char × List Char)
  | 0, _ | _, [] => none
  | fuel + 1, character :: rest =>
      if character = quote then
        let quotes := countQuotes quote rest + 1
        if quotes < 3 then do
          let (more, rest) ← manyLines escapes quote fuel (rest.drop (quotes - 1))
          some (List.replicate quotes quote ++ more, rest)
        else
          let kept := min (quotes - 3) 2
          some (List.replicate kept quote, rest.drop (kept + 2))
      else if escapes ∧ character = '\\' then
        match afterJoin? rest with
        | some rest => manyLines escapes quote fuel rest
        | none => do
            let (escaped, rest) ← escape rest
            let (more, rest) ← manyLines escapes quote fuel rest
            some (escaped :: more, rest)
      else
        match afterBreak? (character :: rest) with
        | some rest => do
            let (more, rest) ← manyLines escapes quote fuel rest
            some ('\n' :: more, rest)
        | none =>
            if isPrintable character then do
              let (more, rest) ← manyLines escapes quote fuel rest
              some (character :: more, rest)
            else none

/-- A string on one line with its opening quote, as it may also stand for a key. -/
def quotedKey : List Char → Option (String × List Char)
  | quote :: rest => do
      if quote != '"' && quote != '\'' then none
      let (text, rest) ← oneLine (quote == '"') quote (rest.length + 1) rest
      some (String.ofList text, rest)
  | [] => none

/-- A string of any kind. -/
def quoted : List Char → Option (String × List Char)
  | first :: second :: third :: rest => do
      if first = second ∧ second = third ∧ (first = '"' ∨ first = '\'') then
        let rest := (afterBreak? rest).getD rest
        let (text, rest) ← manyLines (first == '"') first (rest.length + 1) rest
        some (String.ofList text, rest)
      else quotedKey (first :: second :: third :: rest)
  | text => quotedKey text

/-!
## Values without quotes in TOML

Numbers, truth values and moments. Each is one word, except that a date and a time may be separated
by a space. In numbers a single underscore may stand between two digits.
-/

/-- The characters that words consist of. -/
def isWordCharacter (character : Char) : Bool :=
  character.isAlphanum || character == '+' || character == '-' || character == '_' ||
    character == '.' || character == ':'

/-- The digits of a number without the underscores between them. -/
def plainDigits? (isDigit : Char → Bool) (text : List Char) : Option (List Char) :=
  let groups := text.splitOn '_'
  if groups.all fun group => !group.isEmpty && group.all isDigit then some groups.flatten
  else none

/-- The digits of a decimal number that does not start with a needless zero. -/
def wholeDigits? (text : List Char) : Option (List Char) :=
  (plainDigits? Char.isDigit text).filter fun digits =>
    digits.length == 1 || digits.head? != some '0'

/-- The sign at the start of a number, and what follows it. -/
def signed (text : List Char) : Bool × List Char :=
  match text with
  | '-' :: rest => (true, rest)
  | '+' :: rest => (false, rest)
  | rest => (false, rest)

/-- The value of digits in the given base. -/
def baseValue? (base : Nat) (text : List Char) : Option Nat := do
  let isDigit (character : Char) := (Text.hexValue? character).any (· < base)
  let digits ← plainDigits? isDigit text
  let values ← digits.mapM Text.hexValue?
  some (values.foldl (fun value digit => base * value + digit) 0)

/-- A whole number of at most 64 bits. Hexadecimal, octal and binary ones carry no sign. -/
def integer? (word : List Char) : Option Int := do
  let value ← match word with
    | '0' :: 'x' :: digits => (baseValue? 16 digits).map Int.ofNat
    | '0' :: 'o' :: digits => (baseValue? 8 digits).map Int.ofNat
    | '0' :: 'b' :: digits => (baseValue? 2 digits).map Int.ofNat
    | _ => do
        let (negative, rest) := signed word
        let digits ← wholeDigits? rest
        let value := Number.value digits
        some (if negative then -(value : Int) else value)
  if Number.isInteger value then some value else none

/-- The exponent of a number after its mark. -/
def exponent? (text : List Char) : Option Int := do
  let (negative, rest) := signed text
  let digits ← plainDigits? Char.isDigit rest
  let value := Number.value digits
  some (if negative then -(value : Int) else value)

/-- A number with a fraction or an exponent, without its sign. -/
def magnitude? (text : List Char) : Option Float := do
  let isMark (character : Char) := character == 'e' || character == 'E'
  let mantissa := text.takeWhile (!isMark ·)
  let power ← match text.dropWhile (!isMark ·) with
    | [] => some 0
    | _ :: exponent => exponent? exponent
  let whole ← wholeDigits? (mantissa.takeWhile (· != '.'))
  let fraction ← match mantissa.dropWhile (· != '.') with
    | [] => if mantissa.length = text.length then none else some []
    | _ :: fraction => plainDigits? Char.isDigit fraction
  some (Binary64.ofDecimal (Number.value (whole ++ fraction)) (power - fraction.length))

/-- A floating-point number. One that is written in digits is refused when it is too large. -/
def float? (word : List Char) : Option Float := do
  let (negative, rest) := signed word
  let sign (magnitude : Float) := if negative then -magnitude else magnitude
  if rest = ['i', 'n', 'f'] then some (sign (1.0 / 0.0))
  else if rest = ['n', 'a', 'n'] then some (sign (0.0 / 0.0))
  else
    let value := sign (← magnitude? rest)
    if value.isInf && !negative then none else some value

/-- A number of exactly the given length up to a largest value. -/
def field? (length most : Nat) (text : List Char) : Option (Nat × List Char) :=
  let digits := text.take length
  let value := Number.value digits
  if digits.length = length ∧ digits.all Char.isDigit ∧ value ≤ most then
    some (value, text.drop length)
  else none

/-- The text after the given character. -/
def after? (expected : Char) : List Char → Option (List Char)
  | character :: rest => if character = expected then some rest else none
  | [] => none

/-- A date, normalised, with the rest of the text. -/
def date? (text : List Char) : Option (List Char × List Char) := do
  let (year, rest) ← field? 4 9999 text
  let rest ← after? '-' rest
  let (month, rest) ← field? 2 12 rest
  let rest ← after? '-' rest
  let (day, rest) ← field? 2 31 rest
  if Calendar.isDay year month day then
    some (Date.padded 4 year ++ '-' :: Date.padded 2 month ++ '-' :: Date.padded 2 day, rest)
  else none

/-- The fraction of a second: nine digits count, and zeros at the end do not. -/
def fraction? : List Char → Option (List Char × List Char)
  | '.' :: rest =>
      let digits := rest.takeWhile Char.isDigit
      if digits.isEmpty then none
      else
        let kept := (digits.take 9).reverse.dropWhile (· == '0')
        some (if kept.isEmpty then [] else '.' :: kept.reverse, rest.dropWhile Char.isDigit)
  | rest => some ([], rest)

/-- A time of the day, normalised, with the rest of the text. -/
def time? (text : List Char) : Option (List Char × List Char) := do
  let (hour, rest) ← field? 2 23 text
  let rest ← after? ':' rest
  let (minute, rest) ← field? 2 59 rest
  let rest ← after? ':' rest
  let (second, rest) ← field? 2 60 rest
  let (fraction, rest) ← fraction? rest
  some (Date.padded 2 hour ++ ':' :: Date.padded 2 minute ++ ':' :: Date.padded 2 second ++
    fraction, rest)

/-- The distance from universal time, normalised: all of the text, and it may be empty. -/
def offset? : List Char → Option (List Char)
  | [] => some []
  | ['Z'] | ['z'] => some ['Z']
  | sign :: rest => do
      if sign != '+' && sign != '-' then none
      let (hour, rest) ← field? 2 23 rest
      let rest ← after? ':' rest
      let (minute, rest) ← field? 2 59 rest
      if !rest.isEmpty then none
      let sign := if hour = 0 ∧ minute = 0 then '+' else sign
      some (sign :: Date.padded 2 hour ++ ':' :: Date.padded 2 minute)

/-- A date, a time, or both with or without an offset. -/
def moment? (word : List Char) : Option String := do
  let text ← match date? word with
    | none => do
        let (time, rest) ← time? word
        if rest.isEmpty then some time else none
    | some (date, []) => some date
    | some (date, mark :: rest) => do
        if mark != 'T' && mark != 't' && mark != ' ' then none
        let (time, rest) ← time? rest
        let offset ← offset? rest
        some (date ++ 'T' :: time ++ offset)
  some (String.ofList text)

/-- The value of a word. -/
def plain? (word : List Char) : Option Toml :=
  if word = "true".toList then some (boolean true)
  else if word = "false".toList then some (boolean false)
  else
    (moment? word).map moment <|> (float? word).map float <|> (integer? word).map integer

/-- A value without quotes. A date goes on after a space when a digit follows it. -/
def plain (text : List Char) : Option (Toml × List Char) := do
  let word := text.takeWhile isWordCharacter
  let rest := text.dropWhile isWordCharacter
  match (date? word).filter (·.2.isEmpty), rest with
  | some _, ' ' :: digit :: rest =>
      if digit.isDigit then
        let time := (digit :: rest).takeWhile isWordCharacter
        let value ← (moment? (word ++ ' ' :: time)).map moment
        some (value, (digit :: rest).dropWhile isWordCharacter)
      else
        let value ← plain? word
        some (value, ' ' :: digit :: rest)
  | _, _ => do
      let value ← plain? word
      some (value, rest)

end LibPrint.Toml
