import LibPrint.Number
import LibPrint.Text.Basic

/-!
# JSON

Documents as values, and how they are written.
-/

/-!
## JSON values

A document as it is written: members keep their order and may repeat, and a number is its literal,
since readers of a document disagree only on what they make of those. A string that holds half of a
surrogate pair is well-formed JSON but no text, and an object with such a name has no members to ask
for; both have a value of their own, so that a reader can pass over them and still refuse them where
something is wanted.
-/

namespace LibPrint

/-- A JSON value. -/
inductive Json where
  | null
  | bool (value : Bool)
  | number (literal : String)
  | string (text : String)
  /-- A string that is no text, or an object with a name that is none. -/
  | unpaired
  | array (elements : List Json)
  | object (members : List (String × Json))
deriving Inhabited

namespace Json

mutual

/-- Whether two values are the same. -/
def same : Json → Json → Bool
  | null, null => true
  | bool left, bool right => left == right
  | number left, number right => left == right
  | string left, string right => left == right
  | unpaired, unpaired => true
  | array left, array right => sameElements left right
  | object left, object right => sameMembers left right
  | _, _ => false

/-- `same` on the elements of an array. -/
def sameElements : List Json → List Json → Bool
  | [], [] => true
  | first :: left, second :: right => same first second && sameElements left right
  | _, _ => false

/-- `same` on the members of an object. -/
def sameMembers : List (String × Json) → List (String × Json) → Bool
  | [], [] => true
  | (name, first) :: left, (other, second) :: right =>
      name == other && same first second && sameMembers left right
  | _, _ => false

end

mutual

theorem same_iff : (left right : Json) → (same left right = true ↔ left = right)
  | array left, right => by cases right <;> simp [same, sameElements_iff left]
  | object left, right => by cases right <;> simp [same, sameMembers_iff left]
  | null, right | bool _, right | number _, right | string _, right | unpaired, right => by
      cases right <;> simp [same]

theorem sameElements_iff :
    (left right : List Json) → (sameElements left right = true ↔ left = right)
  | [], right => by cases right <;> simp [sameElements]
  | first :: left, right => by
      cases right <;> simp [sameElements, same_iff first, sameElements_iff left]

theorem sameMembers_iff :
    (left right : List (String × Json)) → (sameMembers left right = true ↔ left = right)
  | [], right => by cases right <;> simp [sameMembers]
  | (name, first) :: left, right => by
      cases right <;>
        simp [sameMembers, same_iff first, sameMembers_iff left, Prod.ext_iff, and_assoc]

end

instance : DecidableEq Json :=
  fun left right => decidable_of_iff _ (same_iff left right)

/-- The first member of the given name. -/
def member? (name : String) : Json → Option Json
  | object members => members.lookup name
  | _ => none

/-- The text of a string. -/
def text? : Json → Option String
  | string text => some text
  | _ => none

/-- The value of `true` or `false`. -/
def bool? : Json → Option Bool
  | bool value => some value
  | _ => none

/-- The elements of an array. -/
def elements? : Json → Option (List Json)
  | array elements => some elements
  | _ => none

/-- The number of a literal without sign, fraction and exponent. -/
def nat? : Json → Option Nat
  | number literal =>
      if literal.toList.all Char.isDigit then some (Number.value literal.toList) else none
  | _ => none

/-- A natural number as a literal. -/
def ofNat (number : Nat) : Json :=
  .number (toString number)

/-- The given value, or `null`. -/
def ofOption {α : Type} (value : α → Json) : Option α → Json
  | none => null
  | some item => value item

/-- An array of strings. -/
def ofTexts (texts : List String) : Json :=
  array (texts.map string)

end Json

end LibPrint

/-!
## Writing JSON

Two layouts: compact, without any blank, and indented by two spaces with one element a line.
-/

namespace LibPrint.Json

/-- A character inside a string. Quotes, backslashes and control characters are escaped, by a
letter where there is one. -/
def escape (character : Char) : List Char :=
  match character with
  | '"' => ['\\', '"']
  | '\\' => ['\\', '\\']
  | '\n' => ['\\', 'n']
  | '\r' => ['\\', 'r']
  | '\t' => ['\\', 't']
  | _ =>
      let code := character.toNat
      if code = 0x08 then ['\\', 'b']
      else if code = 0x0c then ['\\', 'f']
      else if code < 0x20 then
        ['\\', 'u', '0', '0', Text.hexDigit (code / 16), Text.hexDigit (code % 16)]
      else [character]

/-- A text in quotes. -/
def quote (text : String) : List Char :=
  '"' :: text.toList.flatMap escape ++ ['"']

mutual

/-- The value without blanks. -/
def compactChars : Json → List Char
  | null => "null".toList
  | bool true => "true".toList
  | bool false => "false".toList
  | number literal => literal.toList
  | string text => quote text
  | unpaired => quote "\ufffd"
  | array elements => '[' :: compactElements elements ++ [']']
  | object members => '\x7b' :: compactMembers members ++ ['\x7d']

def compactElements : List Json → List Char
  | [] => []
  | [last] => compactChars last
  | element :: elements => compactChars element ++ ',' :: compactElements elements

def compactMembers : List (String × Json) → List Char
  | [] => []
  | [(name, last)] => quote name ++ ':' :: compactChars last
  | (name, value) :: members =>
      quote name ++ ':' :: compactChars value ++ ',' :: compactMembers members

end

/-- The value without blanks. -/
def compact (value : Json) : String :=
  String.ofList value.compactChars

/-- A new line with the given indentation. -/
def newLine (indent : Nat) : List Char :=
  '\n' :: List.replicate indent ' '

mutual

/-- The value with its parts on lines of their own, indented by two more than the given width. -/
def prettyChars (indent : Nat) : Json → List Char
  | array [] => ['[', ']']
  | array (first :: elements) =>
      '[' :: newLine (indent + 2) ++ prettyChars (indent + 2) first ++
        prettyElements (indent + 2) elements ++ newLine indent ++ [']']
  | object [] => ['\x7b', '\x7d']
  | object ((name, first) :: members) =>
      '\x7b' :: newLine (indent + 2) ++ quote name ++ ':' :: ' ' ::
        prettyChars (indent + 2) first ++ prettyMembers (indent + 2) members ++
        newLine indent ++ ['\x7d']
  | value => compactChars value

def prettyElements (indent : Nat) : List Json → List Char
  | [] => []
  | element :: elements =>
      ',' :: newLine indent ++ prettyChars indent element ++ prettyElements indent elements

def prettyMembers (indent : Nat) : List (String × Json) → List Char
  | [] => []
  | (name, value) :: members =>
      ',' :: newLine indent ++ quote name ++ ':' :: ' ' :: prettyChars indent value ++
        prettyMembers indent members

end

/-- The value with its parts on indented lines. -/
def pretty (value : Json) : String :=
  String.ofList (value.prettyChars 0)

end LibPrint.Json
