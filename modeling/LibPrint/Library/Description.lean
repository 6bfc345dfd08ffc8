import LibPrint.Json.Basic
import LibPrint.Number
import LibPrint.Text.Basic

/-!
# Descriptions

What is known about a version of a library besides its code, and the dates that it may name.
-/

/-!
## Dates

Days of the Gregorian calendar, continued without limit to both sides of its introduction, written
as day, month and year with points between. A year of more than four digits, or one before the year
zero, carries its sign.
-/

namespace LibPrint

namespace Calendar

def isLeap (year : Int) : Bool :=
  year % 4 == 0 && (year % 100 != 0 || year % 400 == 0)

/-- The number of days of a month, and zero for a month that is none. -/
def daysIn (year : Int) (month : Nat) : Nat :=
  if month = 2 then (if isLeap year then 29 else 28)
  else if month ∈ [4, 6, 9, 11] then 30
  else if 1 ≤ month ∧ month ≤ 12 then 31
  else 0

/-- The first and the last year there are dates for. -/
def years : Int × Int :=
  (-262143, 262142)

/-- Whether there is such a day. -/
def isDay (year : Int) (month day : Nat) : Bool :=
  years.1 ≤ year && year ≤ years.2 && 1 ≤ day && day ≤ daysIn year month

end Calendar

/-- A day. -/
structure Date where
  year : Int
  month : Nat
  day : Nat
  exists_day : Calendar.isDay year month day = true
deriving DecidableEq

namespace Date

/-- A number in decimal with zeros in front up to the given length. -/
def padded (length number : Nat) : List Char :=
  let digits := (toString number).toList
  List.replicate (length - digits.length) '0' ++ digits

/-- The year in four digits, with its sign if it is not one of the years 0 to 9999. -/
def yearText (year : Int) : List Char :=
  if 0 ≤ year ∧ year ≤ 9999 then padded 4 year.natAbs
  else (if year < 0 then '-' else '+') :: padded 4 year.natAbs

/-- Day, month and year. -/
def text (date : Date) : String :=
  String.ofList (padded 2 date.day ++ '.' :: padded 2 date.month ++ '.' :: yearText date.year)

/-- The number in the first digits of a text, of which at most `most` are taken. -/
def digits? (most : Nat) (text : List Char) : Option (Nat × List Char) :=
  match (text.take most).takeWhile Char.isDigit with
  | [] => none
  | found => some (Number.value found, text.drop found.length)

/-- A year: up to four digits, or any number of them after a sign. -/
def year? (text : List Char) : Option (Int × List Char) :=
  match text with
  | '+' :: rest => (digits? rest.length rest).map fun (year, rest) => ((year : Int), rest)
  | '-' :: rest => (digits? rest.length rest).map fun (year, rest) => (-(year : Int), rest)
  | _ => (digits? 4 text).map fun (year, rest) => ((year : Int), rest)

/-- The text after a point, with blanks passed over. -/
def afterPoint? : List Char → Option (List Char)
  | '.' :: rest => some (rest.dropWhile Text.isBlank)
  | _ => none

/-- The date a text stands for. Blanks may stand before each number, nothing after the last. -/
def ofText? (text : String) : Option Date := do
  let (day, rest) ← digits? 2 (text.toList.dropWhile Text.isBlank)
  let rest ← afterPoint? rest
  let (month, rest) ← digits? 2 rest
  let rest ← afterPoint? rest
  let (year, rest) ← year? rest
  if exists_day : Calendar.isDay year month day = true ∧ rest = [] then
    some ⟨year, month, day, exists_day.1⟩
  else none

/-- A date that may be left open by a text of blanks alone; blanks around it do not matter. -/
def readOptional? (text : String) : Option (Option Date) :=
  let text := Text.trim text
  if text == "" then some none else (ofText? text).map some

end Date

/-!
## Library descriptions

What is known about a version of a library besides its code: a name, a category, and perhaps a
version, a release date and a comment. A comment may carry a marker that the version is known to be
vulnerable, or that it fixes a vulnerability.
-/

/-- What a library is for. -/
inductive Category where
  | advertising
  | analytics
  | android
  | socialMedia
  | cloud
  | utilities
deriving DecidableEq, Inhabited

namespace Category

/-- All categories, in the order they are numbered. -/
def all : List Category :=
  [advertising, analytics, android, socialMedia, cloud, utilities]

def name : Category → String
  | advertising => "Advertising"
  | analytics => "Analytics"
  | android => "Android"
  | socialMedia => "SocialMedia"
  | cloud => "Cloud"
  | utilities => "Utilities"

/-- The category of a name as people write it: blanks, hyphens, underscores and capitals do not
matter. No capital outside ASCII has a small letter that occurs in a category's name. -/
def ofName? (text : String) : Option Category :=
  let plain := text.toList.filter fun character =>
    !(Text.isBlank character || character == '-' || character == '_')
  all.find? fun category => Text.lowerAscii category.name == Text.lowerAscii (String.ofList plain)

/-- The category of a name as description files write it. -/
def ofFileName? (text : String) : Option Category :=
  if text == "Social Media" || text == "Social-Media" then some socialMedia
  else all.find? (·.name == text)

end Category

/-- What a comment says about the security of a version. -/
inductive SecurityAdvisory where
  | vulnerable
  | fix
deriving DecidableEq

namespace SecurityAdvisory

def name : SecurityAdvisory → String
  | vulnerable => "vulnerable"
  | fix => "fix"

end SecurityAdvisory

/-- The description of a library version. -/
structure Description where
  name : String
  category : Category
  version : Option String
  date : Option Date
  comment : Option String
deriving DecidableEq

namespace Description

/-- Why a description is refused. -/
inductive Invalid where
  | emptyName
  | emptyVersion (name : String)
deriving DecidableEq

/-- What is wrong with a description, if anything: a name or a version of blanks alone. -/
def invalid? (description : Description) : Option Invalid :=
  if Text.trim description.name == "" then some .emptyName
  else if description.version.any fun version => Text.trim version == "" then
    some (.emptyVersion description.name)
  else none

/-- The version, or two hyphens. -/
def versionText (description : Description) : String :=
  description.version.getD "--"

/-- The date, or three hyphens. -/
def dateText (description : Description) : String :=
  (description.date.map Date.text).getD "---"

/-- Whether a text occurs inside another. -/
def occursIn (wanted : List Char) : List Char → Bool
  | [] => wanted.isEmpty
  | character :: text =>
      (Text.afterStart? wanted (character :: text)).isSome || occursIn wanted text

/-- What the comment says about security; a fix counts before a vulnerability. -/
def advisory? (description : Description) : Option SecurityAdvisory :=
  match description.comment with
  | none => none
  | some comment =>
      if occursIn "[SECURITY-FIX]".toList comment.toList then some .fix
      else if occursIn "[SECURITY]".toList comment.toList then some .vulnerable
      else none

/-- A text as a part of a file name: without blanks at its ends, and hyphens for spaces. -/
def filePart (text : String) : String :=
  String.ofList ((Text.trimBlanks text.toList).map fun character =>
    if character = ' ' then '-' else character)

/-- The name of the file a profile is kept in, without its extension. -/
def fileStem (description : Description) : String :=
  filePart description.name ++ "_" ++ filePart description.versionText

/-- Name and version. -/
def display (description : Description) : String :=
  description.name ++ " (" ++ description.versionText ++ ")"

/-- All there is, a line each. -/
def lines (description : Description) : List String :=
  ["        name: " ++ description.name,
    "    category: " ++ description.category.name,
    "     version: " ++ description.versionText,
    "release-date: " ++ description.dateText,
    "     comment: " ++ description.comment.getD "--"]

/-- The description as data. -/
def toJson (description : Description) : Json :=
  .object
    [("name", .string description.name),
      ("category", .string description.category.name),
      ("version", .ofOption .string description.version),
      ("date", .ofOption (fun date => .string date.text) description.date),
      ("comment", .ofOption .string description.comment)]

end Description

end LibPrint
