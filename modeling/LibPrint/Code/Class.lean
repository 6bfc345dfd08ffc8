import LibPrint.Package.Tree
import LibPrint.Text.Basic

/-!
# Code of a unit

What a class dump says about one class: its name, its methods, and the types and access flags that
these are described by.
-/

/-!
## Type references

Types as method descriptors write them: one letter for a primitive type, `L` and a name with
slashes for a class, and a bracket in front for every array dimension. The semicolon after a class
name is not kept.
-/

namespace LibPrint

/-- A type reference. -/
structure TypeRef where
  text : String
deriving DecidableEq, Inhabited

namespace TypeRef

/-- The characters without a final semicolon. -/
def dropSemicolon (text : List Char) : List Char :=
  match text.reverse with
  | ';' :: rest => rest.reverse
  | _ => text

/-- Reads a reference: blanks around it and one semicolon at its end are left out. -/
def ofText (text : String) : TypeRef :=
  ⟨String.ofList (dropSemicolon (Text.trimBlanks text.toList))⟩

/-- The class of the given dotted name. -/
def ofClassName (name : String) : TypeRef :=
  ⟨String.ofList ('L' :: name.toList.map fun character =>
    if character = '.' then '/' else character)⟩

/-- The nine letters for primitive types, the one for no value among them. -/
def primitives : List String :=
  ["Z", "B", "C", "S", "I", "J", "F", "D", "V"]

def isPrimitive (type : TypeRef) : Bool :=
  primitives.contains type.text

def isArray (type : TypeRef) : Bool :=
  type.text.toList.head? == some '['

/-- The type without its array dimensions. -/
def element (type : TypeRef) : TypeRef :=
  ⟨String.ofList (type.text.toList.dropWhile (· == '['))⟩

/-- The dotted name of the class, for an array that of its elements. -/
def className? (type : TypeRef) : Option String :=
  match type.text.toList.dropWhile (· == '[') with
  | 'L' :: first :: rest =>
      some (String.ofList ((first :: rest).map fun character =>
        if character = '/' then '.' else character))
  | _ => none

end TypeRef

/-!
## Access flags

The visibility of a method as a set of flags, and the filter a hash tree applies to methods: a set
of flags none of which a method may carry.
-/

/-- A visibility. -/
inductive Visibility where
  | isPublic
  | isPrivate
  | isProtected
  | isPackage
deriving DecidableEq

namespace Visibility

/-- All visibilities, in the order of their bits. -/
def all : List Visibility :=
  [isPublic, isPrivate, isProtected, isPackage]

/-- The bit of a visibility in a set of flags. -/
def bit : Visibility → UInt32
  | isPublic => 1
  | isPrivate => 2
  | isProtected => 4
  | isPackage => 8

/-- The name of a visibility in text. -/
def name : Visibility → String
  | isPublic => "public"
  | isPrivate => "private"
  | isProtected => "protected"
  | isPackage => "package"

end Visibility

/-- A set of visibilities as a bit mask. -/
structure AccessFlags where
  bits : UInt32
deriving DecidableEq, Inhabited

namespace AccessFlags

/-- No flag. -/
def none : AccessFlags := ⟨0⟩

/-- One flag. -/
def single (visibility : Visibility) : AccessFlags := ⟨visibility.bit⟩

/-- The flags of the four low bits of a mask. -/
def ofBits (bits : UInt32) : AccessFlags := ⟨bits &&& 0xf⟩

/-- The flags of either set. -/
def union (left right : AccessFlags) : AccessFlags := ⟨left.bits ||| right.bits⟩

/-- Whether no bit is set. -/
def isEmpty (flags : AccessFlags) : Bool := flags.bits == 0

/-- Whether all bits of the second set are in the first. -/
def contains (flags other : AccessFlags) : Bool := flags.bits &&& other.bits == other.bits

/-- Whether the sets share a bit. -/
def intersects (flags other : AccessFlags) : Bool := flags.bits &&& other.bits != 0

/-- The filter that leaves only public methods. -/
def hidden : AccessFlags :=
  ((single .isPrivate).union (single .isProtected)).union (single .isPackage)

/-- The flag of a method from its modifiers; without any it is visible in its package. -/
def ofModifiers (isPublic isPrivate isProtected : Bool) : AccessFlags :=
  if isPublic then single .isPublic
  else if isPrivate then single .isPrivate
  else if isProtected then single .isProtected
  else single .isPackage

/-- Whether a method with these flags is left by the filter. One without any flag never is. -/
def passes (flags filter : AccessFlags) : Bool :=
  !flags.isEmpty && !flags.intersects filter

/-- The names of the flags, or `none` in words when no bit is set. -/
def display (flags : AccessFlags) : String :=
  if flags.isEmpty then "none"
  else
    "|".intercalate
      ((Visibility.all.filter fun visibility => flags.contains (single visibility)).map
        Visibility.name)

/-- The flags of one name in small letters. -/
def ofName? : String → Option AccessFlags
  | "public" => some (single .isPublic)
  | "private" => some (single .isPrivate)
  | "protected" => some (single .isProtected)
  | "package" | "package-private" => some (single .isPackage)
  | "none" => some none
  | _ => Option.none

/-- The names in a list separated by bars or commas; blanks around a name and empty places are
passed over. -/
def names (text : String) : List String :=
  ((text.toList.splitOnP fun character => character == '|' || character == ',').map
    fun piece => Text.lowerAscii (String.ofList (Text.trimBlanks piece))).filter (· != "")

/-- The flags named in a list; the error is the first name that is none. -/
def ofNames (text : String) : Except String AccessFlags :=
  (names text).foldlM (fun flags name =>
    match ofName? name with
    | some flag => .ok (flags.union flag)
    | Option.none => .error name) none

/-- The message about a name that is no flag. -/
def unknownMessage (name : String) : String :=
  "unknown access flag '" ++ name ++ "'"

end AccessFlags

/-!
## Classes and methods

What a class dump says about one class. The name of a class tells where it is declared: its package
before the last dot, and in the part after it the classes around it, separated by dollar signs. A
class whose last part is a number is anonymous.
-/

/-- A declared method. -/
structure Method where
  name : String
  access : AccessFlags
  isStatic : Bool
  /-- Made by the compiler; such methods are not fingerprinted. -/
  isSynthetic : Bool
  /-- The types of the parameters, without the receiver. -/
  parameters : List TypeRef
  result : TypeRef
deriving DecidableEq

namespace Method

def isConstructor (method : Method) : Bool :=
  method.name == "<init>"

/-- The parameter types in parentheses and the result type. -/
def descriptor (method : Method) : String :=
  "(" ++ String.join (method.parameters.map TypeRef.text) ++ ")" ++ method.result.text

end Method

/-- A class of the analysed unit or of what it depends on. -/
structure ClassInfo where
  /-- The dotted name, with dollar signs between nested classes. -/
  name : String
  superclass : Option String
  /-- Whether the class is part of the analysed unit. -/
  isApp : Bool
  methods : List Method
deriving DecidableEq

namespace ClassInfo

/-- A class of the unit without superclass and methods. -/
def ofName (name : String) : ClassInfo :=
  ⟨name, none, true, []⟩

/-- The package the class is declared in, empty for the default package. -/
def package (info : ClassInfo) : String :=
  Package.parent info.name

/-- The characters after the last dot of a class name. -/
def simpleChars (name : String) : List Char :=
  Text.afterLast '.' name.toList

/-- The name without its package. -/
def simpleName (info : ClassInfo) : String :=
  String.ofList (simpleChars info.name)

/-- The parts of the simple name between dollar signs. -/
def nesting (info : ClassInfo) : List (List Char) :=
  (simpleChars info.name).splitOn '$'

def isInner (info : ClassInfo) : Bool :=
  (simpleChars info.name).contains '$'

/-- Whether a part of a name is a number. -/
def isNumeric (part : List Char) : Bool :=
  !part.isEmpty && part.all Char.isDigit

/-- Whether the class is nested and its last part is a number. -/
def isAnonymous (info : ClassInfo) : Bool :=
  match info.nesting.reverse with
  | last :: _ :: _ => isNumeric last
  | _ => false

/-- Whether an anonymous class is declared inside an anonymous class. -/
def isNestedAnonymous (info : ClassInfo) : Bool :=
  match info.nesting.reverse with
  | last :: outer :: _ :: _ => isNumeric last && isNumeric outer
  | _ => false

/-- The name of the class directly around a nested one. -/
def enclosing? (info : ClassInfo) : Option String :=
  if info.isInner then (Text.beforeLast? '$' info.name.toList).map String.ofList else none

/-- Whether the class is generated from resources and build settings. -/
def isResource (info : ClassInfo) : Bool :=
  let simple := info.simpleName
  simple == "R" || Text.startsWith "R$" simple || simple == "BuildConfig"

/-- Whether the class belongs in a fingerprint. -/
def isFingerprintable (info : ClassInfo) : Bool :=
  info.isApp && !info.isResource

/-- The signature of a method of this class, as the most verbose trees keep it. -/
def signature (info : ClassInfo) (method : Method) : String :=
  info.name ++ "." ++ method.name ++ method.descriptor

end ClassInfo

end LibPrint
