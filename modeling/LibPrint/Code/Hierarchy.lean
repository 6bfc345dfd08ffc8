import LibPrint.Code.Class
import LibPrint.Json.Reader

/-!
# Units of code

All classes of a unit, how the descriptors of its methods are made fuzzy, and the document that a
unit is read from.
-/

/-!
## Class hierarchies

All classes a front end found in one unit. The hierarchy decides which types are internal: those
that the unit defines, and which an obfuscator may therefore rename.
-/

namespace LibPrint

/-- The classes of a unit, with the packages whose unknown classes belong to the platform. -/
structure Hierarchy where
  /-- The package the unit declares for itself. -/
  packageName : Option String
  classes : List ClassInfo
  framework : List String

namespace Hierarchy

/-- The packages of the platform unless others are given. -/
def defaultFramework : List String :=
  ["java", "javax", "android", "dalvik", "kotlin", "org.w3c", "org.xml", "org.json",
    "org.apache.http"]

/-- The hierarchy of the given classes. An empty package name counts as none. -/
def ofClasses (packageName : Option String) (classes : List ClassInfo)
    (framework : List String) : Hierarchy :=
  ⟨packageName.filter (· != ""), classes, framework⟩

/-- The class of the given name; the last one when several have it. -/
def lookup? (hierarchy : Hierarchy) (name : String) : Option ClassInfo :=
  hierarchy.classes.reverse.find? (·.name == name)

/-- The classes that take part in fingerprints. -/
def appClasses (hierarchy : Hierarchy) : List ClassInfo :=
  hierarchy.classes.filter (·.isFingerprintable)

/-- Whether a class name lies in a package of the platform. -/
def isFramework (hierarchy : Hierarchy) (name : String) : Bool :=
  hierarchy.framework.any (Package.isWithin name)

/-- Whether the unit defines the type. A known class is internal when it is part of the unit, and
an unknown one unless it belongs to the platform; primitive types never are. -/
def isInternal (hierarchy : Hierarchy) (type : TypeRef) : Bool :=
  match type.className? with
  | none => false
  | some name =>
      match hierarchy.lookup? name with
      | some info => info.isApp
      | none => !hierarchy.isFramework name

end Hierarchy

end LibPrint

/-!
## Fuzzy descriptors

A fuzzy descriptor is a method's descriptor with one placeholder for every internal type, so that
renaming classes does not change it; external types stay as they are.

Constructors of anonymous classes need more. Some compilers pass the superclass of the enclosing
class as one more argument after the enclosing instance, others do not, so that argument is left
out. A constructor of an anonymous class inside an anonymous class has a shape only the compiler
knows, and all of them with parameters share one descriptor.
-/

namespace LibPrint.Hierarchy

/-- What stands for an internal type. -/
def placeholder : String := "X"

/-- The descriptor of constructors with parameters in doubly anonymous classes. -/
def nestedConstructor : String := "(X)V"

/-- A type with its name hidden when it is internal. -/
def render (hierarchy : Hierarchy) (type : TypeRef) : String :=
  if hierarchy.isInternal type then placeholder else type.text

/-- The descriptor with the internal types hidden and nothing left out. -/
def plainDescriptor (hierarchy : Hierarchy) (parameters : List TypeRef) (result : TypeRef) :
    String :=
  "(" ++ String.join (parameters.map hierarchy.render) ++ ")" ++ hierarchy.render result

/-- Whether a constructor of the class gets the superclass of the enclosing class as an argument:
its first two parameters are the class around it and that class's superclass, both internal. -/
def passesSuperclass (hierarchy : Hierarchy) (info : ClassInfo) (first second : TypeRef) : Bool :=
  info.isAnonymous && hierarchy.isInternal first && hierarchy.isInternal second &&
    match info.enclosing? with
    | none => false
    | some outer =>
        match (hierarchy.lookup? outer).bind (·.superclass) with
        | none => false
        | some superclass =>
            first.className? == some outer && second.className? == some superclass

/-- The fuzzy descriptor of a method of the class. -/
def fuzzyDescriptor (hierarchy : Hierarchy) (info : ClassInfo) (method : Method) : String :=
  let plain := hierarchy.plainDescriptor method.parameters method.result
  if !method.isConstructor then plain
  else
    match method.parameters with
    | [] => plain
    | first :: others =>
        if info.isNestedAnonymous then nestedConstructor
        else
          match others with
          | [] => plain
          | second :: rest =>
              if hierarchy.passesSuperclass info first second then
                "(" ++ String.join ((second :: rest).map hierarchy.render) ++ ")V"
              else plain

end LibPrint.Hierarchy

/-!
## Class dumps

The document a front end writes about a unit: a package name and classes with their methods. Every
record is an object whose members may come in any order, with members of other names passed over;
some members have a second name. A record may also be an array of its fields in their order. A field
given twice, under one name or under both, makes the document invalid.
-/

namespace LibPrint.Dump

/-- The values of a record's fields, each of which has the given names: `none` for one that is left
out. Fails for a field given twice, for an array with more elements than fields, and for what is no
record. -/
def fieldValues (fields : List (List String)) : Json → Option (List (Option Json))
  | .object members =>
      fields.mapM fun names =>
        match members.filter fun member => names.contains member.1 with
        | [] => some none
        | [(_, value)] => some (some value)
        | _ => none
  | .array elements =>
      if elements.length ≤ fields.length then
        some (fields.zipIdx.map fun (_, place) => elements[place]?)
      else none
  | _ => none

/-- A field that may be left out. -/
def optional {α : Type} (absent : α) (decode : Json → Option α) : Option Json → Option α
  | none => some absent
  | some value => decode value

/-- A text or nothing, the latter also written `null`. -/
def textOrNull : Json → Option (Option String)
  | .null => some none
  | value => (value.text?).map some

/-- The elements of an array, each decoded. -/
def listOf {α : Type} (decode : Json → Option α) (value : Json) : Option (List α) := do
  let elements ← value.elements?
  elements.mapM decode

/-- Flags as a mask below 2 ^ 32, of which the four low bits count, or as names. -/
def access : Json → Option AccessFlags
  | .string names => (AccessFlags.ofNames names).toOption
  | value => do
      let mask ← value.nat?
      if mask < twoTo 32 then some (AccessFlags.ofBits (UInt32.ofNat mask)) else none

def type (value : Json) : Option TypeRef :=
  (value.text?).map TypeRef.ofText

/-- The fields of a method, with their second names. -/
def methodFields : List (List String) :=
  [["name"], ["access"], ["is_static"], ["is_bridge_or_synthetic", "synthetic"],
    ["parameter_types", "params"], ["return_type", "returns"]]

/-- A method; without flags it is visible in its package. -/
def method (value : Json) : Option Method := do
  match ← fieldValues methodFields value with
  | [some name, flags, isStatic, isSynthetic, parameters, some result] =>
      let name ← name.text?
      let access ← optional (.single .isPackage) access flags
      let isStatic ← optional false Json.bool? isStatic
      let isSynthetic ← optional false Json.bool? isSynthetic
      let parameters ← optional [] (listOf type) parameters
      let result ← type result
      some ⟨name, access, isStatic, isSynthetic, parameters, result⟩
  | _ => none

/-- The fields of a class, with their second names. -/
def classFields : List (List String) :=
  [["name"], ["superclass"], ["is_app_class", "app"], ["methods"]]

/-- A class; unless it says otherwise it is part of the unit. -/
def classInfo (value : Json) : Option ClassInfo := do
  match ← fieldValues classFields value with
  | [some name, superclass, isApp, methods] =>
      let name ← name.text?
      let superclass ← optional none textOrNull superclass
      let isApp ← optional true Json.bool? isApp
      let methods ← optional [] (listOf method) methods
      some ⟨name, superclass, isApp, methods⟩
  | _ => none

/-- The fields of a whole dump. -/
def documentFields : List (List String) :=
  [["package_name"], ["classes"]]

/-- The hierarchy of a dump that is already a value. -/
def hierarchy? (framework : List String) (value : Json) : Option Hierarchy := do
  match ← fieldValues documentFields value with
  | [packageName, classes] =>
      let packageName ← optional none textOrNull packageName
      let classes ← optional [] (listOf classInfo) classes
      some (Hierarchy.ofClasses packageName classes framework)
  | _ => none

/-- The hierarchy of the text of a dump. -/
def read? (framework : List String) (text : String) : Option Hierarchy :=
  (Json.read? text).bind (hierarchy? framework)

end LibPrint.Dump
