import LibPrint.CommandLine.Execution
import LibPrint.Proofs.Json.Grammar
import LibPrint.Proofs.Library.Date
import LibPrint.Proofs.Sorting
import Mathlib.Data.List.Nodup
import Mathlib.Data.List.ReduceOption

/-!
# Spellings of class dumps

One dump can be written in many ways: records list their fields in any order, under either of their
names and among other members, leave out what is usual anyway, and flags are a mask or names. All
spellings are read as the same hierarchy. What is no spelling of anything is a record that has a
field twice, whichever of its names it uses, and the dump around it is refused.
-/

namespace LibPrint.Dump

/-! ## Fields -/

/-- The members of a record with the given values for its fields: one for each field that is not
left out, under one of the field's names, in any order and among any members of other names. -/
def Lists (fields : List (List String)) (values : List (Option Json))
    (members : List (String × Json)) : Prop :=
  ∃ own : List (Option (String × Json)), ∃ others : List (String × Json),
    List.Forall₂ (fun names entry => ∀ member ∈ entry, member.1 ∈ names) fields own ∧
    own.map (Option.map Prod.snd) = values ∧
    (∀ member ∈ others, ∀ names ∈ fields, member.1 ∉ names) ∧
    members.Perm (own.reduceOption ++ others)

/-- A record that has a field twice, perhaps under different names. An object with a name that is no
text counts as one, as it does not show what it has. -/
inductive Repeats (fields : List (List String)) : Json → Prop
  | twice {names : List String} {first second : String × Json} {members : List (String × Json)} :
      names ∈ fields → first.1 ∈ names → second.1 ∈ names → [first, second].Sublist members →
      Repeats fields (.object members)
  | unpaired : Repeats fields .unpaired

/-- What stands in the array that is the given field of a record. -/
inductive Holds (fields : List (List String)) (place : Nat) : Json → Json → Prop
  | named {names : List String} {name : String} {elements : List Json} {element : Json}
      {members : List (String × Json)} : fields[place]? = some names → name ∈ names →
      (name, .array elements) ∈ members → element ∈ elements →
      Holds fields place (.object members) element
  | placed {elements : List Json} {element : Json} {values : List Json} :
      values[place]? = some (.array elements) → element ∈ elements →
      Holds fields place (.array values) element

/-- The value of a field, unless it is there twice. -/
def fieldValue? (members : List (String × Json)) (names : List String) : Option (Option Json) :=
  match members.filter fun member => names.contains member.1 with
  | [] => some none
  | [(_, value)] => some (some value)
  | _ => none

theorem fieldValues_object (fields : List (List String)) (members : List (String × Json)) :
    fieldValues fields (.object members) = fields.mapM (fieldValue? members) :=
  rfl

theorem fieldValue?_of_filter {members : List (String × Json)} {names : List String}
    {entry : Option (String × Json)}
    (own : members.filter (fun member => names.contains member.1) = entry.toList) :
    fieldValue? members names = some (entry.map Prod.snd) := by
  rw [fieldValue?, own]
  cases entry <;> rfl

theorem fieldValue?_of_mem {members : List (String × Json)} {names : List String} {name : String}
    {value : Json} {found : Option Json} (known : name ∈ names) (member : (name, value) ∈ members)
    (read : fieldValue? members names = some found) : found = some value := by
  have inOwn : (name, value) ∈ members.filter fun member => names.contains member.1 :=
    List.mem_filter.mpr ⟨member, List.contains_iff_mem.mpr known⟩
  rw [fieldValue?] at read
  split at read
  · next none =>
    rw [none] at inOwn
    cases inOwn
  · next only =>
    rw [only, List.mem_singleton] at inOwn
    cases inOwn
    exact (Option.some.inj read).symm
  · cases read

/-- What the members of a record are for its fields, one by one. -/
theorem forall₂_filter_reduceOption {fields : List (List String)}
    {own : List (Option (String × Json))} (apart : fields.Pairwise List.Disjoint)
    (fits : List.Forall₂ (fun names entry => ∀ member ∈ entry, member.1 ∈ names) fields own) :
    List.Forall₂ (fun names entry =>
      own.reduceOption.filter (fun member => names.contains member.1) = entry.toList)
      fields own := by
  have split (names : List String) (entry : Option (String × Json))
      (own : List (Option (String × Json))) :
      (entry :: own).reduceOption.filter (fun member => names.contains member.1) =
        entry.toList.filter (fun member => names.contains member.1) ++
          own.reduceOption.filter (fun member => names.contains member.1) := by
    cases entry with
    | none => simp
    | some member => rw [List.reduceOption_cons_of_some, Option.toList_some, ← List.filter_append,
        List.singleton_append]
  induction fits with
  | nil => exact .nil
  | @cons names entry fields own fit fits ih =>
      rw [List.pairwise_cons] at apart
      constructor
      · have kept : entry.toList.filter (fun member => names.contains member.1) = entry.toList := by
          rw [List.filter_eq_self]
          intro member inEntry
          exact List.contains_iff_mem.mpr (fit member (by simpa using inEntry))
        have nothing : own.reduceOption.filter (fun member => names.contains member.1) = [] := by
          rw [List.filter_eq_nil_iff]
          intro member inOwn known
          obtain ⟨other, otherMem, fits⟩ :=
            exists_mem_left_of_forall₂ fits (List.reduceOption_mem_iff.mp inOwn)
          exact apart.1 other otherMem (List.contains_iff_mem.mp known) (fits member rfl)
        rw [split, kept, nothing, List.append_nil]
      · apply (forall₂_and_mem (ih apart.2)).imp
        rintro other entry' ⟨otherMem, only⟩
        have nothing : entry.toList.filter (fun member => other.contains member.1) = [] := by
          rw [List.filter_eq_nil_iff]
          intro member inEntry known
          exact apart.1 other otherMem (fit member (by simpa using inEntry))
            (List.contains_iff_mem.mp known)
        rw [split, nothing, only, List.nil_append]

/-- The values that a record's members list are read. -/
theorem fieldValues_of_lists {fields : List (List String)} {values : List (Option Json)}
    {members : List (String × Json)} (different : fields.flatten.Nodup)
    (lists : Lists fields values members) : fieldValues fields (.object members) = some values := by
  have apart := (List.nodup_flatten.mp different).2
  obtain ⟨own, others, fits, rfl, unknown, perm⟩ := lists
  rw [fieldValues_object, mapM_eq_some_iff, List.forall₂_map_right_iff]
  apply (forall₂_and_mem (forall₂_filter_reduceOption apart fits)).imp
  rintro names entry ⟨namesMem, only⟩
  apply fieldValue?_of_filter
  have nothing : others.filter (fun member => names.contains member.1) = [] := by
    simp only [List.filter_eq_nil_iff, List.contains_iff_mem]
    exact fun member otherMem => unknown member otherMem names namesMem
  have filtered := perm.filter fun member => names.contains member.1
  rw [List.filter_append, only, nothing, List.append_nil] at filtered
  cases entry with
  | none => exact filtered.eq_nil
  | some member => exact List.perm_singleton.mp filtered

theorem fieldValues_of_repeats {fields : List (List String)} {value : Json}
    (repeats : Repeats fields value) : fieldValues fields value = none := by
  cases repeats with
  | @twice names first second members namesMem firstNamed secondNamed both =>
      rw [fieldValues_object]
      apply mapM_eq_none_of_mem namesMem
      have kept : [first, second].filter (fun member => names.contains member.1) =
          [first, second] := by
        simp [firstNamed, secondNamed]
      have least := (both.filter fun member => names.contains member.1).length_le
      rw [kept] at least
      rw [fieldValue?]
      split
      · next nothing =>
        rw [nothing] at least
        simp at least
      · next only =>
        rw [only] at least
        simp at least
      · rfl
  | unpaired => rfl

theorem fieldValues_of_holds {fields : List (List String)} {place : Nat} {value element : Json}
    {values : List (Option Json)} (holds : Holds fields place value element)
    (read : fieldValues fields value = some values) :
    ∃ elements, values[place]? = some (some (.array elements)) ∧ element ∈ elements := by
  cases holds with
  | @named names name elements element members atPlace known member inElements =>
      refine ⟨elements, ?_, inElements⟩
      rw [fieldValues_object, mapM_eq_some_iff, List.forall₂_iff_get] at read
      obtain ⟨lengths, each⟩ := read
      obtain ⟨inFields, rfl⟩ := List.getElem?_eq_some_iff.mp atPlace
      have inValues : place < values.length := lengths ▸ inFields
      have found := fieldValue?_of_mem known member (each place inFields inValues)
      rw [List.getElem?_eq_getElem inValues]
      exact congrArg some found
  | @placed elements element parts atPlace inElements =>
      refine ⟨elements, ?_, inElements⟩
      rw [fieldValues] at read
      split at read
      · next fits =>
        cases read
        obtain ⟨inParts, -⟩ := List.getElem?_eq_some_iff.mp atPlace
        have inFields : place < fields.length := by omega
        simp [inFields, atPlace]
      · cases read

/-! ## Values -/

/-- What stands for an item that need not be there: nothing only if the item is the usual one. -/
def Given {α : Type} (absent : α) (spells : α → Json → Prop) (item : α) : Option Json → Prop
  | none => item = absent
  | some value => spells item value

/-- An array of what stands for the items. -/
def SpellsList {α : Type} (spells : α → Json → Prop) (items : List α) (value : Json) : Prop :=
  ∃ elements, value = .array elements ∧ List.Forall₂ spells items elements

/-- A text or `null`. -/
def SpellsOptional (text : Option String) (value : Json) : Prop :=
  value = .ofOption .string text

def SpellsFlag (flag : Bool) (value : Json) : Prop :=
  value = .bool flag

/-- A mask, of which the four low bits count, or the names of the flags. -/
inductive SpellsAccess (flags : AccessFlags) : Json → Prop
  | mask {mask : Nat} : mask < 2 ^ 32 → flags.bits.toNat = mask % 16 →
      SpellsAccess flags (.ofNat mask)
  | names {names : String} : AccessFlags.ofNames names = .ok flags →
      SpellsAccess flags (.string names)

/-- A text for the type. -/
inductive SpellsType (type : TypeRef) : Json → Prop
  | text {text : String} : TypeRef.ofText text = type → SpellsType type (.string text)

/-- The objects that stand for a method. -/
inductive SpellsMethod (method : Method) : Json → Prop
  | object {access isStatic isSynthetic parameters : Option Json} {result : Json}
      {members : List (String × Json)} :
      Lists methodFields
        [some (.string method.name), access, isStatic, isSynthetic, parameters, some result]
        members →
      Given (.single .isPackage) SpellsAccess method.access access →
      Given false SpellsFlag method.isStatic isStatic →
      Given false SpellsFlag method.isSynthetic isSynthetic →
      Given [] (SpellsList SpellsType) method.parameters parameters →
      SpellsType method.result result →
      SpellsMethod method (.object members)

/-- The objects that stand for a class. -/
inductive SpellsClass (info : ClassInfo) : Json → Prop
  | object {superclass isApp methods : Option Json} {members : List (String × Json)} :
      Lists classFields [some (.string info.name), superclass, isApp, methods] members →
      Given none SpellsOptional info.superclass superclass →
      Given true SpellsFlag info.isApp isApp →
      Given [] (SpellsList SpellsMethod) info.methods methods →
      SpellsClass info (.object members)

/-- The objects that stand for a dump. -/
inductive SpellsDump (packageName : Option String) (classes : List ClassInfo) : Json → Prop
  | object {package listed : Option Json} {members : List (String × Json)} :
      Lists documentFields [package, listed] members →
      Given none SpellsOptional packageName package →
      Given [] (SpellsList SpellsClass) classes listed →
      SpellsDump packageName classes (.object members)

/-! ## Reading -/

theorem optional_of_given {α : Type} {absent item : α} {spells : α → Json → Prop}
    {decode : Json → Option α} {value : Option Json}
    (decodes : ∀ item value, spells item value → decode value = some item)
    (given : Given absent spells item value) : optional absent decode value = some item := by
  cases value with
  | none => exact congrArg some given.symm
  | some value => exact decodes item value given

theorem listOf_of_spells {α : Type} {spells : α → Json → Prop} {decode : Json → Option α}
    (decodes : ∀ item value, spells item value → decode value = some item) (items : List α)
    (value : Json) (spelled : SpellsList spells items value) :
    listOf decode value = some items := by
  obtain ⟨elements, rfl, all⟩ := spelled
  exact mapM_eq_some_iff.mpr (all.flip.imp fun value item => decodes item value)

theorem textOrNull_of_spells (text : Option String) (value : Json)
    (spells : SpellsOptional text value) : textOrNull value = some text := by
  rw [SpellsOptional] at spells
  subst spells
  cases text <;> rfl

theorem bool?_of_spells (flag : Bool) (value : Json) (spells : SpellsFlag flag value) :
    value.bool? = some flag := by
  rw [spells]
  rfl

theorem type_of_spells (type : TypeRef) (value : Json) (spells : SpellsType type value) :
    Dump.type value = some type := by
  cases spells with
  | text same => exact congrArg some same

theorem nat?_ofNat (number : Nat) : (Json.ofNat number).nat? = some number := by
  have digits : (toString number).toList = Nat.toDigits 10 number := by
    rw [Nat.toString_eq_repr, Nat.toList_repr]
  have all : (Nat.toDigits 10 number).all Char.isDigit = true :=
    List.all_eq_true.mpr fun digit => Nat.isDigit_of_mem_toDigits (by decide) (by decide)
  have value : Number.value (Nat.toDigits 10 number) = number := by
    simp [Number.value_eq_ofDigitChars]
  rw [Json.ofNat, Json.nat?, digits, if_pos all, value]

theorem access_of_spells (flags : AccessFlags) (value : Json) (spells : SpellsAccess flags value) :
    access value = some flags := by
  cases spells with
  | @mask mask bounded low =>
      have small : mask < twoTo 32 := bounded
      have same : AccessFlags.ofBits (UInt32.ofNat mask) = flags := by
        obtain ⟨bits⟩ := flags
        rw [AccessFlags.ofBits, AccessFlags.mk.injEq, ← UInt32.toNat_inj, low, UInt32.toNat_and,
          UInt32.toNat_ofNat_of_lt' bounded]
        exact Nat.and_two_pow_sub_one_eq_mod mask 4
      have read : access (.ofNat mask) = (Json.ofNat mask).nat?.bind fun mask =>
          if mask < twoTo 32 then some (AccessFlags.ofBits (UInt32.ofNat mask)) else none := rfl
      rw [read, nat?_ofNat, Option.bind_some, if_pos small, same]
  | names named =>
      rw [access, named]
      rfl

theorem method_of_spells (item : Method) (value : Json) (spells : SpellsMethod item value) :
    method value = some item := by
  cases spells with
  | object lists access isStatic isSynthetic parameters result =>
      simp [method, fieldValues_of_lists (by decide) lists, Json.text?,
        optional_of_given access_of_spells access,
        optional_of_given bool?_of_spells isStatic,
        optional_of_given bool?_of_spells isSynthetic,
        optional_of_given (listOf_of_spells type_of_spells) parameters,
        type_of_spells _ _ result]

theorem classInfo_of_spells (item : ClassInfo) (value : Json) (spells : SpellsClass item value) :
    classInfo value = some item := by
  cases spells with
  | object lists superclass isApp methods =>
      simp [classInfo, fieldValues_of_lists (by decide) lists, Json.text?,
        optional_of_given textOrNull_of_spells superclass,
        optional_of_given bool?_of_spells isApp,
        optional_of_given (listOf_of_spells method_of_spells) methods]

theorem hierarchy?_of_spells (framework : List String) {packageName : Option String}
    {classes : List ClassInfo} {value : Json} (spells : SpellsDump packageName classes value) :
    hierarchy? framework value = some (Hierarchy.ofClasses packageName classes framework) := by
  cases spells with
  | object lists package listed =>
      simp [hierarchy?, fieldValues_of_lists (by decide) lists,
        optional_of_given textOrNull_of_spells package,
        optional_of_given (listOf_of_spells classInfo_of_spells) listed]

/-! ## Refusing -/

theorem listOf_of_refused {α : Type} {decode : Json → Option α} {elements : List Json}
    {element : Json} (member : element ∈ elements) (refused : decode element = none) :
    listOf decode (.array elements) = none :=
  mapM_eq_none_of_mem member refused

theorem method_of_repeats {value : Json} (repeats : Repeats methodFields value) :
    method value = none := by
  rw [method, fieldValues_of_repeats repeats]
  rfl

theorem classInfo_of_repeats {value : Json} (repeats : Repeats classFields value) :
    classInfo value = none := by
  rw [classInfo, fieldValues_of_repeats repeats]
  rfl

theorem classInfo_of_holds {value element : Json} (holds : Holds classFields 3 value element)
    (refused : method element = none) : classInfo value = none := by
  rw [classInfo]
  cases read : fieldValues classFields value with
  | none => rfl
  | some values =>
      obtain ⟨elements, atPlace, member⟩ := fieldValues_of_holds holds read
      simp only [Option.bind_eq_bind, Option.bind_some]
      split
      · cases atPlace
        simp [optional, listOf_of_refused member refused]
      · rfl

theorem hierarchy?_of_repeats (framework : List String) {value : Json}
    (repeats : Repeats documentFields value) : hierarchy? framework value = none := by
  rw [hierarchy?, fieldValues_of_repeats repeats]
  rfl

theorem hierarchy?_of_holds (framework : List String) {value element : Json}
    (holds : Holds documentFields 1 value element) (refused : classInfo element = none) :
    hierarchy? framework value = none := by
  rw [hierarchy?]
  cases read : fieldValues documentFields value with
  | none => rfl
  | some values =>
      obtain ⟨elements, atPlace, member⟩ := fieldValues_of_holds holds read
      simp only [Option.bind_eq_bind, Option.bind_some]
      split
      · cases atPlace
        simp [optional, listOf_of_refused member refused]
      · rfl

/-- A dump with a record in it that has a field twice: the dump itself, one of its classes or one of
their methods. -/
inductive RepeatsField : Json → Prop
  | dump {value : Json} : Repeats documentFields value → RepeatsField value
  | ofClass {value info : Json} : Holds documentFields 1 value info → Repeats classFields info →
      RepeatsField value
  | ofMethod {value info item : Json} : Holds documentFields 1 value info →
      Holds classFields 3 info item → Repeats methodFields item → RepeatsField value

theorem hierarchy?_of_repeatsField (framework : List String) {value : Json}
    (repeats : RepeatsField value) : hierarchy? framework value = none := by
  cases repeats with
  | dump repeats => exact hierarchy?_of_repeats framework repeats
  | ofClass info repeats => exact hierarchy?_of_holds framework info (classInfo_of_repeats repeats)
  | ofMethod info item repeats =>
      exact hierarchy?_of_holds framework info
        (classInfo_of_holds item (method_of_repeats repeats))

/-- Every text of an object that stands for a dump is read as the hierarchy of the dump. A text of
what has a field twice, in the dump, a class or a method, is refused as malformed. -/
theorem read?_of_isText {value : Json} {text : String} (isText : value.IsText text)
    (framework : List String) :
    (∀ packageName classes, SpellsDump packageName classes value →
      read? framework text = some (Hierarchy.ofClasses packageName classes framework)) ∧
    (RepeatsField value →
      read? framework text = none ∧
        ∀ (configuration : Configuration) (path : String) (files : Files),
          CommandLine.readText? files path = some text →
            CommandLine.loadHierarchy configuration path files = .error .malformedDump) := by
  have refused (framework : List String) (repeats : RepeatsField value) :
      read? framework text = none := by
    rw [read?, Json.read?_eq_some_iff.mpr isText]
    exact hierarchy?_of_repeatsField framework repeats
  refine ⟨?_, fun repeats => ⟨refused framework repeats, ?_⟩⟩
  · intro packageName classes spells
    rw [read?, Json.read?_eq_some_iff.mpr isText]
    exact hierarchy?_of_spells framework spells
  · intro configuration path files found
    rw [CommandLine.loadHierarchy, found]
    simp only [refused configuration.frameworkPackages repeats]

/-- A class among other members, with its own in no usual order and one under its second name, a
character of a name written as an escape; and a class that has a field under both names. -/
theorem read?_of_isText_names :
    let text := "\x7b\"x\":0,\"classes\" :[\x7b\"app\":false,\"na\\u006de\":\"A\"," ++
      "\"methods\":[\x7b\"returns\":\"I \",\"access\":17,\"name\":\"f\"\x7d]\x7d]\x7d"
    let twice := "\x7b\"classes\":[\x7b\"app\":0,\"is_app_class\":0\x7d]\x7d"
    let classes : List ClassInfo :=
      [⟨"A", none, false, [⟨"f", .single .isPublic, false, false, [], ⟨"I"⟩⟩]⟩]
    read? Hierarchy.defaultFramework text =
        some (Hierarchy.ofClasses none classes Hierarchy.defaultFramework) ∧
      read? Hierarchy.defaultFramework twice = none := by
  intro text twice classes
  let name : String × Json := ("name", .string "f")
  let access : String × Json := ("access", .number "17")
  let result : String × Json := ("returns", .string "I ")
  let item : Json := .object [result, access, name]
  let info : Json := .object
    [("app", .bool false), ("name", .string "A"), ("methods", .array [item])]
  let value : Json := .object [("x", .number "0"), ("classes", .array [info])]
  have spellsItem : SpellsMethod ⟨"f", .single .isPublic, false, false, [], ⟨"I"⟩⟩ item := by
    have lists : Lists methodFields
        [some (.string "f"), some (.ofNat 17), none, none, none, some (.string "I ")]
        [result, access, name] :=
      ⟨[some name, some access, none, none, none, some result], [],
        by simp [methodFields, name, access, result], rfl, by simp,
        List.reverse_perm [name, access, result]⟩
    exact .object lists (.mask (by decide) (by decide)) rfl rfl rfl (.text (by decide +kernel))
  have spellsInfo : SpellsClass classes[0] info := by
    have lists : Lists classFields
        [some (.string "A"), none, some (.bool false), some (.array [item])]
        [("app", .bool false), ("name", .string "A"), ("methods", .array [item])] :=
      ⟨[some ("name", .string "A"), none, some ("app", .bool false),
        some ("methods", .array [item])], [], by simp [classFields], rfl, by simp,
        List.Perm.swap _ _ _⟩
    exact .object lists rfl rfl ⟨_, rfl, .cons spellsItem .nil⟩
  have spells : SpellsDump none classes value := by
    have lists : Lists documentFields [none, some (.array [info])]
        [("x", .number "0"), ("classes", .array [info])] :=
      ⟨[none, some ("classes", .array [info])], [("x", .number "0")],
        by simp [documentFields], rfl, by simp [documentFields], List.Perm.swap _ _ _⟩
    exact .object lists rfl ⟨_, rfl, .cons spellsInfo .nil⟩
  let both : List (String × Json) := [("app", .number "0"), ("is_app_class", .number "0")]
  have inClass : Holds documentFields 1 (.object [("classes", .array [.object both])])
      (.object both) :=
    .named rfl List.mem_cons_self List.mem_cons_self List.mem_cons_self
  have repeats : Repeats classFields (.object both) := by
    have names : ["is_app_class", "app"] ∈ classFields := by simp [classFields]
    exact .twice names (by simp) (by simp) (List.Sublist.refl both)
  have isText : value.IsText text := Json.read?_eq_some_iff.mp (by decide +kernel)
  have isTextTwice : (Json.object [("classes", .array [.object both])]).IsText twice :=
    Json.read?_eq_some_iff.mp (by decide +kernel)
  exact ⟨(read?_of_isText isText _).1 none classes spells,
    ((read?_of_isText isTextTwice _).2 (.ofClass inClass repeats)).1⟩

end LibPrint.Dump
