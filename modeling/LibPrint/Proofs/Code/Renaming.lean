import LibPrint.Proofs.Code.Descriptor
import LibPrint.Proofs.Sorting
import Mathlib.Data.List.TakeWhile

/-!
# Renaming the classes of a unit

An obfuscator gives the classes of a unit new names, consistently wherever they occur, and renames
methods as it likes. Fuzzy descriptors do not see it: what a descriptor reads are look-ups, and a
look-up of a new name finds what a look-up of the old one found.
-/

namespace LibPrint.Hierarchy

/-! ## What a renaming does -/

section Definitions

variable (hierarchy : Hierarchy) (names : String → String)

/-- The classes of the unit itself. -/
def own : List ClassInfo :=
  hierarchy.classes.filter (·.isApp)

/-- Whether the unit has a class of its own with the given name. -/
def owns (name : String) : Bool :=
  hierarchy.own.any (·.name == name)

/-- The name of a class afterwards; only the unit's own classes get new ones. -/
def newName (name : String) : String :=
  if hierarchy.owns name then names name else name

/-- A reference to a class afterwards, with as many array dimensions. -/
def newType (type : TypeRef) : TypeRef :=
  match type.className? with
  | none => type
  | some name =>
      if hierarchy.owns name then
        ⟨String.ofList (type.text.toList.takeWhile (· == '[') ++
          (TypeRef.ofClassName (names name)).text.toList)⟩
      else type

/-- All class names that occur: those of classes, of what they extend, and in the types of their
methods. -/
def mentioned : List String :=
  hierarchy.classes.flatMap fun info =>
    info.name :: (info.superclass.toList ++ info.methods.flatMap fun method =>
      (method.result :: method.parameters).filterMap TypeRef.className?)

/-- A method afterwards. Its name is free, except that constructors stay constructors. -/
structure RenamedMethod (method copy : Method) : Prop where
  isConstructor : method.isConstructor = copy.isConstructor
  access : method.access = copy.access
  isStatic : method.isStatic = copy.isStatic
  isSynthetic : method.isSynthetic = copy.isSynthetic
  parameters : copy.parameters = method.parameters.map (hierarchy.newType names)
  result : copy.result = hierarchy.newType names method.result

/-- A class afterwards. -/
structure RenamedClass (info copy : ClassInfo) : Prop where
  name : copy.name = hierarchy.newName names info.name
  superclass : copy.superclass = info.superclass.map (hierarchy.newName names)
  isApp : info.isApp = copy.isApp
  methods : List.Forall₂ (hierarchy.RenamedMethod names) info.methods copy.methods

/-- A hierarchy afterwards. -/
structure Renamed (copy : Hierarchy) : Prop where
  framework : hierarchy.framework = copy.framework
  classes : List.Forall₂ (hierarchy.RenamedClass names) hierarchy.classes copy.classes

/-- What a renaming has to respect. New names are distinct, differ from the names that stay, and
can be written in a type reference; what names say about packages and nesting is kept. -/
structure Respects : Prop where
  injective : ∀ first ∈ hierarchy.own, ∀ second ∈ hierarchy.own,
    names first.name = names second.name → first.name = second.name
  fresh : ∀ info ∈ hierarchy.own, ∀ other ∈ hierarchy.mentioned,
    hierarchy.owns other = false → names info.name ≠ other
  referable : ∀ info ∈ hierarchy.own,
    names info.name ≠ "" ∧ ∀ character ∈ (names info.name).toList, character ≠ '/'
  package : ∀ first ∈ hierarchy.own, ∀ second ∈ hierarchy.own,
    first.package = second.package ↔
      Package.parent (names first.name) = Package.parent (names second.name)
  enclosing : ∀ info ∈ hierarchy.own, ∀ outer ∈ hierarchy.classes,
    info.enclosing? = some outer.name →
      (ClassInfo.ofName (names info.name)).enclosing? =
        some (hierarchy.newName names outer.name)
  /-- A class whose surrounding class is unknown does not move into a known one. -/
  outside : ∀ info ∈ hierarchy.own,
    (∀ outer ∈ hierarchy.classes, info.enclosing? ≠ some outer.name) →
      ∀ outer ∈ hierarchy.classes, (ClassInfo.ofName (names info.name)).enclosing? ≠
        some (hierarchy.newName names outer.name)
  isInner : ∀ info ∈ hierarchy.own,
    info.isInner = (ClassInfo.ofName (names info.name)).isInner
  isAnonymous : ∀ info ∈ hierarchy.own,
    info.isAnonymous = (ClassInfo.ofName (names info.name)).isAnonymous
  isNestedAnonymous : ∀ info ∈ hierarchy.own,
    info.isNestedAnonymous = (ClassInfo.ofName (names info.name)).isNestedAnonymous
  isResource : ∀ info ∈ hierarchy.own,
    info.isResource = (ClassInfo.ofName (names info.name)).isResource

end Definitions

variable {hierarchy copy : Hierarchy} {names : String → String}

/-! ## Names -/

theorem owns_iff {name : String} :
    hierarchy.owns name = true ↔ ∃ info ∈ hierarchy.own, info.name = name := by
  simp [owns]

theorem mem_own {info : ClassInfo} :
    info ∈ hierarchy.own ↔ info ∈ hierarchy.classes ∧ info.isApp = true :=
  List.mem_filter

theorem newName_of_own {info : ClassInfo} (member : info ∈ hierarchy.own) :
    hierarchy.newName names info.name = names info.name :=
  if_pos (owns_iff.mpr ⟨info, member, rfl⟩)

theorem name_mem_mentioned {info : ClassInfo} (member : info ∈ hierarchy.classes) :
    info.name ∈ hierarchy.mentioned :=
  List.mem_flatMap.mpr ⟨info, member, List.mem_cons_self⟩

theorem superclass_mem_mentioned {info : ClassInfo} {superclass : String}
    (member : info ∈ hierarchy.classes) (extended : info.superclass = some superclass) :
    superclass ∈ hierarchy.mentioned := by
  refine List.mem_flatMap.mpr ⟨info, member, ?_⟩
  simp [extended]

theorem className_mem_mentioned {info : ClassInfo} {method : Method} {type : TypeRef}
    {name : String} (infoMem : info ∈ hierarchy.classes) (methodMem : method ∈ info.methods)
    (typeMem : type ∈ method.result :: method.parameters) (named : type.className? = some name) :
    name ∈ hierarchy.mentioned := by
  have occurs : name ∈ (method.result :: method.parameters).filterMap TypeRef.className? :=
    List.mem_filterMap.mpr ⟨type, typeMem, named⟩
  refine List.mem_flatMap.mpr ⟨info, infoMem, List.mem_cons_of_mem _ ?_⟩
  exact List.mem_append_right _ (List.mem_flatMap.mpr ⟨method, methodMem, occurs⟩)

/-- Names that occur stay apart. -/
theorem Respects.newName_injective (respects : hierarchy.Respects names) {first second : String}
    (firstMem : first ∈ hierarchy.mentioned) (secondMem : second ∈ hierarchy.mentioned)
    (equal : hierarchy.newName names first = hierarchy.newName names second) :
    first = second := by
  cases firstOwn : hierarchy.owns first <;> cases secondOwn : hierarchy.owns second <;>
    simp only [newName, firstOwn, secondOwn, if_true, if_false, Bool.false_eq_true] at equal
  · exact equal
  · obtain ⟨info, member, rfl⟩ := owns_iff.mp secondOwn
    exact absurd equal.symm (respects.fresh info member first firstMem firstOwn)
  · obtain ⟨info, member, rfl⟩ := owns_iff.mp firstOwn
    exact absurd equal (respects.fresh info member second secondMem secondOwn)
  · obtain ⟨info, member, rfl⟩ := owns_iff.mp firstOwn
    obtain ⟨other, otherMem, rfl⟩ := owns_iff.mp secondOwn
    exact respects.injective info member other otherMem equal

/-! ## References -/

/-- A dotted name comes back from a reference to it, whatever brackets stand in front. -/
theorem className?_ofClassName {brackets : List Char} {name : String}
    (allBrackets : ∀ character ∈ brackets, character = '[') (nonempty : name ≠ "")
    (plain : ∀ character ∈ name.toList, character ≠ '/') :
    (⟨String.ofList (brackets ++ (TypeRef.ofClassName name).text.toList)⟩ : TypeRef).className? =
      some name := by
  have unslashed : (name.toList.map fun character =>
      if character = '.' then '/' else character).map (fun character =>
        if character = '/' then '.' else character) = name.toList := by
    rw [List.map_map, List.map_congr_left (g := id), List.map_id]
    intro character member
    by_cases dot : character = '.'
    · simp [dot]
    · simp [dot, plain character member]
  have bare : (brackets ++ (TypeRef.ofClassName name).text.toList).dropWhile (· == '[') =
      'L' :: name.toList.map fun character => if character = '.' then '/' else character := by
    rw [List.dropWhile_append_of_pos]
    · simp [TypeRef.ofClassName]
    · intro character member
      simp [allBrackets character member]
  rw [TypeRef.className?, String.toList_ofList, bare]
  cases letters : name.toList with
  | nil => exact absurd (String.toList_eq_nil_iff.mp letters) nonempty
  | cons first rest =>
      rw [letters] at unslashed
      rw [List.map_cons] at unslashed ⊢
      simp only [unslashed, ← letters, String.ofList_toList]

/-- A reference afterwards is to the class the name of which became the new one. -/
theorem Respects.className?_newType (respects : hierarchy.Respects names) (type : TypeRef) :
    (hierarchy.newType names type).className? =
      type.className?.map (hierarchy.newName names) := by
  rw [newType]
  cases named : type.className? with
  | none => simp [named]
  | some name =>
      cases owned : hierarchy.owns name with
      | false => simp [named, newName, owned]
      | true =>
          obtain ⟨info, member, rfl⟩ := owns_iff.mp owned
          obtain ⟨nonempty, plain⟩ := respects.referable info member
          simp only [if_true, Option.map_some, newName, owned]
          apply className?_ofClassName _ nonempty plain
          intro character bracket
          simpa using List.mem_takeWhile_imp bracket

/-! ## Look-ups -/

theorem Renamed.distinct (renamed : hierarchy.Renamed names copy)
    (respects : hierarchy.Respects names) (distinct : hierarchy.Distinct) : copy.Distinct := by
  have newNames : copy.classes.map ClassInfo.name =
      (hierarchy.classes.map ClassInfo.name).map (hierarchy.newName names) := by
    rw [List.map_map]
    exact (map_eq_map_of_forall₂ renamed.classes fun _ _ same => same.name.symm).symm
  rw [Distinct, newNames]
  apply List.Nodup.map_on _ distinct
  intro first firstMem second secondMem equal
  obtain ⟨info, member, rfl⟩ := List.mem_map.mp firstMem
  obtain ⟨other, otherMem, rfl⟩ := List.mem_map.mp secondMem
  exact respects.newName_injective (name_mem_mentioned member) (name_mem_mentioned otherMem) equal

/-- Looking up the new name of a name that occurs finds the new form of what was found before. -/
theorem Renamed.lookup? (renamed : hierarchy.Renamed names copy)
    (respects : hierarchy.Respects names) (distinct : hierarchy.Distinct) {name : String}
    (occurs : name ∈ hierarchy.mentioned) :
    Option.Rel (hierarchy.RenamedClass names) (hierarchy.lookup? name)
      (copy.lookup? (hierarchy.newName names name)) := by
  cases found : hierarchy.lookup? name with
  | none =>
      have absent : copy.lookup? (hierarchy.newName names name) = none := by
        rw [lookup?_eq_none_iff] at found ⊢
        intro other otherMem equal
        obtain ⟨info, infoMem, same⟩ := exists_mem_left_of_forall₂ renamed.classes otherMem
        rw [same.name] at equal
        exact found info infoMem
          (respects.newName_injective (name_mem_mentioned infoMem) occurs equal)
      rw [absent]
      exact .none
  | some info =>
      obtain ⟨infoMem, rfl⟩ := mem_of_lookup? found
      obtain ⟨other, otherMem, same⟩ := exists_mem_right_of_forall₂ renamed.classes infoMem
      rw [← same.name, (renamed.distinct respects distinct).lookup?_name otherMem]
      exact .some same

/-- Types that occur stay internal or external. -/
theorem Renamed.isInternal (renamed : hierarchy.Renamed names copy)
    (respects : hierarchy.Respects names) (distinct : hierarchy.Distinct) {type : TypeRef}
    (occurs : ∀ name, type.className? = some name → name ∈ hierarchy.mentioned) :
    hierarchy.isInternal type = copy.isInternal (hierarchy.newType names type) := by
  have moved := respects.className?_newType type
  cases named : type.className? with
  | none =>
      rw [named] at moved
      simp only [Hierarchy.isInternal, named, moved, Option.map_none]
  | some name =>
      rw [named] at moved
      have known := map_eq_map_of_rel (renamed.lookup? respects distinct (occurs name named))
        fun _ _ same => same.isApp
      rw [isInternal_of_className named, isInternal_of_className moved, ← known]
      cases found : hierarchy.lookup? name with
      | some info => rfl
      | none =>
          -- An unknown class is not one of the unit's, so it keeps its name.
          have unowned : hierarchy.owns name = false := by
            rw [← Bool.not_eq_true, owns_iff]
            rintro ⟨info, member, equal⟩
            exact lookup?_eq_none_iff.mp found info (mem_own.mp member).1 equal
          simp [isFramework, renamed.framework, newName, unowned]

/-- Types that occur are rendered as before. -/
theorem Renamed.render (renamed : hierarchy.Renamed names copy)
    (respects : hierarchy.Respects names) (distinct : hierarchy.Distinct) {type : TypeRef}
    (occurs : ∀ name, type.className? = some name → name ∈ hierarchy.mentioned) :
    hierarchy.render type = copy.render (hierarchy.newType names type) := by
  rw [Hierarchy.render, Hierarchy.render, ← renamed.isInternal respects distinct occurs]
  cases internal : hierarchy.isInternal type with
  | true => rfl
  | false =>
      -- A class of the unit is internal, so an external type keeps its name.
      have kept : hierarchy.newType names type = type := by
        rw [newType]
        cases named : type.className? with
        | none => rfl
        | some name =>
            cases owned : hierarchy.owns name with
            | false => simp [owned]
            | true =>
                obtain ⟨info, member, rfl⟩ := owns_iff.mp owned
                obtain ⟨infoMem, isApp⟩ := mem_own.mp member
                simp [Hierarchy.isInternal, named, distinct.lookup?_name infoMem, isApp]
                  at internal
      rw [kept]

/-! ## Descriptors -/

/-- A type names the new form of a class when it named the class before. -/
theorem Respects.className?_newType_iff (respects : hierarchy.Respects names) {type : TypeRef}
    {name : String} (occurs : ∀ other, type.className? = some other → other ∈ hierarchy.mentioned)
    (mentioned : name ∈ hierarchy.mentioned) :
    (hierarchy.newType names type).className? = some (hierarchy.newName names name) ↔
      type.className? = some name := by
  rw [respects.className?_newType, Option.map_eq_some_iff]
  constructor
  · rintro ⟨other, named, equal⟩
    rw [named, respects.newName_injective (occurs other named) mentioned equal]
  · intro named
    exact ⟨name, named, rfl⟩

/-- What a class extends is renamed with it. -/
theorem Renamed.superclass (renamed : hierarchy.Renamed names copy)
    (respects : hierarchy.Respects names) (distinct : hierarchy.Distinct) {name : String}
    (occurs : name ∈ hierarchy.mentioned) :
    (copy.lookup? (hierarchy.newName names name)).bind (·.superclass) =
      ((hierarchy.lookup? name).bind (·.superclass)).map (hierarchy.newName names) := by
  rw [Option.map_bind]
  exact (bind_eq_bind_of_rel (renamed.lookup? respects distinct occurs)
    fun _ _ same => same.superclass.symm).symm

/-- When the class around a renamed class is known, so was the one around it before. -/
theorem Renamed.exists_enclosing (renamed : hierarchy.Renamed names copy)
    (respects : hierarchy.Respects names) {info outer : ClassInfo} {around : String}
    (member : info ∈ hierarchy.own)
    (enclosing : (ClassInfo.ofName (names info.name)).enclosing? = some around)
    (found : copy.lookup? around = some outer) :
    ∃ enclosed ∈ hierarchy.classes, info.enclosing? = some enclosed.name ∧
      hierarchy.newName names enclosed.name = around := by
  obtain ⟨outerMem, rfl⟩ := mem_of_lookup? found
  obtain ⟨known, knownMem, same⟩ := exists_mem_left_of_forall₂ renamed.classes outerMem
  by_contra unknown
  have outside : ∀ other ∈ hierarchy.classes, info.enclosing? ≠ some other.name := by
    intro other otherMem enclosed
    have moved := respects.enclosing info member other otherMem enclosed
    rw [enclosing, Option.some.injEq] at moved
    exact unknown ⟨other, otherMem, enclosed, moved.symm⟩
  apply respects.outside info member outside known knownMem
  rw [enclosing, same.name]

/-- A constructor passes the superclass of the class around it as before. -/
theorem Renamed.passesSuperclass (renamed : hierarchy.Renamed names copy)
    (respects : hierarchy.Respects names) (distinct : hierarchy.Distinct)
    {info twin : ClassInfo} (member : info ∈ hierarchy.own)
    (same : hierarchy.RenamedClass names info twin) {first second : TypeRef}
    (firstOccurs : ∀ name, first.className? = some name → name ∈ hierarchy.mentioned)
    (secondOccurs : ∀ name, second.className? = some name → name ∈ hierarchy.mentioned) :
    hierarchy.passesSuperclass info first second =
      copy.passesSuperclass twin (hierarchy.newType names first)
        (hierarchy.newType names second) := by
  have name : twin.name = (ClassInfo.ofName (names info.name)).name := by
    rw [same.name, newName_of_own member]
    rfl
  have anonymous : info.isAnonymous = twin.isAnonymous := by
    rw [respects.isAnonymous info member]
    simp only [ClassInfo.isAnonymous, ClassInfo.nesting, name]
  have around : twin.enclosing? = (ClassInfo.ofName (names info.name)).enclosing? := by
    rw [ClassInfo.enclosing?, ClassInfo.enclosing?, ClassInfo.isInner, ClassInfo.isInner, name]
  rw [Bool.eq_iff_iff, passesSuperclass_iff, passesSuperclass_iff, anonymous,
    renamed.isInternal respects distinct firstOccurs,
    renamed.isInternal respects distinct secondOccurs, around]
  refine and_congr_right fun _ => and_congr_right fun _ => and_congr_right fun _ => ?_
  constructor
  · rintro ⟨outer, superclass, enclosing, extended, firstNamed, secondNamed⟩
    obtain ⟨enclosed, found, extends?⟩ := Option.bind_eq_some_iff.mp extended
    obtain ⟨enclosedMem, rfl⟩ := mem_of_lookup? found
    have outerMem := name_mem_mentioned enclosedMem
    have superclassMem := superclass_mem_mentioned enclosedMem extends?
    refine ⟨hierarchy.newName names enclosed.name, hierarchy.newName names superclass,
      respects.enclosing info member enclosed enclosedMem enclosing, ?_, ?_, ?_⟩
    · rw [renamed.superclass respects distinct outerMem, extended, Option.map_some]
    · exact (respects.className?_newType_iff firstOccurs outerMem).mpr firstNamed
    · exact (respects.className?_newType_iff secondOccurs superclassMem).mpr secondNamed
  · rintro ⟨newOuter, newSuperclass, enclosing, extended, firstNamed, secondNamed⟩
    obtain ⟨twinOuter, found, -⟩ := Option.bind_eq_some_iff.mp extended
    obtain ⟨outer, outerMem, enclosed, rfl⟩ :=
      renamed.exists_enclosing respects member enclosing found
    have mentioned := name_mem_mentioned outerMem
    rw [renamed.superclass respects distinct mentioned, Option.map_eq_some_iff] at extended
    obtain ⟨superclass, extends?, rfl⟩ := extended
    have superclassMem : superclass ∈ hierarchy.mentioned := by
      apply superclass_mem_mentioned outerMem
      simpa [distinct.lookup?_name outerMem] using extends?
    refine ⟨outer.name, superclass, enclosed, extends?, ?_, ?_⟩
    · exact (respects.className?_newType_iff firstOccurs mentioned).mp firstNamed
    · exact (respects.className?_newType_iff secondOccurs superclassMem).mp secondNamed

/-- The fuzzy descriptor of a method is the same afterwards. -/
theorem Renamed.fuzzyDescriptor (renamed : hierarchy.Renamed names copy)
    (respects : hierarchy.Respects names) (distinct : hierarchy.Distinct)
    {info twin : ClassInfo} (member : info ∈ hierarchy.own)
    (same : hierarchy.RenamedClass names info twin) {method renamedMethod : Method}
    (methodMem : method ∈ info.methods)
    (sameMethod : hierarchy.RenamedMethod names method renamedMethod) :
    hierarchy.fuzzyDescriptor info method = copy.fuzzyDescriptor twin renamedMethod := by
  have infoMem := (mem_own.mp member).1
  have occurs {type : TypeRef} (typeMem : type ∈ method.result :: method.parameters) :
      ∀ name, type.className? = some name → name ∈ hierarchy.mentioned :=
    fun _ named => className_mem_mentioned infoMem methodMem typeMem named
  have result : hierarchy.render method.result = copy.render renamedMethod.result := by
    rw [sameMethod.result]
    exact renamed.render respects distinct (occurs List.mem_cons_self)
  have parameters : method.parameters.map hierarchy.render =
      renamedMethod.parameters.map copy.render := by
    rw [sameMethod.parameters, List.map_map]
    apply List.map_congr_left
    intro type typeMem
    exact renamed.render respects distinct (occurs (List.mem_cons_of_mem _ typeMem))
  have nested : info.isNestedAnonymous = twin.isNestedAnonymous := by
    rw [respects.isNestedAnonymous info member]
    simp only [ClassInfo.isNestedAnonymous, ClassInfo.nesting, same.name, newName_of_own member]
    rfl
  have elided : hierarchy.elides info method = copy.elides twin renamedMethod := by
    rw [elides, elides, sameMethod.parameters]
    cases listed : method.parameters with
    | nil => rfl
    | cons first others =>
        cases others with
        | nil => rfl
        | cons second rest =>
            apply renamed.passesSuperclass respects distinct member same
            · exact occurs (by simp [listed])
            · exact occurs (by simp [listed])
  rw [fuzzyDescriptor_eq_descriptorOf, fuzzyDescriptor_eq_descriptorOf, sameMethod.isConstructor,
    result, parameters, nested, elided]

end LibPrint.Hierarchy
