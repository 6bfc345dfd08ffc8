import LibPrint.Proofs.Code.Renaming
import Mathlib.Data.List.DropRight

/-!
# The superclass argument

A constructor of an anonymous class may get the superclass of the class around it as one argument
more. Its descriptor is then that of the constructor without the argument, and this is the only way
in which the descriptor of a constructor departs from the plain one outside of doubly anonymous
classes. Which class a parameter is of is told by class names, and an array has that of its
elements.
-/

namespace LibPrint

namespace TypeRef

/-- The type of what returns nothing. -/
def void : TypeRef := ⟨"V"⟩

/-- The type is the class of the given name itself and no array of it. -/
def IsClass (type : TypeRef) (name : String) : Prop :=
  type.isArray = false ∧ type.className? = some name

instance (type : TypeRef) (name : String) : Decidable (type.IsClass name) :=
  inferInstanceAs (Decidable (_ ∧ _))

/-- A dotted name that comes back from a reference to it. -/
def Referable (name : String) : Prop :=
  name ≠ "" ∧ '/' ∉ name.toList

instance (name : String) : Decidable (Referable name) :=
  inferInstanceAs (Decidable (_ ∧ _))

theorem className?_ofClassName {name : String} (referable : Referable name) :
    (ofClassName name).className? = some name := by
  have unslashed : ∀ character ∈ name.toList, character ≠ '/' := by
    rintro character member rfl
    exact referable.2 member
  have unbracketed : ∀ character ∈ ([] : List Char), character = '[' := by nofun
  simpa using Hierarchy.className?_ofClassName unbracketed referable.1 unslashed

@[simp] theorem className?_element (type : TypeRef) :
    type.element.className? = type.className? := by
  rw [className?, className?, element, String.toList_ofList, List.dropWhile_idempotent]

@[simp] theorem isArray_element (type : TypeRef) : type.element.isArray = false := by
  rw [isArray, element, String.toList_ofList, beq_eq_false_iff_ne]
  intro bracket
  have kept := List.head?_dropWhile_not (· == '[') type.text.toList
  rw [bracket] at kept
  simp at kept

/-- The innermost type of an array, or the type itself, is a class when the type has its name. -/
theorem isClass_element_iff {type : TypeRef} {name : String} :
    type.element.IsClass name ↔ type.className? = some name := by
  rw [IsClass, isArray_element, className?_element, and_iff_right rfl]

end TypeRef

/-- A constructor with the given parameters, which returns nothing. -/
structure Method.IsVoidConstructor (method : Method) (parameters : List TypeRef) : Prop where
  isConstructor : method.isConstructor = true
  parameters : method.parameters = parameters
  result : method.result = .void

instance (method : Method) (parameters : List TypeRef) :
    Decidable (method.IsVoidConstructor parameters) :=
  decidable_of_iff
    (method.isConstructor = true ∧ method.parameters = parameters ∧ method.result = .void)
    ⟨fun ⟨first, second, third⟩ => ⟨first, second, third⟩,
      fun ⟨first, second, third⟩ => ⟨first, second, third⟩⟩

namespace Hierarchy

variable {hierarchy : Hierarchy} {info outer : ClassInfo} {method other : Method}
  {first second : TypeRef} {rest : List TypeRef} {superclass : String}

/-! ## Descriptors of constructors -/

@[simp] theorem render_void (hierarchy : Hierarchy) : hierarchy.render .void = "V" := rfl

theorem render_of_isInternal {type : TypeRef} (internal : hierarchy.isInternal type = true) :
    hierarchy.render type = placeholder :=
  if_pos internal

/-- A class that is part of the unit is internal wherever it is named. -/
theorem isInternal_of_lookup? {type : TypeRef} (found : hierarchy.lookup? outer.name = some outer)
    (isApp : outer.isApp = true) (named : type.className? = some outer.name) :
    hierarchy.isInternal type = true := by
  rw [isInternal_of_className named, found]
  exact isApp

theorem fuzzyDescriptor_of_isNestedAnonymous {parameters : List TypeRef}
    (void : method.IsVoidConstructor parameters) (occupied : parameters ≠ [])
    (nested : info.isNestedAnonymous = true) :
    hierarchy.fuzzyDescriptor info method = nestedConstructor := by
  simp [fuzzyDescriptor_eq_descriptorOf, descriptorOf, void.isConstructor,
    void.parameters, nested, occupied]

/-- A constructor that does not pass the superclass keeps all its parameters. -/
theorem fuzzyDescriptor_of_not_elides {parameters : List TypeRef}
    (void : method.IsVoidConstructor parameters) (flat : info.isNestedAnonymous = false)
    (kept : hierarchy.elides info method = false) :
    hierarchy.fuzzyDescriptor info method = hierarchy.plainDescriptor parameters .void := by
  simp [fuzzyDescriptor_eq_descriptorOf, descriptorOf, plainDescriptor, void.result,
    void.parameters, flat, kept]

/-- A constructor that passes the superclass has the descriptor of one that gets what comes behind
the enclosing instance. -/
theorem fuzzyDescriptor_of_passesSuperclass
    (void : method.IsVoidConstructor (first :: second :: rest))
    (flat : info.isNestedAnonymous = false)
    (passes : hierarchy.passesSuperclass info first second = true) :
    hierarchy.fuzzyDescriptor info method =
      hierarchy.plainDescriptor (second :: rest) .void := by
  have elided : hierarchy.elides info method = true := by
    rw [elides, void.parameters]
    exact passes
  have closing : ")V" = ")" ++ "V" := rfl
  simp [fuzzyDescriptor_eq_descriptorOf, descriptorOf, plainDescriptor, void.isConstructor,
    void.parameters, flat, elided, closing, String.append_assoc]

/-- Internal types look alike, so it does not matter which of them is left out. -/
theorem plainDescriptor_cons_of_isInternal (firstInternal : hierarchy.isInternal first = true)
    (secondInternal : hierarchy.isInternal second = true) (result : TypeRef) :
    hierarchy.plainDescriptor (first :: rest) result =
      hierarchy.plainDescriptor (second :: rest) result := by
  rw [plainDescriptor, plainDescriptor, List.map_cons, List.map_cons,
    render_of_isInternal firstInternal, render_of_isInternal secondInternal]

/-! ## The argument makes no difference -/

/-- Constructors of an anonymous class with and without the superclass argument have one descriptor,
when the next parameter is not of the superclass itself. -/
theorem fuzzyDescriptor_of_superclass (found : hierarchy.lookup? outer.name = some outer)
    (isApp : outer.isApp = true) (extended : outer.superclass = some superclass)
    (internal : hierarchy.isInternal second = true) (anonymous : info.isAnonymous = true)
    (enclosed : info.enclosing? = some outer.name) (firstNamed : first.className? = some outer.name)
    (secondNamed : second.className? = some superclass)
    (apart : ∀ next ∈ rest.head?, next.className? ≠ some superclass)
    (passing : method.IsVoidConstructor (first :: second :: rest))
    (bare : other.IsVoidConstructor (first :: rest)) :
    hierarchy.fuzzyDescriptor info method = hierarchy.fuzzyDescriptor info other := by
  cases nested : info.isNestedAnonymous with
  | true =>
      rw [fuzzyDescriptor_of_isNestedAnonymous passing (List.cons_ne_nil _ _) nested,
        fuzzyDescriptor_of_isNestedAnonymous bare (List.cons_ne_nil _ _) nested]
  | false =>
      have firstInternal := isInternal_of_lookup? found isApp firstNamed
      have extends? : (hierarchy.lookup? outer.name).bind (·.superclass) = some superclass := by
        rw [found]
        exact extended
      have passes : hierarchy.passesSuperclass info first second = true :=
        passesSuperclass_iff.mpr ⟨anonymous, firstInternal, internal, outer.name, superclass,
          enclosed, extends?, firstNamed, secondNamed⟩
      have kept : hierarchy.elides info other = false := by
        rw [elides, bare.parameters]
        cases rest with
        | nil => rfl
        | cons next rest =>
            rw [← Bool.not_eq_true, passesSuperclass_iff]
            rintro ⟨-, -, -, around, injected, enclosing, extending, -, nextNamed⟩
            obtain rfl : outer.name = around := Option.some.inj (enclosed.symm.trans enclosing)
            obtain rfl : superclass = injected := Option.some.inj (extends?.symm.trans extending)
            exact apart next rfl nextNamed
      rw [fuzzyDescriptor_of_passesSuperclass passing nested passes,
        fuzzyDescriptor_of_not_elides bare nested kept]
      exact plainDescriptor_cons_of_isInternal internal firstInternal .void

/-- The same for constructors whose first parameters are the enclosing class and its superclass as
references spell them. Of several classes of one name the hierarchy knows the last. -/
theorem fuzzyDescriptor_of_injected (found : hierarchy.lookup? outer.name = some outer)
    (isApp : outer.isApp = true) (extended : outer.superclass = some superclass)
    (outerReferable : TypeRef.Referable outer.name)
    (superclassReferable : TypeRef.Referable superclass)
    (internal : hierarchy.isInternal (.ofClassName superclass) = true)
    (anonymous : info.isAnonymous = true) (enclosed : info.enclosing? = some outer.name)
    (apart : ∀ next ∈ rest.head?, next.className? ≠ some superclass)
    (passing : method.IsVoidConstructor
      (.ofClassName outer.name :: .ofClassName superclass :: rest))
    (bare : other.IsVoidConstructor (.ofClassName outer.name :: rest)) :
    hierarchy.fuzzyDescriptor info method = hierarchy.fuzzyDescriptor info other :=
  fuzzyDescriptor_of_superclass found isApp extended internal anonymous enclosed
    (TypeRef.className?_ofClassName outerReferable)
    (TypeRef.className?_ofClassName superclassReferable) apart passing bare

/-- The class around is itself a nested one, of two classes of its name the last one counts, and an
array of it follows. -/
theorem fuzzyDescriptor_of_injected_array :
    let outer : ClassInfo := ⟨"a.B$C", some "a.S", true, []⟩
    let hierarchy := Hierarchy.ofClasses none
      [⟨"a.B$C", some "a.T", false, []⟩, outer, .ofName "a.S"] Hierarchy.defaultFramework
    let constructor (parameters : List TypeRef) : Method :=
      ⟨"<init>", .single .isPackage, false, false, parameters, .void⟩
    let rest : List TypeRef := [⟨"[La/B$C"⟩, ⟨"I"⟩, ⟨"Ljava/lang/String"⟩]
    hierarchy.fuzzyDescriptor (.ofName "a.B$C$1")
        (constructor (⟨"La/B$C"⟩ :: ⟨"La/S"⟩ :: rest)) =
      hierarchy.fuzzyDescriptor (.ofName "a.B$C$1") (constructor (⟨"La/B$C"⟩ :: rest)) ∧
    hierarchy.fuzzyDescriptor (.ofName "a.B$C$1") (constructor (⟨"La/B$C"⟩ :: rest)) =
      "(XXILjava/lang/String)V" := by
  intro outer hierarchy constructor rest
  have found : hierarchy.lookup? outer.name = some outer := by decide +kernel
  have internal : hierarchy.isInternal (.ofClassName "a.S") = true := by decide +kernel
  have anonymous : (ClassInfo.ofName "a.B$C$1").isAnonymous = true := by decide +kernel
  have enclosed : (ClassInfo.ofName "a.B$C$1").enclosing? = some outer.name := by decide +kernel
  have apart : ∀ next ∈ rest.head?, next.className? ≠ some "a.S" := by decide +kernel
  refine ⟨fuzzyDescriptor_of_injected found rfl rfl (by decide) (by decide) internal anonymous
    enclosed apart ?_ ?_, ?_⟩
  all_goals decide +kernel

/-- A class that is not the last of its name is not the one that constructors are compared with. -/
theorem fuzzyDescriptor_of_shadowed :
    let outer : ClassInfo := ⟨"a.B", some "a.S", true, []⟩
    let info := ClassInfo.ofName "a.B$1"
    let hierarchy := Hierarchy.ofClasses none
      [outer, .ofName "a.B", .ofName "a.S", info] Hierarchy.defaultFramework
    let constructor (parameters : List TypeRef) : Method :=
      ⟨"<init>", .single .isPackage, false, false, parameters, .void⟩
    (outer ∈ hierarchy.classes ∧ outer.isApp = true ∧ outer.superclass = some "a.S" ∧
      hierarchy.isInternal (.ofClassName "a.S") = true ∧ info.isAnonymous = true ∧
      info.enclosing? = some outer.name) ∧
    hierarchy.fuzzyDescriptor info
        (constructor [.ofClassName "a.B", .ofClassName "a.S", ⟨"I"⟩]) ≠
      hierarchy.fuzzyDescriptor info (constructor [.ofClassName "a.B", ⟨"I"⟩]) := by
  decide +kernel

/-! ## Nothing else is left out -/

theorem plainDescriptor_ne_cons (result : TypeRef) (internal : hierarchy.isInternal first = true)
    (rest : List TypeRef) :
    hierarchy.plainDescriptor rest result ≠ hierarchy.plainDescriptor (first :: rest) result := by
  intro same
  have lengths := congrArg String.length same
  simp [plainDescriptor, render_of_isInternal internal, placeholder] at lengths

/-- A void constructor of an anonymous class that is in no other anonymous class has another
descriptor than the plain one exactly when its first two parameters are internal, the first of them
the enclosing class and the second what the hierarchy's class of that name extends, each of them
possibly with array dimensions. -/
theorem fuzzyDescriptor_ne_plainDescriptor_iff {parameters : List TypeRef}
    (void : method.IsVoidConstructor parameters) (anonymous : info.isAnonymous = true)
    (flat : info.isNestedAnonymous = false) :
    hierarchy.fuzzyDescriptor info method ≠ hierarchy.plainDescriptor parameters .void ↔
      ∃ first second rest outer superclass, parameters = first :: second :: rest ∧
        info.enclosing? = some outer.name ∧ hierarchy.lookup? outer.name = some outer ∧
        outer.superclass = some superclass ∧ hierarchy.isInternal first = true ∧
        hierarchy.isInternal second = true ∧ first.element.IsClass outer.name ∧
        second.element.IsClass superclass := by
  constructor
  · intro differs
    have elided : hierarchy.elides info method = true := by
      by_contra kept
      rw [Bool.not_eq_true] at kept
      exact differs (fuzzyDescriptor_of_not_elides void flat kept)
    rw [elides, void.parameters] at elided
    rcases parameters with _ | ⟨first, _ | ⟨second, rest⟩⟩
    · cases elided
    · cases elided
    · obtain ⟨-, firstInternal, secondInternal, around, superclass, enclosing, extending,
        firstNamed, secondNamed⟩ := passesSuperclass_iff.mp elided
      obtain ⟨outer, found, extended⟩ := Option.bind_eq_some_iff.mp extending
      obtain ⟨-, rfl⟩ := mem_of_lookup? found
      exact ⟨first, second, rest, outer, superclass, rfl, enclosing, found, extended, firstInternal,
        secondInternal, TypeRef.isClass_element_iff.mpr firstNamed,
        TypeRef.isClass_element_iff.mpr secondNamed⟩
  · rintro ⟨first, second, rest, outer, superclass, rfl, enclosing, found, extended, firstInternal,
      secondInternal, firstClass, secondClass⟩
    have extending : (hierarchy.lookup? outer.name).bind (·.superclass) = some superclass := by
      rw [found]
      exact extended
    have passes : hierarchy.passesSuperclass info first second = true :=
      passesSuperclass_iff.mpr ⟨anonymous, firstInternal, secondInternal, outer.name, superclass,
        enclosing, extending, TypeRef.isClass_element_iff.mp firstClass,
        TypeRef.isClass_element_iff.mp secondClass⟩
    rw [fuzzyDescriptor_of_passesSuperclass void flat passes]
    exact plainDescriptor_ne_cons .void firstInternal (second :: rest)

/-- A captured array of the superclass is left out although it is not the superclass. -/
theorem fuzzyDescriptor_ne_plainDescriptor_captured :
    let outer : ClassInfo := ⟨"a.B", some "a.S", true, []⟩
    let hierarchy := Hierarchy.ofClasses none [outer, .ofName "a.B$1"] Hierarchy.defaultFramework
    let method : Method :=
      ⟨"<init>", .single .isPackage, false, false, [⟨"La/B"⟩, ⟨"[La/S"⟩, ⟨"J"⟩], .void⟩
    (ClassInfo.ofName "a.B$1").isAnonymous = true ∧
      (ClassInfo.ofName "a.B$1").isNestedAnonymous = false ∧
      hierarchy.fuzzyDescriptor (.ofName "a.B$1") method ≠
        hierarchy.plainDescriptor [⟨"La/B"⟩, ⟨"[La/S"⟩, ⟨"J"⟩] .void := by
  intro outer hierarchy method
  have anonymous : (ClassInfo.ofName "a.B$1").isAnonymous = true := by decide +kernel
  have flat : (ClassInfo.ofName "a.B$1").isNestedAnonymous = false := by decide +kernel
  have void : method.IsVoidConstructor [⟨"La/B"⟩, ⟨"[La/S"⟩, ⟨"J"⟩] := by decide +kernel
  refine ⟨anonymous, flat, (fuzzyDescriptor_ne_plainDescriptor_iff void anonymous flat).mpr ?_⟩
  refine ⟨⟨"La/B"⟩, ⟨"[La/S"⟩, [⟨"J"⟩], outer, "a.S", rfl, ?_⟩
  decide +kernel

/-- Arrays of the enclosing class and of its superclass are taken for the two classes. -/
theorem fuzzyDescriptor_of_arrays :
    let info := ClassInfo.ofName "a.B$1"
    let hierarchy := Hierarchy.ofClasses none
      [⟨"a.B", some "a.S", true, []⟩, info] Hierarchy.defaultFramework
    let constructor (parameters : List TypeRef) : Method :=
      ⟨"<init>", .single .isPackage, false, false, parameters, .void⟩
    let differs (parameters : List TypeRef) : Prop :=
      hierarchy.fuzzyDescriptor info (constructor parameters) ≠
        hierarchy.plainDescriptor parameters .void
    info.isAnonymous = true ∧ info.isNestedAnonymous = false ∧
      (differs [⟨"La/B"⟩, ⟨"[La/S"⟩] ∧ ¬ (⟨"[La/S"⟩ : TypeRef).IsClass "a.S") ∧
      (differs [⟨"[La/B"⟩, ⟨"La/S"⟩] ∧ ¬ (⟨"[La/B"⟩ : TypeRef).IsClass "a.B") := by
  decide +kernel

end Hierarchy

end LibPrint
