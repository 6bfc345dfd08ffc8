import LibPrint.Code.Hierarchy
import Mathlib.Data.List.Nodup

/-!
# What descriptors depend on

A fuzzy descriptor reads its hierarchy through look-ups: which class has a name, whether a type is
internal, and what the class around an anonymous one extends. Here look-ups are tied to membership,
and the descriptor is written as a function of the few things it depends on, so that two runs are
compared by comparing these.
-/

namespace LibPrint

namespace Hierarchy

/-! ## Look-ups -/

/-- No two classes have the same name. -/
def Distinct (hierarchy : Hierarchy) : Prop :=
  (hierarchy.classes.map ClassInfo.name).Nodup

variable {hierarchy : Hierarchy} {name : String} {info : ClassInfo}

theorem Distinct.eq_of_name (distinct : hierarchy.Distinct) {other : ClassInfo}
    (infoMem : info ∈ hierarchy.classes) (otherMem : other ∈ hierarchy.classes)
    (equal : info.name = other.name) : info = other :=
  List.inj_on_of_nodup_map distinct infoMem otherMem equal

theorem mem_of_lookup? (found : hierarchy.lookup? name = some info) :
    info ∈ hierarchy.classes ∧ info.name = name := by
  have member := List.mem_of_find?_eq_some found
  have named := List.find?_some found
  exact ⟨List.mem_reverse.mp member, by simpa using named⟩

theorem lookup?_eq_none_iff :
    hierarchy.lookup? name = none ↔ ∀ info ∈ hierarchy.classes, info.name ≠ name := by
  simp [lookup?, List.find?_eq_none]

/-- With distinct names a class is found under its own. -/
theorem Distinct.lookup?_name (distinct : hierarchy.Distinct)
    (member : info ∈ hierarchy.classes) : hierarchy.lookup? info.name = some info := by
  cases found : hierarchy.lookup? info.name with
  | none => exact absurd rfl (lookup?_eq_none_iff.mp found info member)
  | some other =>
      obtain ⟨otherMem, named⟩ := mem_of_lookup? found
      rw [distinct.eq_of_name otherMem member named]

section Related

variable {related : ClassInfo → ClassInfo → Prop} {left right : Option ClassInfo} {α : Type}

/-- Look-ups that find related classes, or nothing both, agree in what the classes agree in. -/
theorem map_eq_map_of_rel {image other : ClassInfo → α} (paired : Option.Rel related left right)
    (same : ∀ info twin, related info twin → image info = other twin) :
    left.map image = right.map other := by
  cases paired with
  | none => rfl
  | some pair => exact congrArg some (same _ _ pair)

theorem bind_eq_bind_of_rel {image other : ClassInfo → Option α}
    (paired : Option.Rel related left right)
    (same : ∀ info twin, related info twin → image info = other twin) :
    left.bind image = right.bind other := by
  cases paired with
  | none => rfl
  | some pair => exact same _ _ pair

end Related

/-- A type that names a class is internal as the class is, or else by its name. -/
theorem isInternal_of_className {type : TypeRef} (named : type.className? = some name) :
    hierarchy.isInternal type =
      ((hierarchy.lookup? name).map (·.isApp)).getD (!hierarchy.isFramework name) := by
  rw [isInternal, named]
  cases found : hierarchy.lookup? name <;> simp [found]

/-! ## The superclass argument -/

/-- When a constructor passes the superclass of the class around it. -/
theorem passesSuperclass_iff {first second : TypeRef} :
    hierarchy.passesSuperclass info first second = true ↔
      info.isAnonymous = true ∧ hierarchy.isInternal first = true ∧
        hierarchy.isInternal second = true ∧
        ∃ outer superclass, info.enclosing? = some outer ∧
          (hierarchy.lookup? outer).bind (·.superclass) = some superclass ∧
          first.className? = some outer ∧ second.className? = some superclass := by
  rw [passesSuperclass, Bool.and_eq_true, Bool.and_eq_true, Bool.and_eq_true, and_assoc, and_assoc]
  cases enclosing : info.enclosing? with
  | none => simp
  | some outer =>
      cases extended : (hierarchy.lookup? outer).bind (·.superclass) with
      | none => simp [extended]
      | some superclass => simp [extended]

/-- Whether the first parameter of a method is left out. -/
def elides (hierarchy : Hierarchy) (info : ClassInfo) (method : Method) : Bool :=
  match method.parameters with
  | first :: second :: _ => hierarchy.passesSuperclass info first second
  | _ => false

/-! ## The descriptor -/

/-- The fuzzy descriptor of a method with the given parameters and result, already rendered. -/
def descriptorOf (constructor nested elided : Bool) (parameters : List String) (result : String) :
    String :=
  let plain := "(" ++ String.join parameters ++ ")" ++ result
  if !constructor || parameters.isEmpty then plain
  else if nested then nestedConstructor
  else if elided then "(" ++ String.join parameters.tail ++ ")V"
  else plain

/-- A fuzzy descriptor depends on the rendered types and on three yes-or-no questions. -/
theorem fuzzyDescriptor_eq_descriptorOf (hierarchy : Hierarchy) (info : ClassInfo)
    (method : Method) :
    hierarchy.fuzzyDescriptor info method =
      descriptorOf method.isConstructor info.isNestedAnonymous (hierarchy.elides info method)
        (method.parameters.map hierarchy.render) (hierarchy.render method.result) := by
  rw [fuzzyDescriptor, descriptorOf, plainDescriptor, elides]
  cases method.isConstructor with
  | false => rfl
  | true =>
      cases method.parameters with
      | nil => rfl
      | cons first others =>
          cases others with
          | nil => cases info.isNestedAnonymous <;> rfl
          | cons second rest => cases info.isNestedAnonymous <;> rfl

end Hierarchy

end LibPrint
