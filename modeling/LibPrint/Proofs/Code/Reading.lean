import LibPrint.Proofs.Code.Descriptor
import Mathlib.Data.List.Chain
import Mathlib.Data.List.TakeWhile

/-!
# Reading descriptors back

A descriptor is the renderings of its types, one behind the other, and nothing else says where one
of them ends. A primitive type and a hidden one are a single letter, behind any array dimensions. A
class name has no end of its own, since its semicolon is not kept: what stands behind it reads as
part of it, up to the next bracket or parenthesis.

So two descriptors are equal exactly when the renderings are, as far as they can be told apart
(`legible`). When every class name is last or has an array behind it, all of them can.
-/

namespace LibPrint

/-! ## References -/

namespace TypeRef

/-- A part of a class name between slashes. -/
def IsIdentifier (part : String) : Prop :=
  part ≠ "" ∧ ∀ character ∈ part.toList, character ∉ ['.', ';', '[', '/', '(', ')']

instance (part : String) : Decidable (IsIdentifier part) :=
  @instDecidableAnd _ _ inferInstance (List.decidableBAll _ _)

/-- References that name a type: a primitive one, a class, or an array of either. -/
inductive WellFormed : TypeRef → Prop
  | primitive (letter : String) : letter ∈ primitives → WellFormed ⟨letter⟩
  | «class» (parts : List String) : parts ≠ [] → (∀ part ∈ parts, IsIdentifier part) →
      WellFormed ⟨"L" ++ "/".intercalate parts⟩
  | array (element : TypeRef) : WellFormed element → WellFormed ⟨"[" ++ element.text⟩

end TypeRef

/-! ## Renderings -/

namespace Rendering

/-- Whether a rendering ends in the name of a class. -/
def endsInName (text : List Char) : Bool :=
  (text.dropWhile (· == '[')).head? == some 'L'

/-- Whether a rendering begins with an array dimension. -/
def beginsArray (text : List Char) : Bool :=
  text.head? == some '['

/-- Whether what stands behind a rendering reads as part of it. -/
def absorbs (text next : String) : Bool :=
  endsInName text.toList && !beginsArray next.toList

/-- Renderings of which none reads as part of the one before. -/
def Delimited (texts : List String) : Prop :=
  texts.IsChain fun text next => absorbs text next = false

/-- The renderings as far as they can be told apart, the first of which is read up to its end or
beyond. -/
def legibleFrom (text : String) : List String → List String
  | [] => [text]
  | next :: texts =>
      if absorbs text next then legibleFrom (text ++ next) texts
      else text :: legibleFrom next texts

/-- The renderings as far as they can be told apart. -/
def legible : List String → List String
  | [] => []
  | text :: texts => legibleFrom text texts

/-- What renderings look like. -/
inductive IsToken : List Char → Prop
  | letter {character : Char} : character ∉ ['[', 'L', ')'] → IsToken [character]
  | name {characters : List Char} : (∀ character ∈ characters, character ∉ ['[', ')']) →
      IsToken ('L' :: characters)
  | array {token : List Char} : IsToken token → IsToken ('[' :: token)

instance (texts : List String) : Decidable (Delimited texts) :=
  inferInstanceAs (Decidable (List.IsChain _ _))

/-- What may stand behind the name of a class. -/
def Stops (rest : List Char) : Prop :=
  ∀ character ∈ rest.head?, character ∈ ['[', ')']

/-! ### One rendering -/

@[simp] theorem endsInName_array (token : List Char) :
    endsInName ('[' :: token) = endsInName token := by
  simp [endsInName]

@[simp] theorem endsInName_name (characters : List Char) :
    endsInName ('L' :: characters) = true := by
  simp [endsInName]

theorem endsInName_letter {character : Char} (closed : character ∉ ['[', 'L', ')']) :
    endsInName [character] = false := by
  simp only [List.mem_cons, not_or] at closed
  simp [endsInName, closed]

/-- A rendering is not the end of the parameters. -/
theorem IsToken.exists_cons {token : List Char} (isToken : IsToken token) :
    ∃ character characters, token = character :: characters ∧ character ≠ ')' := by
  cases isToken with
  | letter closed =>
      refine ⟨_, _, rfl, ?_⟩
      rintro rfl
      simp at closed
  | name => exact ⟨_, _, rfl, by decide⟩
  | array => exact ⟨_, _, rfl, by decide⟩

/-- A name is read up to where it has to stop. -/
theorem takeWhile_name {name rest : List Char}
    (plain : ∀ character ∈ name, character ∉ ['[', ')']) (stops : Stops rest) :
    (name ++ rest).takeWhile (· ∉ ['[', ')']) = name := by
  rw [List.takeWhile_append_of_pos fun character member => decide_eq_true (plain character member)]
  cases rest with
  | nil => simp
  | cons character rest =>
      have stop := stops character rfl
      rw [List.takeWhile_cons, if_neg (by simpa only [decide_eq_true_eq, not_not] using stop),
        List.append_nil]

/-- A rendering is told from what stands behind it. -/
theorem IsToken.append_inj {token other rest behind : List Char} (isToken : IsToken token)
    (isOther : IsToken other) (stops : endsInName token = true → Stops rest)
    (otherStops : endsInName other = true → Stops behind)
    (same : token ++ rest = other ++ behind) : token = other ∧ rest = behind := by
  induction isToken generalizing other with
  | letter closed =>
      cases isOther with
      | letter => simpa using same
      | name =>
          obtain ⟨rfl, -⟩ := List.cons.inj same
          simp at closed
      | array =>
          obtain ⟨rfl, -⟩ := List.cons.inj same
          simp at closed
  | @name name plain =>
      cases isOther with
      | letter closed =>
          obtain ⟨rfl, -⟩ := List.cons.inj same
          simp at closed
      | @name otherName otherPlain =>
          have same : name ++ rest = otherName ++ behind := (List.cons.inj same).2
          -- Only a class name needs what stands behind it to know its own end.
          have equal : name = otherName := by
            rw [← takeWhile_name plain (stops (endsInName_name _)), same,
              takeWhile_name otherPlain (otherStops (endsInName_name _))]
          subst equal
          exact ⟨rfl, List.append_cancel_left same⟩
      | array => cases (List.cons.inj same).1
  | array _ ih =>
      cases isOther with
      | letter closed =>
          obtain ⟨rfl, -⟩ := List.cons.inj same
          simp at closed
      | name => cases (List.cons.inj same).1
      | array isOther =>
          rw [endsInName_array] at stops otherStops
          obtain ⟨rfl, rests⟩ := ih isOther stops otherStops (List.cons.inj same).2
          exact ⟨rfl, rests⟩

/-! ### A list of renderings -/

/-- What is absorbed makes a name longer and nothing else. -/
theorem IsToken.append {token next : List Char} (isToken : IsToken token)
    (ends : endsInName token = true) (isNext : IsToken next) (flat : beginsArray next = false) :
    IsToken (token ++ next) := by
  induction isToken with
  | letter closed =>
      rw [endsInName_letter closed] at ends
      cases ends
  | @name name plain =>
      refine .name fun character member => ?_
      rcases List.mem_append.mp member with own | absorbed
      · exact plain character own
      · cases isNext with
        | letter closed =>
            rw [List.mem_singleton] at absorbed
            subst absorbed
            simp only [List.mem_cons, not_or] at closed ⊢
            exact ⟨closed.1, closed.2.2⟩
        | name others =>
            rcases List.mem_cons.mp absorbed with rfl | absorbed
            · decide
            · exact others character absorbed
        | array => simp [beginsArray] at flat
  | array _ ih =>
      rw [endsInName_array] at ends
      exact .array (ih ends)

theorem beginsArray_append {token : List Char} (isToken : IsToken token) (behind : List Char) :
    beginsArray (token ++ behind) = beginsArray token := by
  obtain ⟨character, characters, rfl, -⟩ := isToken.exists_cons
  rfl

variable {text : String} {texts : List String}

theorem isToken_append_of_absorbs {next : String} (isToken : IsToken text.toList)
    (isNext : IsToken next.toList) (absorbed : absorbs text next = true) :
    IsToken (text ++ next).toList := by
  rw [absorbs, Bool.and_eq_true, Bool.not_eq_true'] at absorbed
  rw [String.toList_append]
  exact isToken.append absorbed.1 isNext absorbed.2

theorem isToken_of_mem_legibleFrom (tokens : ∀ token ∈ text :: texts, IsToken token.toList) :
    ∀ token ∈ legibleFrom text texts, IsToken token.toList := by
  induction texts generalizing text with
  | nil => exact tokens
  | cons next texts ih =>
      obtain ⟨isToken, tokens⟩ := List.forall_mem_cons.mp tokens
      obtain ⟨isNext, others⟩ := List.forall_mem_cons.mp tokens
      rw [legibleFrom]
      split
      · next absorbed =>
        have longer := isToken_append_of_absorbs isToken isNext absorbed
        exact ih (List.forall_mem_cons.mpr ⟨longer, others⟩)
      · exact List.forall_mem_cons.mpr ⟨isToken, ih tokens⟩

/-- Nothing is lost. -/
theorem join_legibleFrom (text : String) (texts : List String) :
    String.join (legibleFrom text texts) = text ++ String.join texts := by
  induction texts generalizing text with
  | nil => simp [legibleFrom]
  | cons next texts ih =>
      rw [legibleFrom]
      split
      · rw [ih, String.join_cons, String.append_assoc]
      · rw [String.join_cons, ih, String.join_cons]

/-- The first rendering is read up to its end at least. -/
theorem exists_legibleFrom_eq (text : String) (texts : List String) :
    ∃ behind others, legibleFrom text texts = (text ++ behind) :: others := by
  induction texts generalizing text with
  | nil => exact ⟨"", [], by simp [legibleFrom]⟩
  | cons next texts ih =>
      rw [legibleFrom]
      split
      · obtain ⟨behind, others, equal⟩ := ih (text ++ next)
        exact ⟨next ++ behind, others, by rw [equal, String.append_assoc]⟩
      · exact ⟨"", legibleFrom next texts, by rw [String.append_empty]⟩

theorem delimited_legibleFrom (tokens : ∀ token ∈ text :: texts, IsToken token.toList) :
    Delimited (legibleFrom text texts) := by
  induction texts generalizing text with
  | nil => exact .singleton _
  | cons next texts ih =>
      obtain ⟨isToken, tokens⟩ := List.forall_mem_cons.mp tokens
      obtain ⟨isNext, others⟩ := List.forall_mem_cons.mp tokens
      rw [legibleFrom]
      split
      · next absorbed =>
        have longer := isToken_append_of_absorbs isToken isNext absorbed
        exact ih (List.forall_mem_cons.mpr ⟨longer, others⟩)
      · next kept =>
        refine List.isChain_cons.mpr ⟨?_, ih tokens⟩
        -- The next one may be made longer, but it still begins as it did.
        obtain ⟨behind, others, equal⟩ := exists_legibleFrom_eq next texts
        rw [equal]
        rintro _ ⟨⟩
        rw [absorbs, String.toList_append, beginsArray_append isNext]
        exact Bool.eq_false_iff.mpr kept

/-- Renderings that do not run into each other are legible as they are. -/
theorem legible_of_delimited (delimited : Delimited texts) : legible texts = texts := by
  cases texts with
  | nil => rfl
  | cons text texts =>
      rw [legible]
      induction texts generalizing text with
      | nil => rfl
      | cons next texts ih =>
          obtain ⟨kept, delimited⟩ := List.isChain_cons_cons.mp delimited
          rw [legibleFrom, kept, if_neg Bool.false_ne_true, ih next delimited]

/-! ### Reading -/

/-- Behind a rendering there is a place to stop, when the next one does not read as part of it. -/
theorem stops_of_delimited (delimited : Delimited (text :: texts))
    (tokens : ∀ token ∈ texts, IsToken token.toList) (result : List Char)
    (ends : endsInName text.toList = true) :
    Stops ((String.join texts).toList ++ ')' :: result) := by
  cases texts with
  | nil =>
      rintro _ ⟨⟩
      decide
  | cons next texts =>
      have kept := (List.isChain_cons_cons.mp delimited).1
      obtain ⟨character, characters, spelled, -⟩ :=
        (tokens next List.mem_cons_self).exists_cons
      rw [absorbs, ends, Bool.true_and, Bool.not_eq_false', spelled] at kept
      rw [String.join_cons, String.toList_append, spelled]
      rintro _ ⟨⟩
      rw [beginsArray, List.head?_cons, beq_iff_eq, Option.some.injEq] at kept
      rw [kept]
      decide

/-- The closing parenthesis is not taken for a rendering. -/
theorem join_ne_close (isToken : IsToken text.toList) (texts : List String)
    (rest behind : List Char) :
    (String.join (text :: texts)).toList ++ rest ≠ ')' :: behind := by
  obtain ⟨character, characters, spelled, apart⟩ := isToken.exists_cons
  rw [String.join_cons, String.toList_append, spelled]
  exact fun same => apart (List.cons.inj same).1

/-- Delimited renderings are read back from the text they make up. -/
theorem eq_of_delimited {lefts rights : List String} {result other : List Char}
    (leftTokens : ∀ token ∈ lefts, IsToken token.toList)
    (rightTokens : ∀ token ∈ rights, IsToken token.toList) (leftDelimited : Delimited lefts)
    (rightDelimited : Delimited rights)
    (same : (String.join lefts).toList ++ ')' :: result =
      (String.join rights).toList ++ ')' :: other) : lefts = rights ∧ result = other := by
  induction lefts generalizing rights with
  | nil =>
      cases rights with
      | nil => exact ⟨rfl, (List.cons.inj same).2⟩
      | cons right rights =>
          have isToken := rightTokens right List.mem_cons_self
          exact absurd same.symm (join_ne_close isToken rights _ _)
  | cons left lefts ih =>
      cases rights with
      | nil =>
          have isToken := leftTokens left List.mem_cons_self
          exact absurd same (join_ne_close isToken lefts _ _)
      | cons right rights =>
          obtain ⟨leftToken, leftOthers⟩ := List.forall_mem_cons.mp leftTokens
          obtain ⟨rightToken, rightOthers⟩ := List.forall_mem_cons.mp rightTokens
          rw [String.join_cons, String.join_cons, String.toList_append, String.toList_append,
            List.append_assoc, List.append_assoc] at same
          obtain ⟨first, rest⟩ := leftToken.append_inj rightToken
            (stops_of_delimited leftDelimited leftOthers result)
            (stops_of_delimited rightDelimited rightOthers other) same
          obtain ⟨others, results⟩ := ih leftOthers rightOthers
            (List.isChain_cons.mp leftDelimited).2 (List.isChain_cons.mp rightDelimited).2 rest
          rw [String.toList_inj.mp first, others]
          exact ⟨rfl, results⟩

theorem join_legible (texts : List String) : String.join (legible texts) = String.join texts := by
  cases texts with
  | nil => rfl
  | cons text texts => rw [legible, join_legibleFrom, String.join_cons]

theorem isToken_of_mem_legible (tokens : ∀ token ∈ texts, IsToken token.toList) :
    ∀ token ∈ legible texts, IsToken token.toList := by
  cases texts with
  | nil => exact tokens
  | cons text texts => exact isToken_of_mem_legibleFrom tokens

theorem delimited_legible (tokens : ∀ token ∈ texts, IsToken token.toList) :
    Delimited (legible texts) := by
  cases texts with
  | nil => exact .nil
  | cons text texts => exact delimited_legibleFrom tokens

/-- What can be told apart is all that is lost when renderings are put behind each other. -/
theorem join_eq_iff_legible {lefts rights : List String} {result other : List Char}
    (leftTokens : ∀ token ∈ lefts, IsToken token.toList)
    (rightTokens : ∀ token ∈ rights, IsToken token.toList) :
    (String.join lefts).toList ++ ')' :: result = (String.join rights).toList ++ ')' :: other ↔
      legible lefts = legible rights ∧ result = other := by
  constructor
  · intro same
    rw [← join_legible lefts, ← join_legible rights] at same
    exact eq_of_delimited (isToken_of_mem_legible leftTokens) (isToken_of_mem_legible rightTokens)
      (delimited_legible leftTokens) (delimited_legible rightTokens) same
  · rintro ⟨legibles, rfl⟩
    rw [← join_legible lefts, legibles, join_legible]

example : legible ["Ljava/lang/String", "I", "[B", "J"] = ["Ljava/lang/StringI", "[B", "J"] := by
  decide

end Rendering

/-! ## Renderings of references -/

namespace TypeRef

theorem not_mem_intercalate {parts : List String} (identifiers : ∀ part ∈ parts, IsIdentifier part) :
    ∀ character ∈ ("/".intercalate parts).toList, character ∉ ['[', ')'] := by
  have plain {part : String} (identifier : IsIdentifier part) :
      ∀ character ∈ part.toList, character ∉ ['[', ')'] := by
    intro character member
    have absent := identifier.2 character member
    simp only [List.mem_cons, not_or] at absent ⊢
    tauto
  induction parts with
  | nil => simp
  | cons part parts ih =>
      obtain ⟨identifier, others⟩ := List.forall_mem_cons.mp identifiers
      cases parts with
      | nil =>
          rw [String.intercalate_singleton]
          exact plain identifier
      | cons next parts =>
          intro character member
          rw [String.intercalate_cons_cons, String.toList_append, String.toList_append,
            List.mem_append, List.mem_append] at member
          rcases member with (own | slash) | behind
          · exact plain identifier character own
          · rw [List.mem_singleton.mp slash]
            decide
          · exact ih others character behind

theorem WellFormed.isToken {type : TypeRef} (formed : type.WellFormed) :
    Rendering.IsToken type.text.toList := by
  induction formed with
  | primitive letter known =>
      have letters : ∀ letter ∈ primitives,
          letter.toList.length = 1 ∧ letter.toList.all (· ∉ ['[', 'L', ')']) = true := by decide
      obtain ⟨single, closed⟩ := letters letter known
      obtain ⟨character, spelled⟩ := List.length_eq_one_iff.mp single
      rw [spelled] at closed ⊢
      exact .letter (by simpa using closed)
  | «class» parts _ identifiers =>
      rw [String.toList_append]
      exact .name (not_mem_intercalate identifiers)
  | array element _ ih =>
      rw [String.toList_append]
      exact .array ih

/-- No type is taken for a hidden one. -/
theorem WellFormed.text_ne_placeholder {type : TypeRef} (formed : type.WellFormed) :
    type.text ≠ Hierarchy.placeholder := by
  cases formed with
  | primitive letter known =>
      have apart : ∀ letter ∈ primitives, letter ≠ Hierarchy.placeholder := by decide
      exact apart letter known
  | «class» =>
      intro same
      have letters := congrArg String.toList same
      rw [String.toList_append] at letters
      exact absurd (List.cons.inj letters).1 (by decide)
  | array =>
      intro same
      have letters := congrArg String.toList same
      rw [String.toList_append] at letters
      exact absurd (List.cons.inj letters).1 (by decide)

end TypeRef

namespace Hierarchy

open Rendering (Delimited legible)

/-- Two types are shown alike when both are hidden, or when they are the same type and it is not. -/
def ShownAlike (hierarchy : Hierarchy) (left right : TypeRef) : Prop :=
  hierarchy.isInternal left = hierarchy.isInternal right ∧
    (hierarchy.isInternal left = false → left = right)

/-- The parameters of a method as they are shown. -/
def shown (hierarchy : Hierarchy) (method : Method) : List String :=
  method.parameters.map hierarchy.render

variable {hierarchy : Hierarchy} {left right : TypeRef} {method other : Method}

theorem isToken_render (formed : left.WellFormed) :
    Rendering.IsToken (hierarchy.render left).toList := by
  rw [render]
  split
  · exact .letter (by decide)
  · exact formed.isToken

theorem render_eq_iff (leftFormed : left.WellFormed) (rightFormed : right.WellFormed) :
    hierarchy.render left = hierarchy.render right ↔ hierarchy.ShownAlike left right := by
  rw [render, render, ShownAlike]
  cases hierarchy.isInternal left with
  | true =>
      cases hierarchy.isInternal right with
      | true => simp
      | false => simpa using rightFormed.text_ne_placeholder.symm
  | false =>
      cases hierarchy.isInternal right with
      | true => simpa using leftFormed.text_ne_placeholder
      | false =>
          cases left
          cases right
          simp

theorem forall₂_shownAlike {lefts rights : List TypeRef}
    (leftFormed : ∀ type ∈ lefts, type.WellFormed) (rightFormed : ∀ type ∈ rights, type.WellFormed)
    (same : lefts.map hierarchy.render = rights.map hierarchy.render) :
    List.Forall₂ hierarchy.ShownAlike lefts rights := by
  induction lefts generalizing rights with
  | nil =>
      obtain rfl := List.map_eq_nil_iff.mp same.symm
      exact .nil
  | cons left lefts ih =>
      cases rights with
      | nil => cases same
      | cons right rights =>
          obtain ⟨leftHead, leftTail⟩ := List.forall_mem_cons.mp leftFormed
          obtain ⟨rightHead, rightTail⟩ := List.forall_mem_cons.mp rightFormed
          obtain ⟨head, tail⟩ := List.cons.inj same
          exact .cons ((render_eq_iff leftHead rightHead).mp head) (ih leftTail rightTail tail)

/-- The descriptor of a method that is no constructor shows all its types. -/
theorem toList_fuzzyDescriptor (plain : method.isConstructor = false) (info : ClassInfo) :
    (hierarchy.fuzzyDescriptor info method).toList =
      '(' :: ((String.join (hierarchy.shown method)).toList ++
        ')' :: (hierarchy.render method.result).toList) := by
  rw [fuzzyDescriptor_eq_descriptorOf, descriptorOf, plain]
  simp [shown]

theorem isToken_of_mem_shown (formed : ∀ type ∈ method.parameters, type.WellFormed) :
    ∀ token ∈ hierarchy.shown method, Rendering.IsToken token.toList :=
  List.forall_mem_map.mpr fun type member => isToken_render (formed type member)

/-- What a descriptor tells of the types of a method. -/
theorem fuzzyDescriptor_eq_iff_legible (hierarchy : Hierarchy) (info around : ClassInfo)
    (plain : method.isConstructor = false) (otherPlain : other.isConstructor = false)
    (formed : ∀ type ∈ method.result :: method.parameters, type.WellFormed)
    (otherFormed : ∀ type ∈ other.result :: other.parameters, type.WellFormed) :
    hierarchy.fuzzyDescriptor info method = hierarchy.fuzzyDescriptor around other ↔
      legible (hierarchy.shown method) = legible (hierarchy.shown other) ∧
        hierarchy.ShownAlike method.result other.result := by
  obtain ⟨resultFormed, parametersFormed⟩ := List.forall_mem_cons.mp formed
  obtain ⟨otherResultFormed, othersFormed⟩ := List.forall_mem_cons.mp otherFormed
  rw [← String.toList_inj, toList_fuzzyDescriptor plain, toList_fuzzyDescriptor otherPlain,
    List.cons_inj_right, Rendering.join_eq_iff_legible (isToken_of_mem_shown parametersFormed)
      (isToken_of_mem_shown othersFormed), String.toList_inj,
    render_eq_iff resultFormed otherResultFormed]

/-- Methods that are no constructors have equal descriptors exactly when their results are shown
alike and their parameters are the same as far as these can be told apart. When every class name
among the parameters shown is the last or has an array behind it, equal descriptors show as many
parameters, and all of them alike. -/
theorem fuzzyDescriptor_eq_iff (hierarchy : Hierarchy) (info around : ClassInfo)
    (plain : method.isConstructor = false) (otherPlain : other.isConstructor = false)
    (formed : ∀ type ∈ method.result :: method.parameters, type.WellFormed)
    (otherFormed : ∀ type ∈ other.result :: other.parameters, type.WellFormed) :
    (hierarchy.fuzzyDescriptor info method = hierarchy.fuzzyDescriptor around other ↔
      legible (hierarchy.shown method) = legible (hierarchy.shown other) ∧
        hierarchy.ShownAlike method.result other.result) ∧
    (Delimited (hierarchy.shown method) → Delimited (hierarchy.shown other) →
      hierarchy.fuzzyDescriptor info method = hierarchy.fuzzyDescriptor around other →
        method.parameters.length = other.parameters.length ∧
          List.Forall₂ hierarchy.ShownAlike method.parameters other.parameters ∧
          hierarchy.ShownAlike method.result other.result) := by
  have told := hierarchy.fuzzyDescriptor_eq_iff_legible info around plain otherPlain formed
    otherFormed
  refine ⟨told, fun delimited otherDelimited same => ?_⟩
  obtain ⟨legibles, results⟩ := told.mp same
  rw [Rendering.legible_of_delimited delimited, Rendering.legible_of_delimited otherDelimited]
    at legibles
  have alike : List.Forall₂ hierarchy.ShownAlike method.parameters other.parameters :=
    forall₂_shownAlike (List.forall_mem_cons.mp formed).2 (List.forall_mem_cons.mp otherFormed).2
      legibles
  exact ⟨alike.length_eq, alike, results⟩

/-- An own class and an array of another one are both hidden, and a class name has an array behind
it. -/
theorem fuzzyDescriptor_eq_iff_hidden :
    let hierarchy := Hierarchy.ofClasses none [.ofName "a.B", .ofName "a.C"] defaultFramework
    let taking (own : TypeRef) : Method :=
      ⟨"get", .single .isPublic, false, false,
        [own, ⟨"I"⟩, ⟨"Ljava/lang/String"⟩, ⟨"[J"⟩], ⟨"Ljava/lang/Object"⟩⟩
    let method := taking ⟨"La/B"⟩
    let other := taking ⟨"[La/C"⟩
    (method.isConstructor = false ∧ other.isConstructor = false ∧
      (∀ type ∈ method.result :: method.parameters, type.WellFormed) ∧
      (∀ type ∈ other.result :: other.parameters, type.WellFormed) ∧
      Delimited (hierarchy.shown method) ∧ Delimited (hierarchy.shown other) ∧
      hierarchy.fuzzyDescriptor (.ofName "a.B") method =
        hierarchy.fuzzyDescriptor (.ofName "a.C") other) ∧
    method.parameters.length = other.parameters.length ∧
      List.Forall₂ hierarchy.ShownAlike method.parameters other.parameters ∧
      hierarchy.ShownAlike method.result other.result := by
  intro hierarchy taking method other
  have own : TypeRef.WellFormed ⟨"La/B"⟩ := .class ["a", "B"] (by decide) (by decide)
  have array : TypeRef.WellFormed ⟨"[La/C"⟩ :=
    .array ⟨"La/C"⟩ (.class ["a", "C"] (by decide) (by decide))
  have formed {first : TypeRef} (isFormed : first.WellFormed) :
      ∀ type ∈ (taking first).result :: (taking first).parameters, type.WellFormed := by
    simp only [taking, List.forall_mem_cons]
    exact ⟨.class ["java", "lang", "Object"] (by decide) (by decide), isFormed,
      .primitive "I" (by decide), .class ["java", "lang", "String"] (by decide) (by decide),
      .array ⟨"J"⟩ (.primitive "J" (by decide)), nofun⟩
  have delimited : Delimited (hierarchy.shown method) := by decide +kernel
  have otherDelimited : Delimited (hierarchy.shown other) := by decide +kernel
  have same : hierarchy.fuzzyDescriptor (.ofName "a.B") method =
      hierarchy.fuzzyDescriptor (.ofName "a.C") other := by decide +kernel
  refine ⟨⟨rfl, rfl, formed own, formed array, delimited, otherDelimited, same⟩, ?_⟩
  exact (fuzzyDescriptor_eq_iff hierarchy (.ofName "a.B") (.ofName "a.C") rfl rfl (formed own)
    (formed array)).2 delimited otherDelimited same

/-- A class name is not told from a shorter one with a primitive type behind it. -/
theorem fuzzyDescriptor_of_absorbed :
    let hierarchy := Hierarchy.ofClasses none [.ofName "a.B"] defaultFramework
    let taking (parameters : List TypeRef) : Method :=
      ⟨"get", .single .isPublic, false, false, parameters, ⟨"V"⟩⟩
    let method := taking [⟨"Ljava/lang/String"⟩, ⟨"I"⟩]
    let other := taking [⟨"Ljava/lang/StringI"⟩]
    (method.isConstructor = false ∧ other.isConstructor = false ∧
      (∀ type ∈ method.result :: method.parameters, type.WellFormed) ∧
      ∀ type ∈ other.result :: other.parameters, type.WellFormed) ∧
    hierarchy.fuzzyDescriptor (.ofName "a.B") method =
      hierarchy.fuzzyDescriptor (.ofName "a.B") other ∧
    method.parameters.length ≠ other.parameters.length := by
  intro hierarchy taking method other
  have void : TypeRef.WellFormed ⟨"V"⟩ := .primitive "V" (by decide)
  have formed : ∀ type ∈ method.result :: method.parameters, type.WellFormed := by
    simp only [method, taking, List.forall_mem_cons]
    exact ⟨void, .class ["java", "lang", "String"] (by decide) (by decide),
      .primitive "I" (by decide), nofun⟩
  have otherFormed : ∀ type ∈ other.result :: other.parameters, type.WellFormed := by
    simp only [other, taking, List.forall_mem_cons]
    exact ⟨void, .class ["java", "lang", "StringI"] (by decide) (by decide), nofun⟩
  refine ⟨⟨rfl, rfl, formed, otherFormed⟩, ?_⟩
  decide +kernel

end Hierarchy

end LibPrint
