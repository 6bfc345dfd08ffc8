import LibPrint.Proofs.Json.Tokens
import Mathlib.Data.List.DropRight

/-!
# The grammar of JSON

The texts of a value, and that a text is read as a value exactly if it is one of its texts. Both
directions are by induction on the bound that the reader counts down: each of its steps stands for a
character of the text at least, so the length of the text is bound enough.
-/

namespace LibPrint.Json

/-! ## Texts of values -/

/-- The text of a member's name, with blanks around it. -/
inductive SpellsName : Json → List Char → Prop
  | mk {name : Json} {before spelled after : List Char} : IsBlank before →
      SpellsString name spelled → IsBlank after →
      SpellsName name (before ++ '"' :: (spelled ++ '"' :: after))

mutual

/-- The texts of a value, which begin and end with it. -/
inductive Spells : Json → List Char → Prop
  | null : Spells .null ['n', 'u', 'l', 'l']
  | isTrue : Spells (.bool true) ['t', 'r', 'u', 'e']
  | isFalse : Spells (.bool false) ['f', 'a', 'l', 's', 'e']
  | number {literal : List Char} : IsNumeral literal →
      Spells (.number (String.ofList literal)) literal
  | string {value : Json} {spelled : List Char} : SpellsString value spelled →
      Spells value ('"' :: (spelled ++ ['"']))
  | emptyArray {blank : List Char} : IsBlank blank → Spells (.array []) ('[' :: (blank ++ [']']))
  | array {elements : List Json} {spelled : List Char} : SpellsElements elements spelled →
      Spells (.array elements) ('[' :: (spelled ++ [']']))
  | emptyObject {blank : List Char} : IsBlank blank →
      Spells (.object []) ('\x7b' :: (blank ++ ['\x7d']))
  | object {members : List (Json × Json)} {spelled : List Char} : SpellsMembers members spelled →
      Spells (ofMembers members) ('\x7b' :: (spelled ++ ['\x7d']))

/-- The texts of a value with blanks around it. -/
inductive SpellsPadded : Json → List Char → Prop
  | mk {value : Json} {before spelled after : List Char} : IsBlank before → Spells value spelled →
      IsBlank after → SpellsPadded value (before ++ (spelled ++ after))

/-- Values with commas between them. -/
inductive SpellsElements : List Json → List Char → Prop
  | last {value : Json} {spelled : List Char} : SpellsPadded value spelled →
      SpellsElements [value] spelled
  | cons {value : Json} {values : List Json} {spelled others : List Char} :
      SpellsPadded value spelled → SpellsElements values others →
      SpellsElements (value :: values) (spelled ++ ',' :: others)

/-- Names with their values behind colons, and commas between them. -/
inductive SpellsMembers : List (Json × Json) → List Char → Prop
  | last {name value : Json} {first spelled : List Char} : SpellsName name first →
      SpellsPadded value spelled → SpellsMembers [(name, value)] (first ++ ':' :: spelled)
  | cons {name value : Json} {members : List (Json × Json)} {first spelled others : List Char} :
      SpellsName name first → SpellsPadded value spelled → SpellsMembers members others →
      SpellsMembers ((name, value) :: members) (first ++ ':' :: (spelled ++ ',' :: others))

end

/-- Whether a text is one of the value's. -/
def IsText (value : Json) (text : String) : Prop :=
  SpellsPadded value text.toList

/-! ## Blanks before values -/

@[simp] theorem skipSpace_skipSpace (text : List Char) :
    skipSpace (skipSpace text) = skipSpace text :=
  List.dropWhile_idempotent isSpace text

@[simp] theorem value_skipSpace (fuel : Nat) (text : List Char) :
    value fuel (skipSpace text) = value fuel text := by
  cases fuel with
  | zero => rfl
  | succ fuel => rw [value, value, skipSpace_skipSpace]

@[simp] theorem elements_skipSpace (fuel : Nat) (text : List Char) :
    elements fuel (skipSpace text) = elements fuel text := by
  cases fuel with
  | zero => rfl
  | succ fuel => rw [elements, elements, value_skipSpace]

@[simp] theorem members_skipSpace (fuel : Nat) (text : List Char) :
    members fuel (skipSpace text) = members fuel text := by
  cases fuel with
  | zero => rfl
  | succ fuel => rw [members, members, skipSpace_skipSpace]

theorem isSpace_of_isDigit {character : Char} (isDigit : character.isDigit = true) :
    isSpace character = false := by
  simp only [isSpace, Bool.or_eq_false_iff, beq_eq_false_iff_ne]
  refine ⟨⟨⟨?_, ?_⟩, ?_⟩, ?_⟩ <;> rintro rfl <;> cases isDigit

theorem continuesNumber_of_isSpace {character : Char} (space : isSpace character = true) :
    continuesNumber character = false := by
  simp only [isSpace, Bool.or_eq_true, beq_iff_eq] at space
  rcases space with ((rfl | rfl) | rfl) | rfl <;> rfl

/-- A value does not begin with a blank or with what would close an array. -/
theorem Spells.exists_cons {value : Json} {spelled : List Char} (spells : Spells value spelled) :
    ∃ first others, spelled = first :: others ∧ isSpace first = false ∧ first ≠ ']' := by
  cases spells with
  | number isNumeral =>
      obtain ⟨first, others, rfl, rfl | isDigit⟩ := isNumeral.exists_cons
      · exact ⟨_, _, rfl, rfl, by decide⟩
      · refine ⟨first, others, rfl, isSpace_of_isDigit isDigit, ?_⟩
        rintro rfl
        cases isDigit
  | _ => exact ⟨_, _, rfl, by decide, by decide⟩

/-- No number goes on behind blanks. -/
theorem ended_continuesNumber {blank rest : List Char} (isBlank : IsBlank blank)
    (ended : Ended continuesNumber rest) : Ended continuesNumber (blank ++ rest) :=
  ended_append ended fun first starts =>
    continuesNumber_of_isSpace (isBlank first (List.mem_of_mem_head? starts))

theorem skipSpace_spelled {value : Json} {before spelled : List Char} (isBlank : IsBlank before)
    (spells : Spells value spelled) (rest : List Char) :
    skipSpace (before ++ (spelled ++ rest)) = spelled ++ rest := by
  obtain ⟨first, others, rfl, noSpace, -⟩ := spells.exists_cons
  exact skipSpace_append isBlank (ended_cons.mpr noSpace)

/-- What follows the first blanks of an array with elements does not close it. -/
theorem SpellsElements.skipSpace_ne {values : List Json} {spelled : List Char}
    (spells : SpellsElements values spelled) (rest others : List Char) :
    skipSpace (spelled ++ rest) ≠ ']' :: others := by
  have padded {value : Json} {part : List Char} (spells : SpellsPadded value part)
      (rest : List Char) : skipSpace (part ++ rest) ≠ ']' :: others := by
    obtain ⟨isBlank, spells, -⟩ := spells
    rw [List.append_assoc, List.append_assoc, skipSpace_spelled isBlank spells]
    obtain ⟨first, others, rfl, -, open_⟩ := spells.exists_cons
    intro closes
    cases closes
    exact open_ rfl
  cases spells with
  | last spells => exact padded spells rest
  | cons spells _ =>
      rw [List.append_assoc]
      exact padded spells _

/-- A name is read up to its colon. -/
theorem SpellsName.read {name : Json} {first : List Char} (spells : SpellsName name first)
    (rest : List Char) :
    ∃ inside behind, skipSpace (first ++ ':' :: rest) = '"' :: inside ∧
      quoted inside = some (name, behind) ∧ skipSpace behind = ':' :: rest := by
  cases spells with
  | @mk before spelled after isBlank spells isBlankAfter =>
      refine ⟨spelled ++ '"' :: (after ++ ':' :: rest), after ++ ':' :: rest, ?_,
        quoted_append spells _, skipSpace_append isBlankAfter (ended_cons.mpr rfl)⟩
      rw [List.append_assoc, List.cons_append, List.append_assoc, List.cons_append]
      exact skipSpace_append isBlank (ended_cons.mpr rfl)

/-- What follows the first blanks of an object with members does not close it. -/
theorem SpellsMembers.skipSpace_ne {members : List (Json × Json)} {spelled : List Char}
    (spells : SpellsMembers members spelled) (rest others : List Char) :
    skipSpace (spelled ++ rest) ≠ '\x7d' :: others := by
  cases spells with
  | last named _ | cons named _ _ =>
      rw [List.append_assoc, List.cons_append]
      obtain ⟨_, _, starts, -, -⟩ := named.read _
      rw [starts]
      intro closes
      cases closes

/-! ## The steps of the reader -/

section Steps

variable {fuel : Nat} {text rest others : List Char}

theorem value_of_quote (starts : skipSpace text = '"' :: rest) :
    value (fuel + 1) text = quoted rest := by
  rw [value, starts]
  rfl

theorem value_of_emptyArray (starts : skipSpace text = '[' :: rest)
    (closes : skipSpace rest = ']' :: others) :
    value (fuel + 1) text = some (array [], others) := by
  rw [value, starts]
  simp only [closes]

theorem value_of_array (starts : skipSpace text = '[' :: rest)
    (isOpen : ∀ others, skipSpace rest ≠ ']' :: others) :
    value (fuel + 1) text = (elements fuel rest).map fun (items, rest) => (array items, rest) := by
  rw [value, starts, ← elements_skipSpace]
  simp only
  cases elements fuel (skipSpace rest) <;> rfl

theorem value_of_emptyObject (starts : skipSpace text = '\x7b' :: rest)
    (closes : skipSpace rest = '\x7d' :: others) :
    value (fuel + 1) text = some (object [], others) := by
  rw [value, starts]
  simp only [closes]

theorem value_of_object (starts : skipSpace text = '\x7b' :: rest)
    (isOpen : ∀ others, skipSpace rest ≠ '\x7d' :: others) :
    value (fuel + 1) text =
      (members fuel rest).map fun (items, rest) => (ofMembers items, rest) := by
  rw [value, starts, ← members_skipSpace]
  simp only
  cases members fuel (skipSpace rest) <;> rfl

theorem value_of_other {first : Char} (starts : skipSpace text = first :: others)
    (apart : first ∉ ['n', 't', 'f', '"', '[', '\x7b']) :
    value (fuel + 1) text = numeral (first :: others) := by
  rw [value, starts]
  split <;> simp_all

end Steps

/-! ## Reading what is spelled -/

/-- What the reader does with texts of the grammar, if they are shorter than its bound. -/
structure Reads (fuel : Nat) : Prop where
  value {item : Json} {text spelled rest : List Char} : Spells item spelled →
    spelled.length < fuel → Ended continuesNumber rest → skipSpace text = spelled ++ rest →
    value fuel text = some (item, rest)
  elements {items : List Json} {spelled : List Char} (rest : List Char) :
    SpellsElements items spelled → spelled.length + 1 < fuel →
    elements fuel (spelled ++ ']' :: rest) = some (items, rest)
  members {items : List (Json × Json)} {spelled : List Char} (rest : List Char) :
    SpellsMembers items spelled → spelled.length + 1 < fuel →
    members fuel (spelled ++ '\x7d' :: rest) = some (items, rest)

namespace Reads

variable {fuel : Nat}

theorem zero : Reads 0 :=
  ⟨fun _ bound => absurd bound (Nat.not_lt_zero _),
    fun _ _ bound => absurd bound (Nat.not_lt_zero _),
    fun _ _ bound => absurd bound (Nat.not_lt_zero _)⟩

variable (reads : Reads fuel)
include reads

theorem value_succ {item : Json} {text spelled rest : List Char} (spells : Spells item spelled)
    (bound : spelled.length < fuel + 1) (ended : Ended continuesNumber rest)
    (starts : skipSpace text = spelled ++ rest) :
    Json.value (fuel + 1) text = some (item, rest) := by
  cases spells with
  | null | isTrue | isFalse =>
      rw [Json.value, starts]
      rfl
  | number isNumeral =>
      rw [← numeral_append isNumeral ended]
      obtain ⟨first, others, rfl, sign⟩ := isNumeral.exists_cons
      apply value_of_other starts
      intro member
      simp only [List.mem_cons, List.not_mem_nil, or_false] at member
      rcases sign with rfl | isDigit
      · revert member
        decide
      · rcases member with rfl | rfl | rfl | rfl | rfl | rfl <;> cases isDigit
  | string spells =>
      simp only [List.cons_append, List.append_assoc, List.nil_append] at starts
      rw [value_of_quote starts, quoted_append spells]
  | emptyArray isBlank =>
      simp only [List.cons_append, List.append_assoc, List.nil_append] at starts
      exact value_of_emptyArray starts (skipSpace_append isBlank (ended_cons.mpr rfl))
  | array spells =>
      simp only [List.cons_append, List.append_assoc, List.nil_append] at starts
      simp only [List.length_cons, List.length_append, List.length_nil] at bound
      rw [value_of_array starts (spells.skipSpace_ne _), reads.elements rest spells (by omega),
        Option.map_some]
  | emptyObject isBlank =>
      simp only [List.cons_append, List.append_assoc, List.nil_append] at starts
      exact value_of_emptyObject starts (skipSpace_append isBlank (ended_cons.mpr rfl))
  | object spells =>
      simp only [List.cons_append, List.append_assoc, List.nil_append] at starts
      simp only [List.length_cons, List.length_append, List.length_nil] at bound
      rw [value_of_object starts (spells.skipSpace_ne _), reads.members rest spells (by omega),
        Option.map_some]

/-- A value is read up to the blanks behind it. -/
theorem padded {item : Json} {spelled : List Char} (spells : SpellsPadded item spelled)
    (bound : spelled.length < fuel) (next : Char) (noNumber : continuesNumber next = false)
    (noSpace : isSpace next = false) (rest : List Char) :
    ∃ behind, Json.value fuel (spelled ++ next :: rest) = some (item, behind) ∧
      skipSpace behind = next :: rest := by
  cases spells with
  | @mk _ before inner after isBlank spells isBlankAfter =>
      refine ⟨after ++ next :: rest, ?_, skipSpace_append isBlankAfter (ended_cons.mpr noSpace)⟩
      simp only [List.length_append] at bound
      apply reads.value spells (by omega)
      · exact ended_continuesNumber isBlankAfter (ended_cons.mpr noNumber)
      · simpa only [List.append_assoc] using skipSpace_spelled isBlank spells _

theorem elements_succ {items : List Json} {spelled : List Char} (rest : List Char)
    (spells : SpellsElements items spelled) (bound : spelled.length + 1 < fuel + 1) :
    Json.elements (fuel + 1) (spelled ++ ']' :: rest) = some (items, rest) := by
  cases spells with
  | last first =>
      obtain ⟨behind, read, closes⟩ := reads.padded first (by omega) ']' rfl rfl rest
      rw [Json.elements, read]
      simp [closes]
  | @cons _ _ spelled others first more =>
      simp only [List.length_append, List.length_cons] at bound
      obtain ⟨behind, read, continues⟩ :=
        reads.padded first (by omega) ',' rfl rfl (others ++ ']' :: rest)
      rw [List.append_assoc, List.cons_append, Json.elements, read]
      simp [continues, reads.elements rest more (by omega)]

theorem members_succ {items : List (Json × Json)} {spelled : List Char} (rest : List Char)
    (spells : SpellsMembers items spelled) (bound : spelled.length + 1 < fuel + 1) :
    Json.members (fuel + 1) (spelled ++ '\x7d' :: rest) = some (items, rest) := by
  cases spells with
  | @last _ _ first spelled named only =>
      simp only [List.length_append, List.length_cons] at bound
      obtain ⟨inside, afterName, starts, nameRead, colon⟩ := named.read (spelled ++ '\x7d' :: rest)
      obtain ⟨behind, read, closes⟩ := reads.padded only (by omega) '\x7d' rfl rfl rest
      rw [List.append_assoc, List.cons_append, Json.members, starts]
      simp [nameRead, colon, read, closes]
  | @cons _ _ _ first spelled others named only more =>
      simp only [List.length_append, List.length_cons] at bound
      obtain ⟨inside, afterName, starts, nameRead, colon⟩ :=
        named.read (spelled ++ ',' :: (others ++ '\x7d' :: rest))
      obtain ⟨behind, read, continues⟩ :=
        reads.padded only (by omega) ',' rfl rfl (others ++ '\x7d' :: rest)
      rw [List.append_assoc, List.cons_append, List.append_assoc, List.cons_append, Json.members,
        starts]
      simp [nameRead, colon, read, continues, reads.members rest more (by omega)]

end Reads

theorem reads (fuel : Nat) : Reads fuel := by
  induction fuel with
  | zero => exact .zero
  | succ fuel ih => exact ⟨ih.value_succ, ih.elements_succ, ih.members_succ⟩

/-! ## Spelling what is read -/

/-- What a text has in front when the reader gives something back. -/
structure Finds (fuel : Nat) : Prop where
  value {item : Json} {text rest : List Char} : value fuel text = some (item, rest) →
    ∃ spelled, Spells item spelled ∧ skipSpace text = spelled ++ rest
  elements {items : List Json} {text rest : List Char} :
    elements fuel text = some (items, rest) →
    ∃ spelled, SpellsElements items spelled ∧ text = spelled ++ ']' :: rest
  members {items : List (Json × Json)} {text rest : List Char} :
    members fuel text = some (items, rest) →
    ∃ spelled, SpellsMembers items spelled ∧ text = spelled ++ '\x7d' :: rest

namespace Finds

variable {fuel : Nat}

theorem zero : Finds 0 := by
  constructor <;> intro _ _ _ read <;> cases read

variable (finds : Finds fuel)
include finds

theorem value_succ {item : Json} {text rest : List Char}
    (read : Json.value (fuel + 1) text = some (item, rest)) :
    ∃ spelled, Spells item spelled ∧ skipSpace text = spelled ++ rest := by
  have whole := read
  rw [Json.value] at read
  split at read
  · next starts =>
    cases read
    exact ⟨_, .null, starts⟩
  · next starts =>
    cases read
    exact ⟨_, .isTrue, starts⟩
  · next starts =>
    cases read
    exact ⟨_, .isFalse, starts⟩
  · next starts =>
    obtain ⟨spelled, spells, rfl⟩ := exists_spells_of_quoted read
    exact ⟨_, .string spells, by simp [starts]⟩
  · next inside starts =>
    by_cases closes : ∃ others, skipSpace inside = ']' :: others
    · obtain ⟨others, closes⟩ := closes
      rw [value_of_emptyArray starts closes] at whole
      cases whole
      obtain ⟨blank, isBlank, split⟩ := exists_isBlank inside
      exact ⟨_, .emptyArray isBlank, by rw [starts, split, closes]; simp⟩
    · rw [value_of_array starts (not_exists.mp closes)] at whole
      obtain ⟨⟨items, rest⟩, itemsRead, equal⟩ := Option.map_eq_some_iff.mp whole
      cases equal
      obtain ⟨spelled, spells, rfl⟩ := finds.elements itemsRead
      exact ⟨_, .array spells, by simp [starts]⟩
  · next inside starts =>
    by_cases closes : ∃ others, skipSpace inside = '\x7d' :: others
    · obtain ⟨others, closes⟩ := closes
      rw [value_of_emptyObject starts closes] at whole
      cases whole
      obtain ⟨blank, isBlank, split⟩ := exists_isBlank inside
      exact ⟨_, .emptyObject isBlank, by rw [starts, split, closes]; simp⟩
    · rw [value_of_object starts (not_exists.mp closes)] at whole
      obtain ⟨⟨items, rest⟩, itemsRead, equal⟩ := Option.map_eq_some_iff.mp whole
      cases equal
      obtain ⟨spelled, spells, rfl⟩ := finds.members itemsRead
      exact ⟨_, .object spells, by simp [starts]⟩
  · obtain ⟨literal, isNumeral, rfl, split⟩ := isNumeral_of_numeral read
    exact ⟨literal, .number isNumeral, split⟩

/-- A value and what is behind it, with the blanks on both sides. -/
theorem padded {item : Json} {text behind rest : List Char} {next : Char}
    (read : Json.value fuel text = some (item, behind))
    (continues : skipSpace behind = next :: rest) :
    ∃ spelled, SpellsPadded item spelled ∧ text = spelled ++ next :: rest := by
  obtain ⟨spelled, spells, starts⟩ := finds.value read
  obtain ⟨before, isBlank, split⟩ := exists_isBlank text
  obtain ⟨after, isBlankAfter, splitBehind⟩ := exists_isBlank behind
  refine ⟨_, .mk isBlank spells isBlankAfter, ?_⟩
  rw [split, starts, splitBehind, continues]
  simp

theorem elements_succ {items : List Json} {text rest : List Char}
    (read : Json.elements (fuel + 1) text = some (items, rest)) :
    ∃ spelled, SpellsElements items spelled ∧ text = spelled ++ ']' :: rest := by
  simp only [Json.elements, Option.bind_eq_bind, Option.bind_eq_some_iff, Prod.exists] at read
  obtain ⟨first, behind, firstRead, read⟩ := read
  split at read
  · next closes =>
    cases read
    obtain ⟨spelled, spells, rfl⟩ := finds.padded firstRead closes
    exact ⟨spelled, .last spells, rfl⟩
  · next continues =>
    simp only [Option.bind_eq_some_iff, Option.some.injEq, Prod.mk.injEq, Prod.exists] at read
    obtain ⟨others, _, othersRead, rfl, rfl⟩ := read
    obtain ⟨spelled, spells, rfl⟩ := finds.padded firstRead continues
    obtain ⟨more, spellsMore, rfl⟩ := finds.elements othersRead
    exact ⟨_, .cons spells spellsMore, by simp⟩
  · cases read

theorem members_succ {items : List (Json × Json)} {text rest : List Char}
    (read : Json.members (fuel + 1) text = some (items, rest)) :
    ∃ spelled, SpellsMembers items spelled ∧ text = spelled ++ '\x7d' :: rest := by
  rw [Json.members] at read
  split at read
  · next inside starts =>
    simp only [Option.bind_eq_bind, Option.bind_eq_some_iff, Prod.exists] at read
    obtain ⟨name, afterName, nameRead, read⟩ := read
    split at read
    · next colon =>
      simp only [Option.bind_eq_some_iff, Prod.exists] at read
      obtain ⟨first, behind, firstRead, read⟩ := read
      obtain ⟨spelledName, spellsName, rfl⟩ := exists_spells_of_quoted nameRead
      obtain ⟨before, isBlank, split⟩ := exists_isBlank text
      obtain ⟨after, isBlankAfter, splitName⟩ := exists_isBlank afterName
      have named := SpellsName.mk isBlank spellsName isBlankAfter
      split at read
      · next closes =>
        cases read
        obtain ⟨spelled, spells, rfl⟩ := finds.padded firstRead closes
        exact ⟨_, .last named spells, by rw [split, starts, splitName, colon]; simp⟩
      · next continues =>
        simp only [Option.bind_eq_some_iff, Option.some.injEq, Prod.mk.injEq, Prod.exists] at read
        obtain ⟨others, _, othersRead, rfl, rfl⟩ := read
        obtain ⟨spelled, spells, rfl⟩ := finds.padded firstRead continues
        obtain ⟨more, spellsMore, rfl⟩ := finds.members othersRead
        exact ⟨_, .cons named spells spellsMore, by rw [split, starts, splitName, colon]; simp⟩
      · cases read
    · cases read
  · cases read

end Finds

theorem finds (fuel : Nat) : Finds fuel := by
  induction fuel with
  | zero => exact .zero
  | succ fuel ih => exact ⟨ih.value_succ, ih.elements_succ, ih.members_succ⟩

/-! ## Whole texts -/

/-- A text is read as a value exactly if it is one of its texts. -/
theorem read?_eq_some_iff {text : String} {item : Json} :
    read? text = some item ↔ IsText item text := by
  constructor
  · intro read
    simp only [read?, Option.bind_eq_bind, Option.bind_eq_some_iff, Prod.exists,
      Option.ite_none_right_eq_some, Option.some.injEq, List.isEmpty_iff] at read
    obtain ⟨_, behind, read, nothing, rfl⟩ := read
    obtain ⟨spelled, spells, starts⟩ := (finds _).value read
    obtain ⟨before, isBlank, split⟩ := exists_isBlank text.toList
    obtain ⟨after, isBlankAfter, splitBehind⟩ := exists_isBlank behind
    rw [nothing, List.append_nil] at splitBehind
    rw [IsText, split, starts, splitBehind]
    exact .mk isBlank spells isBlankAfter
  · intro isText
    rw [IsText] at isText
    simp only [read?]
    generalize text.toList = characters at isText
    cases isText with
    | @mk _ before spelled after isBlank spells isBlankAfter =>
        have ended : Ended continuesNumber after := by
          simpa using ended_continuesNumber isBlankAfter ended_nil
        have nothing : skipSpace after = [] := by
          simpa using skipSpace_append isBlankAfter ended_nil
        have bound : spelled.length < (before ++ (spelled ++ after)).length + 1 := by
          simp only [List.length_append]
          omega
        rw [(reads _).value spells bound ended (skipSpace_spelled isBlank spells after)]
        simp [nothing]

end LibPrint.Json
