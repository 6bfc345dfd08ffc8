import LibPrint.Json.Reader
import Mathlib.Data.List.TakeWhile

/-!
# The tokens of JSON

What blanks, strings and numbers look like, and that these are what is read. A code of a string can
be written in several ways, and a character beyond the first 65536 as two codes besides, so many
spellings stand for one text; spellings with half of such a pair stand for none. A number has one
spelling, its literal. It has no end of its own: what is read is the longest one, so that the text
behind it must not go on with what could be part of it.
-/

namespace LibPrint.Json

/-! ## Where a token ends -/

/-- A text that does not begin with a character of the given kind. -/
def Ended (kind : Char → Bool) (rest : List Char) : Prop :=
  ∀ next ∈ rest.head?, kind next = false

section Ended

variable {kind : Char → Bool} {text rest : List Char}

@[simp] theorem ended_nil : Ended kind [] := by
  simp [Ended]

@[simp] theorem ended_cons {next : Char} : Ended kind (next :: rest) ↔ kind next = false := by
  simp [Ended]

theorem Ended.of_imp {other : Char → Bool} (ended : Ended other rest)
    (within : ∀ character, kind character = true → other character = true) : Ended kind rest := by
  intro next first
  have apart := ended next first
  rw [← Bool.not_eq_true] at apart ⊢
  exact mt (within next) apart

theorem takeWhile_append_of_ended (all : ∀ character ∈ text, kind character = true)
    (ended : Ended kind rest) : (text ++ rest).takeWhile kind = text := by
  rw [List.takeWhile_append_of_pos all]
  cases rest with
  | nil => simp
  | cons next rest => simp [ended_cons.mp ended]

theorem dropWhile_append_of_ended (all : ∀ character ∈ text, kind character = true)
    (ended : Ended kind rest) : (text ++ rest).dropWhile kind = rest := by
  rw [List.dropWhile_append_of_pos all]
  cases rest with
  | nil => simp
  | cons next rest => simp [ended_cons.mp ended]

end Ended

/-! ## Blanks -/

/-- Blanks alone, or nothing. -/
def IsBlank (text : List Char) : Prop :=
  ∀ character ∈ text, isSpace character = true

theorem skipSpace_append {blank rest : List Char} (isBlank : IsBlank blank)
    (ended : Ended isSpace rest) : skipSpace (blank ++ rest) = rest :=
  dropWhile_append_of_ended isBlank ended

theorem exists_isBlank (text : List Char) :
    ∃ blank, IsBlank blank ∧ text = blank ++ skipSpace text :=
  ⟨text.takeWhile isSpace, fun _ => List.mem_takeWhile_imp, List.takeWhile_append_dropWhile.symm⟩

/-! ## Strings -/

/-- The ways to write a code inside a string: as the character itself where nothing forbids it, as a
letter behind a backslash, or by its four digits. -/
inductive SpellsCode : Nat → List Char → Prop
  | plain {character : Char} : 0x20 ≤ character.toNat → character ≠ '"' → character ≠ '\\' →
      SpellsCode character.toNat [character]
  | letter {letter : Char} {code : Nat} : escaped? letter = some code →
      SpellsCode code ['\\', letter]
  | digits {a b c d : Char} {code : Nat} : fourDigits? a b c d = some code →
      SpellsCode code ['\\', 'u', a, b, c, d]

/-- Codes written one behind the other. -/
inductive SpellsCodes : List Nat → List Char → Prop
  | nil : SpellsCodes [] []
  | cons {code : Nat} {codes : List Nat} {first others : List Char} : SpellsCode code first →
      SpellsCodes codes others → SpellsCodes (code :: codes) (first ++ others)

/-- The codes a text can be written with: each character as its code point or as the two surrogates
that stand for it. -/
inductive CodesOf : List Char → List Nat → Prop
  | nil : CodesOf [] []
  | point {character : Char} {text : List Char} {codes : List Nat} : CodesOf text codes →
      CodesOf (character :: text) (character.toNat :: codes)
  | pair {character : Char} {high low : Nat} {text : List Char} {codes : List Nat} :
      0xd800 ≤ high → high < 0xdc00 → 0xdc00 ≤ low → low < 0xe000 →
      character.toNat = 0x10000 + (high - 0xd800) * 0x400 + (low - 0xdc00) →
      CodesOf text codes → CodesOf (character :: text) (high :: low :: codes)

/-- What may stand between the quotes of a string: the spelling of a text, or one of no text. -/
inductive SpellsString : Json → List Char → Prop
  | text {text : String} {codes : List Nat} {spelled : List Char} : CodesOf text.toList codes →
      SpellsCodes codes spelled → SpellsString (.string text) spelled
  | unpaired {codes : List Nat} {spelled : List Char} : (∀ text, ¬ CodesOf text codes) →
      SpellsCodes codes spelled → SpellsString .unpaired spelled

theorem escaped?_eq_some {letter : Char} {code : Nat} (escape : escaped? letter = some code) :
    letter ≠ 'u' ∧ code < 0x80 := by
  unfold escaped? at escape
  split at escape <;> simp_all <;> omega

theorem hexValue?_lt {digit : Char} {value : Nat} (read : Text.hexValue? digit = some value) :
    value < 16 := by
  simp only [Text.hexValue?, Char.le_def, UInt32.le_iff_toNat_le, Char.toNat, Char.reduceVal,
    UInt32.reduceToNat] at read
  split at read
  · cases read
    omega
  · split at read
    · cases read
      omega
    · split at read
      · cases read
        omega
      · cases read

theorem fourDigits?_lt {a b c d : Char} {code : Nat} (read : fourDigits? a b c d = some code) :
    code < 0x10000 := by
  simp only [fourDigits?, Option.bind_eq_bind, Option.bind_eq_some_iff, Option.some.injEq] at read
  obtain ⟨first, firstRead, second, secondRead, third, thirdRead, fourth, fourthRead, rfl⟩ := read
  have firstLt := hexValue?_lt firstRead
  have secondLt := hexValue?_lt secondRead
  have thirdLt := hexValue?_lt thirdRead
  have fourthLt := hexValue?_lt fourthRead
  omega

theorem isValidChar_toNat (character : Char) : character.toNat.isValidChar :=
  character.valid

theorem toNat_ofNat {code : Nat} (valid : code.isValidChar) : (Char.ofNat code).toNat = code := by
  rw [Char.ofNat, dif_pos valid]
  rfl

/-- Whatever is written as a code is a surrogate or the code point of a character. -/
theorem SpellsCode.lt {code : Nat} {spelled : List Char} (spells : SpellsCode code spelled) :
    code < 0x110000 := by
  cases spells with
  | @plain character =>
      have valid := isValidChar_toNat character
      rw [Nat.isValidChar] at valid
      omega
  | letter escape =>
      have small := (escaped?_eq_some escape).2
      omega
  | digits read =>
      have small := fourDigits?_lt read
      omega

theorem SpellsCodes.lt {codes : List Nat} {spelled : List Char}
    (spells : SpellsCodes codes spelled) : ∀ code ∈ codes, code < 0x110000 := by
  induction spells with
  | nil => exact List.forall_mem_nil _
  | cons first _ ih => exact List.forall_mem_cons.mpr ⟨first.lt, ih⟩

theorem joinSurrogates_point (character : Char) (codes : List Nat) :
    joinSurrogates (character.toNat :: codes) = (joinSurrogates codes).map (character :: ·) := by
  have valid := isValidChar_toNat character
  rw [Nat.isValidChar] at valid
  have noHigh : ¬(0xd800 ≤ character.toNat ∧ character.toNat < 0xdc00) := by omega
  have noLow : ¬(0xdc00 ≤ character.toNat ∧ character.toNat < 0xe000) := by omega
  have neither : ¬(0xd800 ≤ character.toNat ∧ character.toNat < 0xe000) := by omega
  cases codes with
  | nil => simp only [joinSurrogates, neither, if_false, Char.ofNat_toNat, Option.map_some]
  | cons => rw [joinSurrogates, if_neg noHigh, if_neg noLow, Char.ofNat_toNat]

/-- Codes are joined to a text exactly if the text can be written with them. -/
theorem joinSurrogates_eq_some_iff {codes : List Nat} (valid : ∀ code ∈ codes, code < 0x110000)
    {text : List Char} : joinSurrogates codes = some text ↔ CodesOf text codes := by
  constructor
  · intro joined
    -- Only a code that is no surrogate stands for a character by itself.
    have point {code : Nat} {others : List Nat} {text : List Char} (bound : code < 0x110000)
        (noSurrogate : ¬(0xd800 ≤ code ∧ code < 0xe000)) (rest : CodesOf text others) :
        CodesOf (Char.ofNat code :: text) (code :: others) := by
      have isValid : code.isValidChar := by
        rw [Nat.isValidChar]
        omega
      have written : CodesOf (Char.ofNat code :: text) ((Char.ofNat code).toNat :: others) :=
        .point rest
      rwa [toNat_ofNat isValid] at written
    fun_induction joinSurrogates codes generalizing text with
    | case1 =>
        cases joined
        exact .nil
    | case2 high low codes isHigh isLow ih =>
        obtain ⟨others, rest, rfl⟩ := Option.map_eq_some_iff.mp joined
        simp only [List.forall_mem_cons] at valid
        refine .pair isHigh.1 isHigh.2 isLow.1 isLow.2 (toNat_ofNat ?_) (ih valid.2.2 rest)
        rw [Nat.isValidChar]
        omega
    | case3 | case4 | case6 => cases joined
    | case5 code next codes noHigh noLow ih =>
        obtain ⟨others, rest, rfl⟩ := Option.map_eq_some_iff.mp joined
        rw [List.forall_mem_cons] at valid
        exact point valid.1 (by omega) (ih valid.2 rest)
    | case7 code noSurrogate =>
        cases joined
        exact point (valid code List.mem_cons_self) noSurrogate .nil
  · intro written
    clear valid
    induction written with
    | nil => rfl
    | point _ ih => rw [joinSurrogates_point, ih, Option.map_some]
    | @pair character high low _ _ highLeast highLess lowLeast lowLess isPair _ ih =>
        rw [joinSurrogates, if_pos ⟨highLeast, highLess⟩, if_pos ⟨lowLeast, lowLess⟩, ih,
          Option.map_some, ← isPair, Char.ofNat_toNat]

/-- The codes that are spelled are read, up to the closing quote. -/
theorem codes_append {found : List Nat} {spelled : List Char} (spells : SpellsCodes found spelled)
    (rest : List Char) : codes (spelled ++ '"' :: rest) = some (found, rest) := by
  induction spells with
  | nil => rfl
  | cons first others ih =>
      cases first with
      | plain least noQuote noEscape =>
          rw [List.singleton_append, List.cons_append, codes]
          · simp [ih, noEscape, least]
          all_goals simp_all
      | letter escape =>
          rw [List.append_assoc, List.cons_append, List.cons_append, List.nil_append, codes]
          · simp [escape, ih]
          · intro _ _ _ _ _ isNumeric _
            exact (escaped?_eq_some escape).1 isNumeric
      | digits read => simp [codes, read, ih]

theorem exists_spells_of_codes {text rest : List Char} {found : List Nat}
    (read : codes text = some (found, rest)) :
    ∃ spelled, SpellsCodes found spelled ∧ text = spelled ++ '"' :: rest := by
  fun_induction codes text generalizing found with
  | case1 => cases read
  | case2 =>
      cases read
      exact ⟨[], .nil, rfl⟩
  | case3 a b c d text ih =>
      simp only [Option.bind_eq_bind, Option.bind_eq_some_iff, Option.some.injEq, Prod.mk.injEq,
        Prod.exists] at read
      obtain ⟨code, first, more, _, others, rfl, rfl⟩ := read
      obtain ⟨spelled, spells, rfl⟩ := ih others
      exact ⟨_, .cons (.digits first) spells, rfl⟩
  | case4 letter text _ ih =>
      simp only [Option.bind_eq_bind, Option.bind_eq_some_iff, Option.some.injEq, Prod.mk.injEq,
        Prod.exists] at read
      obtain ⟨code, first, more, _, others, rfl, rfl⟩ := read
      obtain ⟨spelled, spells, rfl⟩ := ih others
      exact ⟨_, .cons (.letter first) spells, rfl⟩
  | case5 => cases read
  | case6 character text noQuote _ _ allowed ih =>
      simp only [Option.bind_eq_bind, Option.bind_eq_some_iff, Option.some.injEq, Prod.mk.injEq,
        Prod.exists] at read
      obtain ⟨more, _, others, rfl, rfl⟩ := read
      obtain ⟨spelled, spells, rfl⟩ := ih others
      rw [not_or, Nat.not_lt] at allowed
      exact ⟨_, .cons (.plain allowed.1 noQuote allowed.2) spells, rfl⟩

/-- What stands between quotes is read as the text it spells, if it spells one. -/
theorem quoted_append {value : Json} {spelled : List Char} (spells : SpellsString value spelled)
    (rest : List Char) : quoted (spelled ++ '"' :: rest) = some (value, rest) := by
  cases spells with
  | text codesOf spells =>
      have joined := (joinSurrogates_eq_some_iff spells.lt).mpr codesOf
      simp [quoted, codes_append spells, joined]
  | @unpaired codes _ noText spells =>
      have apart : joinSurrogates codes = none := by
        rw [Option.eq_none_iff_forall_not_mem]
        intro text joined
        exact noText text ((joinSurrogates_eq_some_iff spells.lt).mp joined)
      simp [quoted, codes_append spells, apart]

theorem exists_spells_of_quoted {text rest : List Char} {value : Json}
    (read : quoted text = some (value, rest)) :
    ∃ spelled, SpellsString value spelled ∧ text = spelled ++ '"' :: rest := by
  simp only [quoted, Option.bind_eq_bind, Option.bind_eq_some_iff, Prod.exists] at read
  obtain ⟨codes, _, found, read⟩ := read
  obtain ⟨spelled, spells, rfl⟩ := exists_spells_of_codes found
  cases joined : joinSurrogates codes with
  | none =>
      rw [joined] at read
      cases read
      refine ⟨spelled, .unpaired ?_ spells, rfl⟩
      intro text codesOf
      rw [(joinSurrogates_eq_some_iff spells.lt).mpr codesOf] at joined
      cases joined
  | some characters =>
      rw [joined] at read
      cases read
      refine ⟨spelled, .text ?_ spells, rfl⟩
      rw [String.toList_ofList]
      exact (joinSurrogates_eq_some_iff spells.lt).mp joined

/-! ## Numbers -/

/-- One digit at least. -/
def IsDigits (text : List Char) : Prop :=
  text ≠ [] ∧ ∀ character ∈ text, character.isDigit = true

/-- The whole part of a number: a zero, or digits of which the first is none. -/
def IsWhole (text : List Char) : Prop :=
  text = ['0'] ∨ IsDigits text ∧ text.head? ≠ some '0'

/-- A fraction that may be missing. -/
def IsFraction (text : List Char) : Prop :=
  text = [] ∨ ∃ digits, IsDigits digits ∧ text = '.' :: digits

/-- An exponent that may be missing. -/
def IsExponent (text : List Char) : Prop :=
  text = [] ∨ ∃ mark ∈ ['e', 'E'], ∃ sign ∈ [[], ['+'], ['-']], ∃ digits, IsDigits digits ∧
    text = mark :: (sign ++ digits)

/-- A number. -/
def IsNumeral (text : List Char) : Prop :=
  ∃ sign ∈ [[], ['-']], ∃ whole fraction exponent, IsWhole whole ∧ IsFraction fraction ∧
    IsExponent exponent ∧ text = sign ++ (whole ++ fraction ++ exponent)

/-- What a number could go on with. -/
def continuesNumber (character : Char) : Bool :=
  character.isDigit || character == '.' || character == 'e' || character == 'E'

theorem digits_append {found rest : List Char} (isDigits : IsDigits found)
    (ended : Ended Char.isDigit rest) : digits (found ++ rest) = some (found, rest) := by
  obtain ⟨first, others, rfl⟩ := List.exists_cons_of_ne_nil isDigits.1
  rw [digits, takeWhile_append_of_ended isDigits.2 ended,
    dropWhile_append_of_ended isDigits.2 ended]

theorem isDigits_of_digits {text found rest : List Char}
    (read : digits text = some (found, rest)) : IsDigits found ∧ text = found ++ rest := by
  rw [digits] at read
  split at read
  · cases read
  · next occupied =>
    cases read
    exact ⟨⟨occupied, fun _ => List.mem_takeWhile_imp⟩, List.takeWhile_append_dropWhile.symm⟩

theorem whole_append {found rest : List Char} (isWhole : IsWhole found)
    (ended : Ended Char.isDigit rest) : whole (found ++ rest) = some (found, rest) := by
  rcases isWhole with rfl | ⟨isDigits, noZero⟩
  · cases rest with
    | nil => rfl
    | cons next rest => simp [whole, ended_cons.mp ended]
  · rw [whole]
    · exact digits_append isDigits ended
    · intro others starts
      obtain ⟨first, more, rfl⟩ := List.exists_cons_of_ne_nil isDigits.1
      cases starts
      exact noZero rfl

theorem isWhole_of_whole {text found rest : List Char}
    (read : whole text = some (found, rest)) : IsWhole found ∧ text = found ++ rest := by
  unfold whole at read
  split at read
  · split at read
    · split at read
      · cases read
      · cases read
        exact ⟨.inl rfl, rfl⟩
    · cases read
      exact ⟨.inl rfl, rfl⟩
  · next noZero =>
    obtain ⟨isDigits, rfl⟩ := isDigits_of_digits read
    refine ⟨.inr ⟨isDigits, ?_⟩, rfl⟩
    intro zero
    obtain ⟨others, rfl⟩ := List.head?_eq_some_iff.mp zero
    exact noZero _ rfl

theorem fraction_append {found rest : List Char} (isFraction : IsFraction found)
    (noDigit : Ended Char.isDigit rest) (noPoint : Ended (· == '.') rest) :
    fraction (found ++ rest) = some (found, rest) := by
  rcases isFraction with rfl | ⟨digits, isDigits, rfl⟩
  · rw [List.nil_append, fraction]
    rintro others rfl
    cases ended_cons.mp noPoint
  · simp [fraction, digits_append isDigits noDigit]

theorem isFraction_of_fraction {text found rest : List Char}
    (read : fraction text = some (found, rest)) : IsFraction found ∧ text = found ++ rest := by
  unfold fraction at read
  split at read
  · simp only [Option.bind_eq_bind, Option.bind_eq_some_iff, Option.some.injEq, Prod.mk.injEq,
      Prod.exists] at read
    obtain ⟨digits, _, read, rfl, rfl⟩ := read
    obtain ⟨isDigits, rfl⟩ := isDigits_of_digits read
    exact ⟨.inr ⟨digits, isDigits, rfl⟩, rfl⟩
  · cases read
    exact ⟨.inl rfl, rfl⟩

theorem exponent_append {found rest : List Char} (isExponent : IsExponent found)
    (ended : Ended continuesNumber rest) : exponent (found ++ rest) = some (found, rest) := by
  have noDigit : Ended Char.isDigit rest := by
    apply ended.of_imp
    simp +contextual [continuesNumber]
  rcases isExponent with rfl | ⟨mark, markMem, sign, signMem, digits, isDigits, rfl⟩
  · cases rest with
    | nil => rfl
    | cons next rest =>
        have other := ended_cons.mp ended
        simp only [continuesNumber, Bool.or_eq_false_iff, beq_eq_false_iff_ne] at other
        simp [exponent, other]
  · have isMark : mark = 'e' ∨ mark = 'E' := by simpa using markMem
    obtain ⟨first, others, rfl⟩ := List.exists_cons_of_ne_nil isDigits.1
    have isDigit : first.isDigit = true := isDigits.2 first List.mem_cons_self
    simp only [List.mem_cons, List.not_mem_nil, or_false] at signMem
    have read : digits (first :: (others ++ rest)) = some (first :: others, rest) :=
      digits_append isDigits noDigit
    rcases signMem with rfl | rfl | rfl
    · have noPlus : first ≠ '+' := by
        rintro rfl
        cases isDigit
      have noMinus : first ≠ '-' := by
        rintro rfl
        cases isDigit
      simp [exponent, isMark, noPlus, noMinus, read]
    · simp [exponent, isMark, read]
    · simp [exponent, isMark, read]

theorem isExponent_of_exponent {text found rest : List Char}
    (read : exponent text = some (found, rest)) : IsExponent found ∧ text = found ++ rest := by
  unfold exponent at read
  split at read
  · next mark text =>
    split at read
    · next isMark =>
      have markMem : mark ∈ ['e', 'E'] := by simpa using isMark
      split at read
      all_goals
        simp only [Option.bind_eq_bind, Option.bind_eq_some_iff, Option.some.injEq, Prod.mk.injEq,
          Prod.exists] at read
        obtain ⟨digits, _, read, rfl, rfl⟩ := read
        obtain ⟨isDigits, rfl⟩ := isDigits_of_digits read
      · exact ⟨.inr ⟨mark, markMem, ['+'], by simp, digits, isDigits, rfl⟩, rfl⟩
      · exact ⟨.inr ⟨mark, markMem, ['-'], by simp, digits, isDigits, rfl⟩, rfl⟩
      · exact ⟨.inr ⟨mark, markMem, [], by simp, digits, isDigits, rfl⟩, rfl⟩
    · cases read
      exact ⟨.inl rfl, rfl⟩
  · cases read
    exact ⟨.inl rfl, rfl⟩

/-- A fraction or an exponent begins with a mark of its own. -/
theorem ended_append {kind : Char → Bool} {text rest : List Char} (ended : Ended kind rest)
    (apart : ∀ first ∈ text.head?, kind first = false) : Ended kind (text ++ rest) := by
  cases text with
  | nil => exact ended
  | cons first text => exact ended_cons.mpr (apart first rfl)

theorem IsFraction.head?_eq {text : List Char} (isFraction : IsFraction text) :
    ∀ first ∈ text.head?, first = '.' := by
  rcases isFraction with rfl | ⟨digits, -, rfl⟩ <;> simp

theorem IsExponent.head?_eq {text : List Char} (isExponent : IsExponent text) :
    ∀ first ∈ text.head?, first = 'e' ∨ first = 'E' := by
  rcases isExponent with rfl | ⟨mark, markMem, _, _, _, _, rfl⟩
  · simp
  · simpa using markMem

theorem unsigned_append {front fractional exponential rest : List Char} (isWhole : IsWhole front)
    (isFraction : IsFraction fractional) (isExponent : IsExponent exponential)
    (ended : Ended continuesNumber rest) :
    unsigned (front ++ fractional ++ exponential ++ rest) =
      some (front ++ fractional ++ exponential, rest) := by
  have noDigit : Ended Char.isDigit (exponential ++ rest) := by
    apply ended_append (ended.of_imp (by simp +contextual [continuesNumber]))
    intro first starts
    rcases isExponent.head?_eq first starts with rfl | rfl <;> rfl
  have noPoint : Ended (· == '.') (exponential ++ rest) := by
    apply ended_append (ended.of_imp (by simp +contextual [continuesNumber]))
    intro first starts
    rcases isExponent.head?_eq first starts with rfl | rfl <;> rfl
  have afterWhole : Ended Char.isDigit (fractional ++ (exponential ++ rest)) := by
    apply ended_append noDigit
    intro first starts
    rw [isFraction.head?_eq first starts]
    rfl
  rw [unsigned, List.append_assoc, List.append_assoc, whole_append isWhole afterWhole]
  simp [fraction_append isFraction noDigit noPoint, exponent_append isExponent ended]

theorem isUnsigned_of_unsigned {text found rest : List Char}
    (read : unsigned text = some (found, rest)) :
    ∃ front fractional exponential, IsWhole front ∧ IsFraction fractional ∧
      IsExponent exponential ∧ found = front ++ fractional ++ exponential ∧
        text = found ++ rest := by
  simp only [unsigned, Option.bind_eq_bind, Option.bind_eq_some_iff, Option.some.injEq,
    Prod.mk.injEq, Prod.exists] at read
  obtain ⟨front, _, frontRead, fractional, _, fractionalRead, exponential, _, exponentialRead,
    rfl, rfl⟩ := read
  obtain ⟨isWhole, rfl⟩ := isWhole_of_whole frontRead
  obtain ⟨isFraction, rfl⟩ := isFraction_of_fraction fractionalRead
  obtain ⟨isExponent, rfl⟩ := isExponent_of_exponent exponentialRead
  exact ⟨front, fractional, exponential, isWhole, isFraction, isExponent, rfl, by simp⟩

theorem IsWhole.exists_cons {text : List Char} (isWhole : IsWhole text) :
    ∃ first others, text = first :: others ∧ first.isDigit = true := by
  rcases isWhole with rfl | ⟨isDigits, -⟩
  · exact ⟨_, _, rfl, rfl⟩
  · obtain ⟨first, others, rfl⟩ := List.exists_cons_of_ne_nil isDigits.1
    exact ⟨_, _, rfl, isDigits.2 first List.mem_cons_self⟩

/-- A number begins with its sign or a digit. -/
theorem IsNumeral.exists_cons {text : List Char} (isNumeral : IsNumeral text) :
    ∃ first others, text = first :: others ∧ (first = '-' ∨ first.isDigit = true) := by
  obtain ⟨sign, signMem, front, fractional, exponential, isWhole, -, -, rfl⟩ := isNumeral
  obtain ⟨first, others, rfl, isDigit⟩ := isWhole.exists_cons
  simp only [List.mem_cons, List.not_mem_nil, or_false] at signMem
  rcases signMem with rfl | rfl
  · exact ⟨_, _, rfl, .inr isDigit⟩
  · exact ⟨_, _, rfl, .inl rfl⟩

/-- A number is read as its literal. -/
theorem numeral_append {text rest : List Char} (isNumeral : IsNumeral text)
    (ended : Ended continuesNumber rest) :
    numeral (text ++ rest) = some (.number (String.ofList text), rest) := by
  obtain ⟨sign, signMem, front, fractional, exponential, isWhole, isFraction, isExponent, rfl⟩ :=
    isNumeral
  have read := unsigned_append isWhole isFraction isExponent ended
  simp only [List.mem_cons, List.not_mem_nil, or_false] at signMem
  rcases signMem with rfl | rfl
  · rw [List.nil_append, numeral, read]
    · rfl
    · obtain ⟨first, others, rfl, isDigit⟩ := isWhole.exists_cons
      intro more starts
      cases starts
      cases isDigit
  · rw [List.append_assoc, List.singleton_append, numeral, read]
    rfl

theorem isNumeral_of_numeral {text rest : List Char} {value : Json}
    (read : numeral text = some (value, rest)) :
    ∃ literal, IsNumeral literal ∧ value = .number (String.ofList literal) ∧
      text = literal ++ rest := by
  unfold numeral at read
  split at read
  all_goals
    simp only [Option.bind_eq_bind, Option.bind_eq_some_iff, Option.some.injEq, Prod.mk.injEq,
      Prod.exists] at read
    obtain ⟨found, _, read, rfl, rfl⟩ := read
    obtain ⟨front, fractional, exponential, isWhole, isFraction, isExponent, rfl, rfl⟩ :=
      isUnsigned_of_unsigned read
  · exact ⟨_, ⟨['-'], by simp, _, _, _, isWhole, isFraction, isExponent, rfl⟩, rfl, rfl⟩
  · exact ⟨_, ⟨[], by simp, _, _, _, isWhole, isFraction, isExponent, rfl⟩, rfl, rfl⟩

end LibPrint.Json
