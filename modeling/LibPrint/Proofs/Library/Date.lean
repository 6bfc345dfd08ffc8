import LibPrint.Library.Description
import Mathlib.Algebra.Order.Ring.Nat

/-!
# Dates and their texts

Every date is read back from its text, those with a signed year included. A number is written in
digits only, and what stands after it in a date is a point or the end, so its end is found again.
-/

namespace LibPrint

namespace Number

theorem value_eq_ofDigitChars (digits : List Char) :
    value digits = Nat.ofDigitChars 10 digits 0 := by
  rw [Nat.ofDigitChars_eq_foldl]
  rfl

end Number

namespace Calendar

theorem daysIn_le (year : Int) (month : Nat) : daysIn year month ≤ 31 := by
  grind [daysIn]

theorem month_le_of_daysIn_pos {year : Int} {month : Nat} (days : 0 < daysIn year month) :
    month ≤ 12 := by
  grind [daysIn]

end Calendar

namespace Date

/-! ## Numbers -/

theorem padded_eq (length number : Nat) :
    padded length number =
      List.replicate (length - (Nat.toDigits 10 number).length) '0' ++ Nat.toDigits 10 number := by
  simp only [padded, Nat.toString_eq_repr, Nat.toList_repr]

theorem isDigit_of_mem_padded {length number : Nat} {character : Char}
    (member : character ∈ padded length number) : character.isDigit = true := by
  rw [padded_eq, List.mem_append] at member
  obtain zero | digit := member
  · rw [List.eq_of_mem_replicate zero]
    rfl
  · exact Nat.isDigit_of_mem_toDigits (by decide) (by decide) digit

theorem padded_ne_nil (length number : Nat) : padded length number ≠ [] := by
  simp [padded_eq, Nat.toDigits_ne_nil]

theorem value_padded (length number : Nat) : Number.value (padded length number) = number := by
  simp [Number.value_eq_ofDigitChars, padded_eq, Nat.ofDigitChars_append]

theorem length_padded {length number : Nat} (positive : 0 < length)
    (bounded : number < 10 ^ length) : (padded length number).length = length := by
  have short := (Nat.length_toDigits_le_iff (by decide) positive).mpr bounded
  simp only [padded_eq, List.length_append, List.length_replicate]
  omega

/-- A number is read up to the first character that is no digit. -/
theorem digits?_padded {most length number : Nat}
    (short : (padded length number).length ≤ most) (rest : List Char)
    (ended : ∀ next ∈ rest.head?, next.isDigit = false) :
    digits? most (padded length number ++ rest) = some (number, rest) := by
  have found : ((padded length number ++ rest).take most).takeWhile Char.isDigit =
      padded length number := by
    rw [List.take_append, List.take_of_length_le short,
      List.takeWhile_append_of_pos fun _ => isDigit_of_mem_padded]
    cases rest with
    | nil => simp
    | cons next rest =>
        have stop : next.isDigit = false := ended next rfl
        cases most - (padded length number).length <;> simp [stop]
  rw [digits?, found]
  split
  · next empty => exact absurd empty (padded_ne_nil length number)
  · simp [value_padded]

/-! ## Blanks -/

theorem isBlank_of_isDigit {character : Char} (digit : character.isDigit = true) :
    Text.isBlank character = false := by
  have bounds : 48 ≤ character.toNat ∧ character.toNat ≤ 57 := by
    simpa [Char.isDigit, UInt32.le_iff_toNat_le] using digit
  simp only [Text.isBlank, Bool.or_eq_false_iff, Bool.and_eq_false_iff, beq_eq_false_iff_ne,
    decide_eq_false_iff_not]
  omega

/-- No blank stands before a number. -/
theorem dropWhile_isBlank_padded (length number : Nat) (rest : List Char) :
    (padded length number ++ rest).dropWhile Text.isBlank = padded length number ++ rest := by
  obtain ⟨first, others, cons⟩ := List.exists_cons_of_ne_nil (padded_ne_nil length number)
  have digit : first.isDigit = true := isDigit_of_mem_padded (cons ▸ List.mem_cons_self)
  simp [cons, isBlank_of_isDigit digit]

/-- No blank stands after a number. -/
theorem dropEndWhile_isBlank_padded (front : List Char) (length number : Nat) :
    Text.dropEndWhile Text.isBlank (front ++ padded length number) =
      front ++ padded length number := by
  obtain ⟨others, last, snoc⟩ : ∃ others last, padded length number = others ++ [last] :=
    ⟨_, _, (List.dropLast_concat_getLast (padded_ne_nil length number)).symm⟩
  have member : last ∈ padded length number := by simp [snoc]
  simp [Text.dropEndWhile, snoc, isBlank_of_isDigit (isDigit_of_mem_padded member)]

/-! ## Years -/

/-- A year ends in the digits of its amount; what is before them is a sign at most. -/
theorem yearText_eq_append (year : Int) :
    ∃ sign, yearText year = sign ++ padded 4 year.natAbs := by
  unfold yearText
  split
  · exact ⟨[], (List.nil_append _).symm⟩
  · exact ⟨[_], List.singleton_append.symm⟩

theorem dropWhile_isBlank_yearText (year : Int) :
    (yearText year).dropWhile Text.isBlank = yearText year := by
  unfold yearText
  split
  · simpa using dropWhile_isBlank_padded 4 year.natAbs []
  · by_cases negative : year < 0
    · simp [negative, show Text.isBlank '-' = false from rfl]
    · simp [negative, show Text.isBlank '+' = false from rfl]

/-- A year that begins with a digit has no sign. -/
theorem year?_of_isDigit {first : Char} (digit : first.isDigit = true) (others : List Char) :
    year? (first :: others) =
      (digits? 4 (first :: others)).map fun (year, rest) => ((year : Int), rest) := by
  unfold year?
  split
  · next plus =>
    cases plus
    cases digit
  · next minus =>
    cases minus
    cases digit
  · rfl

theorem year?_yearText (year : Int) : year? (yearText year) = some (year, []) := by
  have digits {most : Nat} (short : (padded 4 year.natAbs).length ≤ most) :
      digits? most (padded 4 year.natAbs) = some (year.natAbs, []) := by
    simpa using digits?_padded short [] (by simp)
  unfold yearText
  split
  · next plain =>
    have length : (padded 4 year.natAbs).length ≤ 4 :=
      Nat.le_of_eq (length_padded (by decide) (by omega))
    have number := digits length
    obtain ⟨first, others, cons⟩ := List.exists_cons_of_ne_nil (padded_ne_nil 4 year.natAbs)
    have digit : first.isDigit = true := isDigit_of_mem_padded (cons ▸ List.mem_cons_self)
    rw [cons] at number ⊢
    have amount : (year.natAbs : Int) = year := Int.natAbs_of_nonneg plain.1
    simp only [year?_of_isDigit digit, number, Option.map_some, amount]
  · next signed =>
    by_cases negative : year < 0
    · have amount : -(year.natAbs : Int) = year := by omega
      simp only [negative, if_true, year?, digits (Nat.le_refl _), Option.map_some, amount]
    · have amount : (year.natAbs : Int) = year := by omega
      simp only [negative, if_false, year?, digits (Nat.le_refl _), Option.map_some, amount]

/-! ## Dates -/

theorem day_le (date : Date) : 1 ≤ date.day ∧ date.day ≤ Calendar.daysIn date.year date.month := by
  have isDay := date.exists_day
  simp only [Calendar.isDay, Bool.and_eq_true, decide_eq_true_eq] at isDay
  omega

theorem day_lt (date : Date) : date.day < 10 ^ 2 := by
  have isDay := date.day_le
  have short := Calendar.daysIn_le date.year date.month
  omega

theorem month_lt (date : Date) : date.month < 10 ^ 2 := by
  have isDay := date.day_le
  have isMonth := Calendar.month_le_of_daysIn_pos (Nat.lt_of_lt_of_le isDay.1 isDay.2)
  omega

theorem toList_text (date : Date) :
    date.text.toList =
      padded 2 date.day ++ '.' :: (padded 2 date.month ++ '.' :: yearText date.year) := by
  simp [text]

theorem ofText?_text (date : Date) : ofText? date.text = some date := by
  have day (rest : List Char) : digits? 2 (padded 2 date.day ++ '.' :: rest) =
      some (date.day, '.' :: rest) :=
    digits?_padded (Nat.le_of_eq (length_padded (by decide) date.day_lt)) _ (by simp)
  have month (rest : List Char) : digits? 2 (padded 2 date.month ++ '.' :: rest) =
      some (date.month, '.' :: rest) :=
    digits?_padded (Nat.le_of_eq (length_padded (by decide) date.month_lt)) _ (by simp)
  simp [ofText?, toList_text, dropWhile_isBlank_padded, dropWhile_isBlank_yearText, day, month,
    afterPoint?, year?_yearText, date.exists_day]

/-- A date's text has no blanks at its ends. -/
theorem trim_text (date : Date) : Text.trim date.text = date.text := by
  obtain ⟨sign, year⟩ := yearText_eq_append date.year
  have ended : date.text.toList =
      (padded 2 date.day ++ '.' :: (padded 2 date.month ++ '.' :: sign)) ++
        padded 4 date.year.natAbs := by
    simp [toList_text, year]
  have begun : date.text.toList.dropWhile Text.isBlank = date.text.toList := by
    rw [toList_text, dropWhile_isBlank_padded]
  rw [Text.trim, Text.trimBlanks, begun, ended, dropEndWhile_isBlank_padded, ← ended,
    String.ofList_toList]

theorem readOptional?_text (date : Date) : readOptional? date.text = some (some date) := by
  have occupied : date.text ≠ "" := by
    intro empty
    have letters := toList_text date
    simp [empty] at letters
  simp [readOptional?, trim_text, occupied, ofText?_text]

end Date

end LibPrint
