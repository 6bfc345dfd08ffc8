import LibPrint.Text.Basic
import Mathlib.Data.List.Basic
import Mathlib.Data.List.TakeWhile
import Mathlib.Tactic.ByContra
import Mathlib.Tactic.SplitIfs

/-!
# Laws of texts

How the order of texts and the places where they are cut behave.
-/

/-!
## The order of texts

Texts are ordered by their code points, and that is the order of the bytes they are written as: the
first bytes in which two characters differ are in the order of the characters, whatever follows. A
text begins with another one when its bytes do, as no character's bytes are the start of another's.
-/

namespace LibPrint.Text

theorem compare_eq_lt_iff {left right : String} : compare left right = .lt ↔ left < right :=
  compareOfLessAndEq_eq_lt

theorem isLE_compare_iff {left right : String} :
    (compare left right).isLE = true ↔ left ≤ right := by
  have swapped : compare right left = (compare left right).swap := Std.OrientedCmp.eq_swap
  rw [← String.not_lt, ← compare_eq_lt_iff, swapped]
  cases compare left right <;> decide

theorem encode_eq_flatMap (text : String) :
    encode text = text.toList.flatMap String.utf8EncodeChar := by
  have bytes : text.toUTF8 = text.toList.utf8Encode := by
    rw [String.toUTF8_eq_toByteArray, ← String.toByteArray_ofList, String.ofList_toList]
  rw [encode, bytes, List.utf8Encode, List.data_toByteArray]

/-- A longer sequence of bytes begins with a greater byte, and sequences of one length are in the
order of the numbers whose digits, to the base of 64, are spread over their bytes. -/
theorem utf8EncodeChar_lt {left right : Char} (below : left < right) (front back : List UInt8) :
    String.utf8EncodeChar left ++ front < String.utf8EncodeChar right ++ back := by
  have order : left.val.toNat < right.val.toNat := below
  have small : right.val.toNat < 0x110000 := by
    rcases right.valid with low | high
    · exact Nat.lt_trans low (by decide)
    · exact high.2
  unfold String.utf8EncodeChar
  generalize left.val.toNat = low at order
  generalize right.val.toNat = high at order small
  have digits : low / 262144 < high / 262144 ∨ low / 262144 = high / 262144 ∧
      (low / 4096 % 64 < high / 4096 % 64 ∨ low / 4096 = high / 4096 ∧
        (low / 64 % 64 < high / 64 % 64 ∨ low / 64 = high / 64 ∧ low % 64 < high % 64)) := by
    omega
  dsimp only
  split_ifs <;>
    simp only [List.cons_append, List.nil_append, List.cons_lt_cons_iff, UInt8.lt_iff_toNat_lt,
      ← UInt8.toNat_inj, UInt8.toNat_ofNat'] <;>
    simp (disch := omega) only [Nat.mod_eq_of_lt] <;>
    omega

theorem flatMap_utf8EncodeChar_lt {lefts rights : List Char} (below : lefts < rights) :
    lefts.flatMap String.utf8EncodeChar < rights.flatMap String.utf8EncodeChar := by
  induction lefts generalizing rights with
  | nil =>
      cases rights with
      | nil => exact absurd below (List.not_lt_nil _)
      | cons right rights =>
          have occupied : String.utf8EncodeChar right ≠ [] := String.utf8EncodeChar_ne_nil
          obtain ⟨first, others, shape⟩ := List.exists_cons_of_ne_nil occupied
          rw [List.flatMap_cons, shape]
          exact List.nil_lt_cons _ _
  | cons left lefts ih =>
      cases rights with
      | nil => exact absurd below (List.not_lt_nil _)
      | cons right rights =>
          rw [List.flatMap_cons, List.flatMap_cons]
          rcases List.cons_lt_cons_iff.mp below with first | ⟨rfl, others⟩
          · exact utf8EncodeChar_lt first _ _
          · exact List.append_left_lt (ih others)

/-- The order of texts is that of their bytes. -/
theorem encode_lt_encode_iff {left right : String} : encode left < encode right ↔ left < right := by
  have forward {left right : String} (below : left < right) : encode left < encode right := by
    rw [encode_eq_flatMap, encode_eq_flatMap]
    exact flatMap_utf8EncodeChar_lt below
  refine ⟨fun below => ?_, forward⟩
  by_contra notBelow
  by_cases above : right < left
  · exact List.lt_asymm below (forward above)
  · have same : left = right :=
      String.le_antisymm (String.not_lt.mp above) (String.not_lt.mp notBelow)
    exact List.lt_irrefl _ (same ▸ below)

/-! ### Starts -/

theorem encode_append (front back : String) :
    encode (front ++ back) = encode front ++ encode back := by
  simp only [encode_eq_flatMap, String.toList_append, List.flatMap_append]

/-- The bytes of a text begin with those of another one when its characters do. -/
theorem encode_prefix_iff {start text : String} :
    encode start <+: encode text ↔ start.toList <+: text.toList := by
  constructor
  · rintro ⟨rest, parts⟩
    rw [encode_eq_flatMap, encode_eq_flatMap] at parts
    apply List.isPrefix_of_utf8Encode_append_eq_utf8Encode rest.toByteArray
    rw [List.utf8Encode, List.utf8Encode, ← parts, List.toByteArray_append]
  · rintro ⟨rest, parts⟩
    rw [encode_eq_flatMap, encode_eq_flatMap, ← parts, List.flatMap_append]
    exact List.prefix_append _ _

/-!
## Where a text is cut

What stands before and after the last separator, said about a text that is given as two parts with
the separator between them. Names are read from their ends, so these are the laws that class and
package names need. The pieces between all separators are those of the two parts.
-/

variable {separator : Char} {text front back : List Char}

/-- A separator that occurs occurs a last time. -/
theorem exists_last (occurs : separator ∈ text) :
    ∃ front back, text = front ++ separator :: back ∧ separator ∉ back := by
  have reversed : separator ∈ text.reverse := List.mem_reverse.mpr occurs
  obtain ⟨after, before, equal, absent⟩ := List.eq_append_cons_of_mem reversed
  refine ⟨before.reverse, after.reverse, ?_, ?_⟩
  · apply List.reverse_injective
    simp [equal]
  · exact fun member => absent (List.mem_reverse.mp member)

private theorem reverse_ne_of_absent (absent : separator ∉ text) :
    ∀ character ∈ text.reverse, (character != separator) = true := by
  intro character member
  rw [bne_iff_ne]
  rintro rfl
  exact absent (List.mem_reverse.mp member)

theorem beforeLast?_append (absent : separator ∉ back) :
    beforeLast? separator (front ++ separator :: back) = some front := by
  rw [beforeLast?, List.reverse_append, List.reverse_cons, List.append_assoc,
    List.dropWhile_append_of_pos (reverse_ne_of_absent absent)]
  simp

theorem beforeLast?_of_absent (absent : separator ∉ text) : beforeLast? separator text = none := by
  have skipped := List.dropWhile_eq_nil_iff.mpr (reverse_ne_of_absent absent)
  rw [beforeLast?, skipped]

theorem afterLast_append (absent : separator ∉ back) :
    afterLast separator (front ++ separator :: back) = back := by
  rw [afterLast, List.reverse_append, List.reverse_cons, List.append_assoc,
    List.takeWhile_append_of_pos (reverse_ne_of_absent absent)]
  simp

theorem afterLast_of_absent (absent : separator ∉ text) : afterLast separator text = text := by
  have taken := List.takeWhile_eq_self_iff.mpr (reverse_ne_of_absent absent)
  rw [afterLast, taken, List.reverse_reverse]

/-! ### All pieces -/

/-- A separator keeps the pieces before it from those after it. -/
theorem pieces_of_toList_eq {whole left right : String}
    (cut : whole.toList = left.toList ++ separator :: right.toList) :
    pieces separator whole = pieces separator left ++ pieces separator right := by
  rw [pieces, cut, List.splitOn_append_cons_self, List.map_append]
  rfl

theorem pieces_of_absent {whole : String} (absent : separator ∉ whole.toList) :
    pieces separator whole = [whole] := by
  rw [pieces, List.splitOn_eq_singleton absent, List.map_singleton, String.ofList_toList]

/-- No separator is left inside a piece. -/
theorem absent_of_mem_pieces {whole piece : String} (member : piece ∈ pieces separator whole) :
    separator ∉ piece.toList := by
  by_cases occurs : separator ∈ whole.toList
  · obtain ⟨front, back, cut, absent⟩ := exists_last occurs
    have parts : pieces separator whole =
        pieces separator (String.ofList front) ++ pieces separator (String.ofList back) := by
      apply pieces_of_toList_eq
      rw [cut, String.toList_ofList, String.toList_ofList]
    rw [parts] at member
    rcases List.mem_append.mp member with before | after
    · exact absent_of_mem_pieces before
    · rw [pieces_of_absent (by rwa [String.toList_ofList]), List.mem_singleton] at after
      rwa [after, String.toList_ofList]
  · rw [pieces_of_absent occurs, List.mem_singleton] at member
    rwa [member]
termination_by whole.toList.length
decreasing_by
  rw [cut, String.toList_ofList, List.length_append, List.length_cons]
  omega

/-- What has no separator in it goes behind the last piece of the text it is put behind. -/
theorem exists_pieces_append {whole behind : String} (absent : separator ∉ behind.toList) :
    ∃ front last, pieces separator whole = front ++ [last] ∧
      pieces separator (whole ++ behind) = front ++ [last ++ behind] := by
  by_cases occurs : separator ∈ whole.toList
  · obtain ⟨front, last, cut, missing⟩ := exists_last occurs
    have plain : separator ∉ (String.ofList last).toList := by rwa [String.toList_ofList]
    have plainToo : separator ∉ (String.ofList last ++ behind).toList := by
      rw [String.toList_append, List.mem_append]
      exact not_or.mpr ⟨plain, absent⟩
    refine ⟨pieces separator (String.ofList front), String.ofList last, ?_, ?_⟩
    · rw [← pieces_of_absent plain]
      apply pieces_of_toList_eq
      rw [cut, String.toList_ofList, String.toList_ofList]
    · rw [← pieces_of_absent plainToo]
      apply pieces_of_toList_eq
      simp [cut]
  · refine ⟨[], whole, pieces_of_absent occurs, pieces_of_absent ?_⟩
    rw [String.toList_append, List.mem_append]
    exact not_or.mpr ⟨occurs, absent⟩

/-- The pieces with the separators between them are the text again. -/
theorem intercalate_pieces (separator : Char) (whole : String) :
    (String.singleton separator).intercalate (pieces separator whole) = whole := by
  rw [← String.toList_inj, String.toList_intercalate, pieces, List.map_map]
  have plain : String.toList ∘ String.ofList = id := funext fun _ => String.toList_ofList
  rw [plain, List.map_id, String.toList_singleton, List.intercalate_splitOn]

end LibPrint.Text
