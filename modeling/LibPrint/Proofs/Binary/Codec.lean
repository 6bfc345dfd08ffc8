import LibPrint.Binary.Codec
import Mathlib.Algebra.Order.Ring.Nat

/-!
# Reading back what was written

A codec restores a value when reading what was written for it gives the value again, and leaves
whatever stands after it. The codecs of composite values restore them when those of their parts do.
Lengths are written in eight bytes. As every value takes up some bytes, that is enough for all the
lists in what is shorter than `2 ^ 64` bytes, so this one bound stands for a bound on each of them.
-/

namespace LibPrint.Codec

variable {α β : Type}

/-- What the codec writes for the value is read as this value, whatever comes after it. -/
structure Restores (codec : Codec α) (value : α) : Prop where
  occupied : 0 < (codec.write value).length
  read_write : (codec.write value).length < 2 ^ 64 → ∀ rest,
    codec.read (codec.write value ++ rest) = some (value, rest)

/-! ## Numbers -/

@[simp] theorem length_writeWord (width number : Nat) :
    (writeWord width number).length = width := by
  induction width generalizing number with
  | zero => rfl
  | succ width ih => simp [writeWord, ih]

theorem readWord_writeWord {width number : Nat} (bounded : number < 256 ^ width)
    (rest : List UInt8) :
    readWord width (writeWord width number ++ rest) = some (number, rest) := by
  induction width generalizing number with
  | zero =>
      have zero : number = 0 := by simpa using bounded
      simp [writeWord, readWord, zero]
  | succ width ih =>
      have high : number / 256 < 256 ^ width := by
        rw [Nat.pow_succ] at bounded
        exact Nat.div_lt_of_lt_mul (by rwa [Nat.mul_comm])
      simp [writeWord, readWord, ih high, Nat.mod_add_div]

theorem word_restores {width number : Nat} (wide : 0 < width) (bounded : number < 256 ^ width) :
    (word width).Restores number where
  occupied := by simpa [word] using wide
  read_write _ := readWord_writeWord bounded

theorem size_restores {number : Nat} (bounded : number < 2 ^ 64) : size.Restores number :=
  word_restores (by decide) bounded

/-! ## Combinations -/

theorem Restores.pair {first : Codec α} {second : Codec β} {left : α} {right : β}
    (onLeft : first.Restores left) (onRight : second.Restores right) :
    (first.pair second).Restores (left, right) where
  occupied := by
    have := onLeft.occupied
    simp only [Codec.pair, List.length_append]
    omega
  read_write := by
    intro short rest
    simp only [Codec.pair, List.length_append] at short
    have readLeft := onLeft.read_write (by omega) (second.write right ++ rest)
    have readRight := onRight.read_write (by omega) rest
    simp [Codec.pair, readLeft, readRight]

theorem Restores.convert {codec : Codec α} {toStored : β → α} {ofStored? : α → Option β}
    {value : β} (stored : codec.Restores (toStored value))
    (inverse : ofStored? (toStored value) = some value) :
    (codec.convert toStored ofStored?).Restores value where
  occupied := stored.occupied
  read_write := by
    intro short rest
    simp [Codec.convert, stored.read_write short rest, inverse]

theorem byte_restores (value : UInt8) : byte.Restores value where
  occupied := by simp [byte]
  read_write _ _ := rfl

theorem bool_restores (value : Bool) : bool.Restores value :=
  (byte_restores _).convert (by cases value <;> rfl)

theorem oneOf_restores [DecidableEq α] {values : List α} {value : α} (member : value ∈ values)
    (few : values.length ≤ 256 ^ 4) : (oneOf values).Restores value := by
  have inside : values.idxOf value < values.length := List.idxOf_lt_length_of_mem member
  apply Restores.convert
  · exact word_restores (by decide) (Nat.lt_of_lt_of_le inside few)
  · exact List.getElem?_eq_some_iff.mpr ⟨inside, List.getElem_idxOf inside⟩

theorem option_restores {item : Codec α} {value : Option α}
    (present : ∀ content ∈ value, item.Restores content) : (option item).Restores value where
  occupied := by cases value <;> simp [option, bool, Codec.convert, byte]
  read_write := by
    intro short rest
    cases value with
    | none =>
        have flag := (bool_restores false).read_write (by decide) rest
        simp [option, flag]
    | some content =>
        simp only [option, List.length_append] at short
        have flag := (bool_restores true).read_write (by decide) (item.write content ++ rest)
        have inside := (present content rfl).read_write (by omega) rest
        simp [option, flag, inside]

/-! ## Lists -/

variable {item : Codec α} {values : List α}

/-- There are not more items than bytes. -/
theorem length_le_length_flatMap_write (each : ∀ value ∈ values, item.Restores value) :
    values.length ≤ (values.flatMap item.write).length := by
  induction values with
  | nil => simp
  | cons value values ih =>
      rw [List.forall_mem_cons] at each
      have first := each.1.occupied
      have others := ih each.2
      simp only [List.length_cons, List.flatMap_cons, List.length_append]
      omega

theorem readMany_flatMap_write (each : ∀ value ∈ values, item.Restores value)
    (short : (values.flatMap item.write).length < 2 ^ 64) (rest : List UInt8) :
    readMany item.read values.length (values.flatMap item.write ++ rest) = some (values, rest) := by
  induction values with
  | nil => rfl
  | cons value values ih =>
      rw [List.forall_mem_cons] at each
      simp only [List.flatMap_cons, List.length_append] at short
      have first := each.1.read_write (by omega) (values.flatMap item.write ++ rest)
      simp [readMany, first, ih each.2 (by omega)]

variable (item) in
/-- The list takes up more than any one item, by its length. -/
theorem length_write_add_le {value : α} (member : value ∈ values) :
    (item.write value).length + 8 ≤ ((list item).write values).length := by
  have part : (item.write value).length ≤ (values.flatMap item.write).length := by
    rw [List.flatMap_def]
    exact (List.sublist_flatten_of_mem (List.mem_map_of_mem member)).length_le
  simp only [list, writeAll, size, word, List.length_append, length_writeWord]
  omega

theorem list_restores (each : ∀ value ∈ values, item.Restores value) :
    (list item).Restores values where
  occupied := by
    simp only [list, writeAll, size, word, List.length_append, length_writeWord]
    omega
  read_write := by
    intro short rest
    simp only [list, writeAll, List.length_append] at short
    have counted : values.length < 2 ^ 64 := by
      have := length_le_length_flatMap_write each
      omega
    have header : size.read (size.write values.length ++ (values.flatMap item.write ++ rest)) =
        some (values.length, values.flatMap item.write ++ rest) :=
      readWord_writeWord counted _
    simp [list, writeAll, readAll, header, readMany_flatMap_write each (by omega) rest]

theorem text_restores (value : String) : text.Restores value :=
  (list_restores fun _ _ => byte_restores _).convert (Text.decode?_encode value)

/-! ## Nested values -/

section Nested

variable {γ : Type} {write : α → List UInt8} {read : Nat → List UInt8 → Option (α × List UInt8)}
  {first : Codec β} {second : Codec γ} {parts : α → β × γ × List α}
  {whole : β × γ × List α → Option α}

/-- A value may hold others of its kind: it is written as two fields and its children, and the
reader is given how deep it may go. What is written for a child is shorter than what is written for
its parent, so the number of bytes is deep enough. -/
theorem nested_restores
    (layer : ∀ depth, Codec.mk write (read (depth + 1)) =
      (first.pair (second.pair (list ⟨write, read depth⟩))).convert parts whole)
    (inverse : ∀ value, whole (parts value) = some value) (suited : α → Prop)
    (fields : ∀ value, suited value → first.Restores (parts value).1 ∧
      second.Restores (parts value).2.1 ∧ ∀ child ∈ (parts value).2.2, suited child)
    {depth : Nat} {value : α} (isSuited : suited value) (deep : (write value).length ≤ depth) :
    (Codec.mk write (read depth)).Restores value := by
  have written (depth : Nat) (value : α) : write value =
      first.write (parts value).1 ++ (second.write (parts value).2.1 ++
        (list ⟨write, read depth⟩).write (parts value).2.2) :=
    congrFun (congrArg Codec.write (layer depth)) value
  induction depth generalizing value with
  | zero =>
      rw [written 0 value] at deep
      simp [list, writeAll, size, word] at deep
  | succ depth ih =>
      obtain ⟨onFirst, onSecond, below⟩ := fields value isSuited
      rw [layer]
      refine Restores.convert ?_ (inverse value)
      refine onFirst.pair (onSecond.pair (list_restores ?_))
      intro child member
      have shorter : (write child).length + 8 ≤
          ((list ⟨write, read depth⟩).write (parts value).2.2).length :=
        length_write_add_le ⟨write, read depth⟩ member
      rw [written depth value] at deep
      simp only [List.length_append] at deep
      exact ih (below child member) (by omega)

end Nested

end LibPrint.Codec
