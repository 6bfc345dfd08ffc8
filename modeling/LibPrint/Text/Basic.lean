/-!
# Texts

Texts are sequences of code points. Here is what is asked of them whatever they say: how they are
ordered, where they are cut, what counts as blank, and how bytes become text and text bytes.
-/

/-!
## Sets of code points

A property of characters as the ranges of code points that have it, each from its first to its last,
in ascending order.
-/

namespace LibPrint.Text

/-- A set of code points. -/
abbrev CodeRanges := List (Nat × Nat)

/-- Whether a character belongs to the set. -/
def CodeRanges.holds (ranges : CodeRanges) (character : Char) : Bool :=
  ranges.any fun (first, last) => first ≤ character.toNat && character.toNat ≤ last

/-!
## Order of texts

Texts are ordered by code point, which is also the order of their UTF-8 bytes. Sorting is stable.
-/

/-- Whether the first text does not come after the second. -/
def le (left right : String) : Bool :=
  (compare left right).isLE

/-- The texts in order. -/
def sort (texts : List String) : List String :=
  texts.mergeSort le

/-- The different ones among the texts, in order. -/
def sortDistinct (texts : List String) : List String :=
  (sort texts).eraseReps

/-- The order of what may be absent: absent comes first. -/
def compareOptional : Option String → Option String → Ordering
  | none, none => .eq
  | none, some _ => .lt
  | some _, none => .gt
  | some left, some right => compare left right

/-!
## Pieces of a text

Cutting a text at separators, and what stands before and after the last one.
-/

/-- The pieces between the separators; a text without one is a single piece. -/
def pieces (separator : Char) (text : String) : List String :=
  (text.toList.splitOn separator).map String.ofList

/-- What stands before the last separator, or `none` when there is no separator. -/
def beforeLast? (separator : Char) (text : List Char) : Option (List Char) :=
  match text.reverse.dropWhile (· != separator) with
  | [] => none
  | _ :: front => some front.reverse

/-- What stands after the last separator: the whole text when there is none. -/
def afterLast (separator : Char) (text : List Char) : List Char :=
  (text.reverse.takeWhile (· != separator)).reverse

/-- The text after the given start, or `none` when it starts otherwise. -/
def afterStart? : (start text : List Char) → Option (List Char)
  | [], text => some text
  | _ :: _, [] => none
  | expected :: start, character :: text =>
      if expected = character then afterStart? start text else none

/-- Whether the text begins with the given start. -/
def startsWith (start text : String) : Bool :=
  (afterStart? start.toList text.toList).isSome

theorem afterStart?_eq_some_iff {start text rest : List Char} :
    afterStart? start text = some rest ↔ text = start ++ rest := by
  induction start generalizing text with
  | nil => simp [afterStart?, eq_comm]
  | cons expected start ih =>
      cases text with
      | nil => simp [afterStart?]
      | cons character text =>
          by_cases equal : expected = character
          · simp [afterStart?, equal, ih]
          · simp [afterStart?, equal, Ne.symm equal]

/-!
## Blanks

Which characters are white space, and trimming by it. The set is the Unicode property
`White_Space`, so a no-break space or an ideographic space is trimmed like a plain one.
-/

/-- The code points with the property `White_Space`. -/
def isBlank (character : Char) : Bool :=
  let code := character.toNat
  (0x09 ≤ code && code ≤ 0x0d) || code == 0x20 || code == 0x85 || code == 0xa0 ||
    code == 0x1680 || (0x2000 ≤ code && code ≤ 0x200a) || code == 0x2028 || code == 0x2029 ||
    code == 0x202f || code == 0x205f || code == 0x3000

/-- The text without the longest run at its end that satisfies the test. -/
def dropEndWhile (test : Char → Bool) (text : List Char) : List Char :=
  (text.reverse.dropWhile test).reverse

/-- The text without the blanks at its two ends. -/
def trimBlanks (text : List Char) : List Char :=
  dropEndWhile isBlank (text.dropWhile isBlank)

/-- `trimBlanks` on strings. -/
def trim (text : String) : String :=
  String.ofList (trimBlanks text.toList)

/-- The text with its ASCII capitals made small; all other characters stay. -/
def lowerAscii (text : String) : String :=
  String.ofList (text.toList.map Char.toLower)

/-!
## Hexadecimal text

Bytes and words written with lower-case hexadecimal digits, two for a byte, and read back.
-/

/-- The digit of a value below sixteen. -/
def hexDigit (value : Nat) : Char :=
  if value < 10 then Char.ofNat (48 + value) else Char.ofNat (87 + value)

/-- The value of a digit, capitals included. -/
def hexValue? (digit : Char) : Option Nat :=
  if '0' ≤ digit ∧ digit ≤ '9' then some (digit.toNat - 48)
  else if 'a' ≤ digit ∧ digit ≤ 'f' then some (digit.toNat - 87)
  else if 'A' ≤ digit ∧ digit ≤ 'F' then some (digit.toNat - 55)
  else none

/-- Two digits for every byte. -/
def hexOfBytes (bytes : List UInt8) : List Char :=
  bytes.flatMap fun byte => [hexDigit (byte.toNat / 16), hexDigit (byte.toNat % 16)]

/-- The bytes of an even number of digits. -/
def bytesOfHex? : List Char → Option (List UInt8)
  | [] => some []
  | [_] => none
  | high :: low :: digits => do
      let high ← hexValue? high
      let low ← hexValue? low
      let bytes ← bytesOfHex? digits
      some (UInt8.ofNat (16 * high + low) :: bytes)

/-!
## Bytes as text

UTF-8 in both directions, and the UTF-16 code units of a text. Decoding comes in two kinds:
`decode?` refuses malformed bytes, `decodeLossy` puts U+FFFD for each longest start of a
sequence that cannot be completed.
-/

/-- What the first byte of a longer sequence announces: its share of the code point, the range of
the byte after it, and the number of plain continuation bytes that follow those two. -/
structure Lead where
  payload : Nat
  low : UInt8
  high : UInt8
  more : Nat

namespace Lead

/-- The second byte is narrowed where the plain range would admit an overlong form, a surrogate
or a value above U+10FFFF. -/
def ofByte? (byte : UInt8) : Option Lead :=
  if 0xc2 ≤ byte ∧ byte ≤ 0xdf then some ⟨byte.toNat % 0x20, 0x80, 0xbf, 0⟩
  else if byte = 0xe0 then some ⟨0, 0xa0, 0xbf, 1⟩
  else if byte = 0xed then some ⟨0xd, 0x80, 0x9f, 1⟩
  else if 0xe1 ≤ byte ∧ byte ≤ 0xef then some ⟨byte.toNat % 0x10, 0x80, 0xbf, 1⟩
  else if byte = 0xf0 then some ⟨0, 0x90, 0xbf, 2⟩
  else if byte = 0xf4 then some ⟨4, 0x80, 0x8f, 2⟩
  else if 0xf1 ≤ byte ∧ byte ≤ 0xf3 then some ⟨byte.toNat % 8, 0x80, 0xbf, 2⟩
  else none

end Lead

/-- Reads the given number of continuation bytes onto a code point; on a malformed one it stops
before it. The second part is always an end of the input. -/
def continuation (code : Nat) : (more : Nat) → List UInt8 → Option Nat × List UInt8
  | 0, bytes => (some code, bytes)
  | _ + 1, [] => (none, [])
  | more + 1, byte :: bytes =>
      if 0x80 ≤ byte ∧ byte ≤ 0xbf then continuation (code * 0x40 + byte.toNat % 0x40) more bytes
      else (none, byte :: bytes)

theorem length_continuation_le (code more : Nat) (bytes : List UInt8) :
    (continuation code more bytes).2.length ≤ bytes.length := by
  induction more generalizing code bytes with
  | zero => simp [continuation]
  | succ more ih =>
      cases bytes with
      | nil => simp [continuation]
      | cons byte bytes =>
          simp only [continuation]
          split
          · exact Nat.le_trans (ih _ _) (by simp)
          · simp

/-- The code point that starts with the given byte and the bytes after it; `none` in place of the
code point when the sequence is malformed, and then as much is passed over as could have begun a
well-formed one. -/
def codePoint (first : UInt8) (bytes : List UInt8) : Option Nat × List UInt8 :=
  if first < 0x80 then (some first.toNat, bytes)
  else
    match Lead.ofByte? first, bytes with
    | none, _ | some _, [] => (none, bytes)
    | some lead, second :: rest =>
        if lead.low ≤ second ∧ second ≤ lead.high then
          continuation (lead.payload * 0x40 + second.toNat % 0x40) lead.more rest
        else (none, bytes)

theorem length_codePoint_le (first : UInt8) (bytes : List UInt8) :
    (codePoint first bytes).2.length ≤ bytes.length := by
  unfold codePoint
  split
  · simp
  · split
    · simp
    · simp
    · split
      · exact Nat.le_trans (length_continuation_le _ _ _) (by simp)
      · simp

/-- The code points of the bytes, with `none` for every malformed part. -/
def codePoints : List UInt8 → List (Option Nat)
  | [] => []
  | first :: bytes => (codePoint first bytes).1 :: codePoints (codePoint first bytes).2
termination_by bytes => bytes.length
decreasing_by
  have := length_codePoint_le first bytes
  simp only [List.length_cons]
  omega

/-- The text with U+FFFD in place of every malformed part. -/
def decodeLossy (bytes : List UInt8) : List Char :=
  (codePoints bytes).map fun code? => Char.ofNat (code?.getD 0xfffd)

/-- The bytes of a text. -/
def encode (text : String) : List UInt8 :=
  text.toUTF8.data.toList

/-- The text of well-formed bytes, and `none` otherwise. -/
def decode? (bytes : List UInt8) : Option String :=
  String.fromUTF8? ⟨bytes.toArray⟩

/-- Decoding gives every text back from its bytes. -/
theorem decode?_encode (text : String) : decode? (encode text) = some text := by
  have same : (⟨(encode text).toArray⟩ : ByteArray) = text.toUTF8 := by simp [encode]
  rw [decode?, same, String.fromUTF8?, String.toUTF8_eq_toByteArray, dif_pos text.isValidUTF8]
  rfl

/-- The UTF-16 code units of a character: itself, or a pair of surrogates. -/
def units16 (character : Char) : List UInt32 :=
  let code := character.val
  if code < 0x10000 then [code]
  else [0xd800 + (code - 0x10000) / 0x400, 0xdc00 + (code - 0x10000) % 0x400]

end LibPrint.Text
