import LibPrint.Text.Basic

/-!
# Binary formats

Values as bytes, one after the other without padding. Whole numbers have a fixed width, least byte
first; texts and lists begin with their length in eight bytes, and what may be absent with a byte
that says whether it is there. A reader gives back the value with the bytes after it.
-/

namespace LibPrint

/-- How values of a type are written and read. -/
structure Codec (α : Type) where
  write : α → List UInt8
  read : List UInt8 → Option (α × List UInt8)

namespace Codec

/-- The low bytes of a number, least first. -/
def writeWord : (width : Nat) → Nat → List UInt8
  | 0, _ => []
  | width + 1, number => UInt8.ofNat number :: writeWord width (number / 256)

/-- The number in the given count of bytes. -/
def readWord : (width : Nat) → List UInt8 → Option (Nat × List UInt8)
  | 0, bytes => some (0, bytes)
  | _ + 1, [] => none
  | width + 1, byte :: bytes => do
      let (high, rest) ← readWord width bytes
      some (byte.toNat + 256 * high, rest)

/-- A number below `256 ^ width`. -/
def word (width : Nat) : Codec Nat :=
  ⟨writeWord width, readWord width⟩

/-- A length or a count. -/
def size : Codec Nat :=
  word 8

def byte : Codec UInt8 where
  write byte := [byte]
  read
    | [] => none
    | byte :: bytes => some (byte, bytes)

/-- Writes the values one after the other. -/
def writeAll {α : Type} (write : α → List UInt8) (values : List α) : List UInt8 :=
  size.write values.length ++ values.flatMap write

/-- Reads as many values as asked for. -/
def readMany {α : Type} (read : List UInt8 → Option (α × List UInt8)) :
    (count : Nat) → List UInt8 → Option (List α × List UInt8)
  | 0, bytes => some ([], bytes)
  | count + 1, bytes => do
      let (value, bytes) ← read bytes
      let (values, bytes) ← readMany read count bytes
      some (value :: values, bytes)

/-- Reads a length and that many values. -/
def readAll {α : Type} (read : List UInt8 → Option (α × List UInt8)) (bytes : List UInt8) :
    Option (List α × List UInt8) := do
  let (count, bytes) ← size.read bytes
  readMany read count bytes

/-- Values of one kind with their number in front. -/
def list {α : Type} (item : Codec α) : Codec (List α) :=
  ⟨writeAll item.write, readAll item.read⟩

/-- A format changed by a conversion, which may fail on reading. -/
def convert {α β : Type} (codec : Codec α) (toStored : β → α) (ofStored? : α → Option β) :
    Codec β where
  write value := codec.write (toStored value)
  read bytes := do
    let (stored, bytes) ← codec.read bytes
    let value ← ofStored? stored
    some (value, bytes)

/-- Two values, one after the other. -/
def pair {α β : Type} (first : Codec α) (second : Codec β) : Codec (α × β) where
  write value := first.write value.1 ++ second.write value.2
  read bytes := do
    let (left, bytes) ← first.read bytes
    let (right, bytes) ← second.read bytes
    some ((left, right), bytes)

/-- A text in UTF-8. -/
def text : Codec String :=
  (list byte).convert Text.encode Text.decode?

/-- A truth value as a byte that is zero or one. -/
def bool : Codec Bool :=
  byte.convert (fun value => if value then 1 else 0) fun byte =>
    if byte = 0 then some false else if byte = 1 then some true else none

/-- A value that may be absent. -/
def option {α : Type} (item : Codec α) : Codec (Option α) where
  write
    | none => bool.write false
    | some value => bool.write true ++ item.write value
  read bytes := do
    let (isPresent, bytes) ← bool.read bytes
    if isPresent then do
      let (value, bytes) ← item.read bytes
      some (some value, bytes)
    else some (none, bytes)

/-- One of the given values, by its place among them. -/
def oneOf {α : Type} [DecidableEq α] (values : List α) : Codec α :=
  (word 4).convert values.idxOf fun place => values[place]?

end Codec

end LibPrint
