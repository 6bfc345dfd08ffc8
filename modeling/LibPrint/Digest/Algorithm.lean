import LibPrint.Digest.Functions
import LibPrint.Text.Basic

/-!
# Digesting

The values that hash trees are made of, and the algorithms they come from.
-/

/-!
## Digests

The value a hash tree keeps at each node: a byte string, ordered by its first differing byte, a
proper start before what continues it. The order is the one siblings are sorted by, so it decides
the hash of everything above them.
-/

namespace LibPrint

/-- A digest. -/
structure Digest where
  bytes : List UInt8
deriving DecidableEq, Inhabited

namespace Digest

/-- The order of digests: byte by byte, a proper start first. -/
instance : Ord Digest where
  compare left right := compare left.bytes right.bytes

/-- All bytes in hexadecimal. -/
def toHex (digest : Digest) : String :=
  String.ofList (Text.hexOfBytes digest.bytes)

/-- The first eight hexadecimal digits. -/
def short (digest : Digest) : String :=
  String.ofList ((Text.hexOfBytes digest.bytes).take 8)

/-- The short form as shown in messages. -/
def display (digest : Digest) : String :=
  "NodeHash(" ++ digest.short ++ ")"

theorem compare_eq (left right : Digest) :
    compare left right = compare left.bytes right.bytes := rfl

instance : Std.LawfulEqOrd Digest where
  eq_of_compare {left right} equal := by
    cases left
    cases right
    exact congrArg Digest.mk (Std.LawfulEqOrd.eq_of_compare equal)
  compare_self {digest} := by
    rw [compare_eq]
    exact Std.ReflCmp.compare_self

instance : Std.TransOrd Digest where
  eq_swap {left right} := by
    rw [compare_eq, compare_eq]
    exact Std.OrientedCmp.eq_swap
  isLE_trans {first second third} below above := by
    rw [compare_eq] at below above ⊢
    exact Std.TransCmp.isLE_trans below above

end Digest

end LibPrint

/-!
## Digest algorithms

The algorithms a hash tree can be built with. MD5 is the one profiles use; the longer ones resist
collisions better, and `legacy32` is a light string hash. Nothing above this module looks inside a
digest, so a tree can be built with any function from byte strings to digests.
-/

namespace LibPrint.Digest

/-- A digest algorithm. -/
inductive Algorithm where
  | md5
  | sha1
  | sha256
  | blake3
  | legacy32
deriving DecidableEq, Inhabited

namespace Algorithm

/-- All algorithms, in the order they are listed and numbered. -/
def all : List Algorithm :=
  [md5, sha1, sha256, blake3, legacy32]

/-- The canonical name. -/
def name : Algorithm → String
  | md5 => "md5"
  | sha1 => "sha1"
  | sha256 => "sha256"
  | blake3 => "blake3"
  | legacy32 => "legacy32"

/-- The number of bytes of a digest. -/
def length : Algorithm → Nat
  | md5 => 16
  | sha1 => 20
  | sha256 | blake3 => 32
  | legacy32 => 4

/-- The digest of a message. -/
def digest : Algorithm → List UInt8 → Digest
  | md5, message => ⟨Md5.digest message⟩
  | sha1, message => ⟨Sha1.digest message⟩
  | sha256, message => ⟨Sha256.digest message⟩
  | blake3, message => ⟨Blake3.digest message⟩
  | legacy32, message => ⟨Polynomial.digest message⟩

/-- The algorithm of a name. Capitals and hyphens do not matter, and the light string hash has a
second name. -/
def ofName? (text : String) : Option Algorithm :=
  match String.ofList ((Text.lowerAscii text).toList.filter (· != '-')) with
  | "md5" => some md5
  | "sha1" => some sha1
  | "sha256" => some sha256
  | "blake3" => some blake3
  | "legacy32" | "hashcode" => some legacy32
  | _ => none

end Algorithm

end LibPrint.Digest
