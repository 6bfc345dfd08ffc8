import LibPrint.Number
import LibPrint.Text.Basic

/-!
# Digest functions

The functions from byte strings to byte strings that hash trees can be built with, each as its
standard has it.
-/

/-!
## Words

What the block digests share: 32-bit words in both byte orders, rotation, cutting a message into
blocks, and the padding that ends a message with its length.
-/

namespace LibPrint.Digest

/-- The word turned left by the given number of bits, from 1 to 31. -/
def rotateLeft (word : UInt32) (amount : UInt32) : UInt32 :=
  (word <<< amount) ||| (word >>> (32 - amount))

/-- The word turned right by the given number of bits, from 1 to 31. -/
def rotateRight (word : UInt32) (amount : UInt32) : UInt32 :=
  (word >>> amount) ||| (word <<< (32 - amount))

/-- The four bytes of a word, most significant first. -/
def bytesBig (word : UInt32) : List UInt8 :=
  [(word >>> 24).toUInt8, (word >>> 16).toUInt8, (word >>> 8).toUInt8, word.toUInt8]

/-- The four bytes of a word, least significant first. -/
def bytesLittle (word : UInt32) : List UInt8 :=
  (bytesBig word).reverse

/-- The words of a byte string, most significant byte first; fewer than four bytes at the end are
left out. -/
def wordsBig : List UInt8 → List UInt32
  | a :: b :: c :: d :: bytes =>
      ((a.toUInt32 <<< 24) ||| (b.toUInt32 <<< 16) ||| (c.toUInt32 <<< 8) ||| d.toUInt32) ::
        wordsBig bytes
  | _ => []

/-- The words of a byte string, least significant byte first. -/
def wordsLittle : List UInt8 → List UInt32
  | a :: b :: c :: d :: bytes =>
      ((d.toUInt32 <<< 24) ||| (c.toUInt32 <<< 16) ||| (b.toUInt32 <<< 8) ||| a.toUInt32) ::
        wordsLittle bytes
  | _ => []

/-- The first blocks of the given size, as many as asked for. -/
def takeBlocks (size : Nat) : (count : Nat) → List UInt8 → List (List UInt8)
  | 0, _ => []
  | count + 1, bytes => bytes.take size :: takeBlocks size count (bytes.drop size)

/-- Consecutive blocks of the given size; the last one may be shorter. -/
def blocksOf (size : Nat) (bytes : List UInt8) : List (List UInt8) :=
  takeBlocks size ((bytes.length + size - 1) / size) bytes

/-- A byte with the top bit set, zeros, and the given eight bytes of the length, so that the whole
is a multiple of 64 bytes. -/
def padded (lengthBytes : List UInt8) (message : List UInt8) : List UInt8 :=
  message ++ 0x80 :: List.replicate ((119 - message.length % 64) % 64) 0 ++ lengthBytes

/-- The number of bits of a message as two words, the more significant one first. -/
def bitLength (message : List UInt8) : UInt32 × UInt32 :=
  let bits := 8 * message.length
  (UInt32.ofNat (bits / twoTo 32), UInt32.ofNat bits)

/-- `padded` with the number of bits written most significant byte first. -/
def paddedBig (message : List UInt8) : List UInt8 :=
  padded (bytesBig (bitLength message).1 ++ bytesBig (bitLength message).2) message

/-- `padded` with the number of bits written least significant byte first. -/
def paddedLittle (message : List UInt8) : List UInt8 :=
  padded (bytesLittle (bitLength message).2 ++ bytesLittle (bitLength message).1) message

end LibPrint.Digest

/-!
## MD5

The digest of sixteen bytes that profiles use by default.
-/

namespace LibPrint.Digest.Md5

/-- The four running words. -/
structure State where
  a : UInt32
  b : UInt32
  c : UInt32
  d : UInt32

/-- The words every message starts from. -/
def start : State :=
  ⟨0x67452301, 0xefcdab89, 0x98badcfe, 0x10325476⟩

/-- The integer parts of 2 ^ 32 * |sin (i + 1)|. -/
def sines : List UInt32 :=
  [0xd76aa478, 0xe8c7b756, 0x242070db, 0xc1bdceee, 0xf57c0faf, 0x4787c62a, 0xa8304613, 0xfd469501,
   0x698098d8, 0x8b44f7af, 0xffff5bb1, 0x895cd7be, 0x6b901122, 0xfd987193, 0xa679438e, 0x49b40821,
   0xf61e2562, 0xc040b340, 0x265e5a51, 0xe9b6c7aa, 0xd62f105d, 0x02441453, 0xd8a1e681, 0xe7d3fbc8,
   0x21e1cde6, 0xc33707d6, 0xf4d50d87, 0x455a14ed, 0xa9e3e905, 0xfcefa3f8, 0x676f02d9, 0x8d2a4c8a,
   0xfffa3942, 0x8771f681, 0x6d9d6122, 0xfde5380c, 0xa4beea44, 0x4bdecfa9, 0xf6bb4b60, 0xbebfbc70,
   0x289b7ec6, 0xeaa127fa, 0xd4ef3085, 0x04881d05, 0xd9d4d039, 0xe6db99e5, 0x1fa27cf8, 0xc4ac5665,
   0xf4292244, 0x432aff97, 0xab9423a7, 0xfc93a039, 0x655b59c3, 0x8f0ccc92, 0xffeff47d, 0x85845dd1,
   0x6fa87e4f, 0xfe2ce6e0, 0xa3014314, 0x4e0811a1, 0xf7537e82, 0xbd3af235, 0x2ad7d2bb, 0xeb86d391]

/-- How far each of the four rounds rotates, by the step's place modulo four. -/
def rotations : List (List UInt32) :=
  [[7, 12, 17, 22], [5, 9, 14, 20], [4, 11, 16, 23], [6, 10, 15, 21]]

/-- The bit function of a step, and which word of the block the step takes. -/
def mix (state : State) (index : Nat) : UInt32 × Nat :=
  let ⟨_, b, c, d⟩ := state
  match index / 16 with
  | 0 => ((b &&& c) ||| (~~~b &&& d), index)
  | 1 => ((d &&& b) ||| (~~~d &&& c), (5 * index + 1) % 16)
  | 2 => (b ^^^ c ^^^ d, (3 * index + 5) % 16)
  | _ => (c ^^^ (b ||| ~~~d), (7 * index) % 16)

/-- One of the sixty-four steps. -/
def step (block : Array UInt32) (state : State) (sine : UInt32 × Nat) : State :=
  let (value, index) := mix state sine.2
  let rotation := (rotations.getD (sine.2 / 16) []).getD (sine.2 % 4) 0
  let turned := rotateLeft (state.a + value + sine.1 + block.getD index 0) rotation
  ⟨state.d, state.b + turned, state.b, state.c⟩

/-- The state after one block. -/
def absorb (state : State) (block : List UInt8) : State :=
  let mixed := sines.zipIdx.foldl (step (wordsLittle block).toArray) state
  ⟨state.a + mixed.a, state.b + mixed.b, state.c + mixed.c, state.d + mixed.d⟩

/-- The MD5 digest of a message. -/
def digest (message : List UInt8) : List UInt8 :=
  let final := (blocksOf 64 (paddedLittle message)).foldl absorb start
  [final.a, final.b, final.c, final.d].flatMap bytesLittle

end LibPrint.Digest.Md5

/-!
## SHA-1

The digest of twenty bytes.
-/

namespace LibPrint.Digest.Sha1

/-- The five running words. -/
structure State where
  a : UInt32
  b : UInt32
  c : UInt32
  d : UInt32
  e : UInt32

/-- The words every message starts from. -/
def start : State :=
  ⟨0x67452301, 0xefcdab89, 0x98badcfe, 0x10325476, 0xc3d2e1f0⟩

/-- Appends the given number of words to a schedule whose last words come first; each is made of
the ones three, eight, fourteen and sixteen places before it. -/
def extend : Nat → List UInt32 → List UInt32
  | 0, schedule => schedule
  | count + 1, schedule =>
      let word := schedule.getD 2 0 ^^^ schedule.getD 7 0 ^^^ schedule.getD 13 0 ^^^
        schedule.getD 15 0
      extend count (rotateLeft word 1 :: schedule)

/-- The eighty words of a block. -/
def schedule (block : List UInt8) : List UInt32 :=
  (extend 64 (wordsBig block).reverse).reverse

/-- The bit function and the constant of a step. -/
def mix (state : State) (index : Nat) : UInt32 × UInt32 :=
  let ⟨_, b, c, d, _⟩ := state
  match index / 20 with
  | 0 => ((b &&& c) ||| (~~~b &&& d), 0x5a827999)
  | 1 => (b ^^^ c ^^^ d, 0x6ed9eba1)
  | 2 => ((b &&& c) ||| (b &&& d) ||| (c &&& d), 0x8f1bbcdc)
  | _ => (b ^^^ c ^^^ d, 0xca62c1d6)

/-- One of the eighty steps. -/
def step (state : State) (word : UInt32 × Nat) : State :=
  let (value, constant) := mix state word.2
  ⟨rotateLeft state.a 5 + value + state.e + constant + word.1,
    state.a, rotateLeft state.b 30, state.c, state.d⟩

/-- The state after one block. -/
def absorb (state : State) (block : List UInt8) : State :=
  let mixed := (schedule block).zipIdx.foldl step state
  ⟨state.a + mixed.a, state.b + mixed.b, state.c + mixed.c, state.d + mixed.d, state.e + mixed.e⟩

/-- The SHA-1 digest of a message. -/
def digest (message : List UInt8) : List UInt8 :=
  let final := (blocksOf 64 (paddedBig message)).foldl absorb start
  [final.a, final.b, final.c, final.d, final.e].flatMap bytesBig

end LibPrint.Digest.Sha1

/-!
## SHA-256

The digest of thirty-two bytes of the SHA-2 family.
-/

namespace LibPrint.Digest.Sha256

/-- The eight running words. -/
structure State where
  a : UInt32
  b : UInt32
  c : UInt32
  d : UInt32
  e : UInt32
  f : UInt32
  g : UInt32
  h : UInt32

/-- The words every message starts from. -/
def start : State :=
  ⟨0x6a09e667, 0xbb67ae85, 0x3c6ef372, 0xa54ff53a, 0x510e527f, 0x9b05688c, 0x1f83d9ab, 0x5be0cd19⟩

/-- The first bits of the fractional parts of the cube roots of the first sixty-four primes. -/
def constants : List UInt32 :=
  [0x428a2f98, 0x71374491, 0xb5c0fbcf, 0xe9b5dba5, 0x3956c25b, 0x59f111f1, 0x923f82a4, 0xab1c5ed5,
   0xd807aa98, 0x12835b01, 0x243185be, 0x550c7dc3, 0x72be5d74, 0x80deb1fe, 0x9bdc06a7, 0xc19bf174,
   0xe49b69c1, 0xefbe4786, 0x0fc19dc6, 0x240ca1cc, 0x2de92c6f, 0x4a7484aa, 0x5cb0a9dc, 0x76f988da,
   0x983e5152, 0xa831c66d, 0xb00327c8, 0xbf597fc7, 0xc6e00bf3, 0xd5a79147, 0x06ca6351, 0x14292967,
   0x27b70a85, 0x2e1b2138, 0x4d2c6dfc, 0x53380d13, 0x650a7354, 0x766a0abb, 0x81c2c92e, 0x92722c85,
   0xa2bfe8a1, 0xa81a664b, 0xc24b8b70, 0xc76c51a3, 0xd192e819, 0xd6990624, 0xf40e3585, 0x106aa070,
   0x19a4c116, 0x1e376c08, 0x2748774c, 0x34b0bcb5, 0x391c0cb3, 0x4ed8aa4a, 0x5b9cca4f, 0x682e6ff3,
   0x748f82ee, 0x78a5636f, 0x84c87814, 0x8cc70208, 0x90befffa, 0xa4506ceb, 0xbef9a3f7, 0xc67178f2]

/-- Appends the given number of words to a schedule whose last words come first. -/
def extend : Nat → List UInt32 → List UInt32
  | 0, schedule => schedule
  | count + 1, schedule =>
      let early := schedule.getD 14 0
      let late := schedule.getD 1 0
      let spread := rotateRight early 7 ^^^ rotateRight early 18 ^^^ (early >>> 3)
      let gathered := rotateRight late 17 ^^^ rotateRight late 19 ^^^ (late >>> 10)
      extend count ((gathered + schedule.getD 6 0 + spread + schedule.getD 15 0) :: schedule)

/-- The sixty-four words of a block. -/
def schedule (block : List UInt8) : List UInt32 :=
  (extend 48 (wordsBig block).reverse).reverse

/-- One of the sixty-four steps, with its word and its constant. -/
def step (state : State) (input : UInt32 × UInt32) : State :=
  let ⟨a, b, c, d, e, f, g, h⟩ := state
  let high := rotateRight e 6 ^^^ rotateRight e 11 ^^^ rotateRight e 25
  let choice := (e &&& f) ^^^ (~~~e &&& g)
  let first := h + high + choice + input.2 + input.1
  let low := rotateRight a 2 ^^^ rotateRight a 13 ^^^ rotateRight a 22
  let majority := (a &&& b) ^^^ (a &&& c) ^^^ (b &&& c)
  ⟨first + low + majority, a, b, c, d + first, e, f, g⟩

/-- The state after one block. -/
def absorb (state : State) (block : List UInt8) : State :=
  let mixed := ((schedule block).zip constants).foldl step state
  ⟨state.a + mixed.a, state.b + mixed.b, state.c + mixed.c, state.d + mixed.d,
    state.e + mixed.e, state.f + mixed.f, state.g + mixed.g, state.h + mixed.h⟩

/-- The SHA-256 digest of a message. -/
def digest (message : List UInt8) : List UInt8 :=
  let final := (blocksOf 64 (paddedBig message)).foldl absorb start
  [final.a, final.b, final.c, final.d, final.e, final.f, final.g, final.h].flatMap bytesBig

end LibPrint.Digest.Sha256

/-!
## BLAKE3

The digest of thirty-two bytes that hashes chunks of 1024 bytes and joins their values in a binary
tree. Chunks and inner nodes end in a `Pending` compression: what is still open is only whether the
node is the root, which is known when the whole message has been seen.
-/

namespace LibPrint.Digest.Blake3

/-- The chaining value every chunk starts from. -/
def start : List UInt32 :=
  [0x6a09e667, 0xbb67ae85, 0x3c6ef372, 0xa54ff53a, 0x510e527f, 0x9b05688c, 0x1f83d9ab, 0x5be0cd19]

/-- Which word of the block each word is in the next round. -/
def permutation : List Nat :=
  [2, 6, 3, 10, 7, 0, 4, 13, 1, 11, 12, 5, 9, 14, 15, 8]

def chunkStart : UInt32 := 1
def chunkEnd : UInt32 := 2
def parentNode : UInt32 := 4
def rootNode : UInt32 := 8

/-- Mixes two words of a block into one column or diagonal of the sixteen running words. -/
def quarter (words : Array UInt32) (a b c d : Nat) (x y : UInt32) : Array UInt32 :=
  let get (index : Nat) : UInt32 := words.getD index 0
  let a₁ := get a + get b + x
  let d₁ := rotateRight (get d ^^^ a₁) 16
  let c₁ := get c + d₁
  let b₁ := rotateRight (get b ^^^ c₁) 12
  let a₂ := a₁ + b₁ + y
  let d₂ := rotateRight (d₁ ^^^ a₂) 8
  let c₂ := c₁ + d₂
  let b₂ := rotateRight (b₁ ^^^ c₂) 7
  (((words.setIfInBounds a a₂).setIfInBounds b b₂).setIfInBounds c c₂).setIfInBounds d d₂

/-- The places of the four columns and the four diagonals. -/
def lanes : List (Nat × Nat × Nat × Nat) :=
  [(0, 4, 8, 12), (1, 5, 9, 13), (2, 6, 10, 14), (3, 7, 11, 15),
   (0, 5, 10, 15), (1, 6, 11, 12), (2, 7, 8, 13), (3, 4, 9, 14)]

/-- One round over all lanes. -/
def round (words block : Array UInt32) : Array UInt32 :=
  lanes.zipIdx.foldl (fun words ((a, b, c, d), lane) =>
    quarter words a b c d (block.getD (2 * lane) 0) (block.getD (2 * lane + 1) 0)) words

/-- The given number of rounds, with the block's words permuted in between. -/
def rounds : Nat → Array UInt32 → Array UInt32 → Array UInt32
  | 0, words, _ => words
  | count + 1, words, block =>
      rounds count (round words block) (permutation.map fun index => block.getD index 0).toArray

/-- A compression that waits for its last flag. -/
structure Pending where
  chaining : List UInt32
  block : List UInt32
  counter : Nat
  length : Nat
  flags : UInt32

namespace Pending

/-- The value of a node, with further flags. -/
def value (pending : Pending) (extra : UInt32) : List UInt32 :=
  let words := pending.chaining ++ start.take 4 ++
    [UInt32.ofNat pending.counter, UInt32.ofNat (pending.counter / twoTo 32),
      UInt32.ofNat pending.length, pending.flags ||| extra]
  let mixed := (rounds 7 words.toArray pending.block.toArray).toList
  List.zipWith (· ^^^ ·) (mixed.take 8) (mixed.drop 8)

end Pending

/-- The words of a block, filled up with zeros. -/
def blockWords (block : List UInt8) : List UInt32 :=
  wordsLittle (block ++ List.replicate (64 - block.length) 0)

/-- Takes the blocks of a chunk in turn; the last one stays pending. -/
def absorb (counter : Nat) (chaining : List UInt32) (flags : UInt32) :
    List UInt8 → List (List UInt8) → Pending
  | block, [] => ⟨chaining, blockWords block, counter, block.length, flags ||| chunkEnd⟩
  | block, next :: blocks =>
      let pending : Pending := ⟨chaining, blockWords block, counter, block.length, flags⟩
      absorb counter (pending.value 0) 0 next blocks

/-- The chunk with the given place in the message. -/
def chunk (bytes : List UInt8) (counter : Nat) : Pending :=
  match blocksOf 64 bytes with
  | [] => absorb counter start chunkStart [] []
  | block :: blocks => absorb counter start chunkStart block blocks

/-- The inner node over two nodes. -/
def parent (left right : Pending) : Pending :=
  ⟨start, left.value 0 ++ right.value 0, 0, 64, parentNode⟩

/-- Joins neighbours; one left over at the end moves up as it is. -/
def pairUp : List Pending → List Pending
  | left :: right :: nodes => parent left right :: pairUp nodes
  | nodes => nodes

theorem length_pairUp_le (nodes : List Pending) : (pairUp nodes).length ≤ nodes.length := by
  fun_induction pairUp nodes with
  | case1 left right nodes ih => simp only [List.length_cons]; omega
  | case2 nodes => simp

/-- The root of the tree over a chunk and those after it. -/
def root : List Pending → Option Pending
  | [] => none
  | [node] => some node
  | left :: right :: nodes => root (parent left right :: pairUp nodes)
termination_by nodes => nodes.length
decreasing_by
  have := length_pairUp_le nodes
  simp only [List.length_cons]
  omega

/-- The BLAKE3 digest of a message. -/
def digest (message : List UInt8) : List UInt8 :=
  let chunks := (blocksOf 1024 message).zipIdx.map fun (bytes, counter) => chunk bytes counter
  let top := (root chunks).getD (chunk [] 0)
  (top.value rootNode).flatMap bytesLittle

end LibPrint.Digest.Blake3

/-!
## Polynomial digest

A light digest of four bytes: the text of the message, as UTF-16 units, is a polynomial in 31 that
is evaluated modulo 2 ^ 32.
-/

namespace LibPrint.Digest.Polynomial

/-- The value of the polynomial over the units, the first unit being its leading coefficient. -/
def value (units : List UInt32) : UInt32 :=
  units.foldl (fun sum unit => 31 * sum + unit) 0

/-- The polynomial digest of a message; malformed bytes count as U+FFFD. -/
def digest (message : List UInt8) : List UInt8 :=
  let word := value ((Text.decodeLossy message).flatMap Text.units16)
  [(word >>> 24).toUInt8, (word >>> 16).toUInt8, (word >>> 8).toUInt8, word.toUInt8]

end LibPrint.Digest.Polynomial
