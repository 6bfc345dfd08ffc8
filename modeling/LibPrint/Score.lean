import LibPrint.Number

/-!
# Similarity scores

Scores as binary32 numbers, and as text.
-/

/-!
## Scores

Similarity scores are binary32 numbers, and every comparison with a threshold depends on how they
are rounded. A score is its bit pattern; its arithmetic is exact arithmetic on natural numbers
followed by one rounding to nearest, ties to even. The unit throughout is 2 ^ -149, the smallest
positive score, so that every finite score is a whole number of units.
-/

namespace LibPrint

/-- A binary32 number. -/
structure Score where
  bits : UInt32
deriving DecidableEq, Inhabited

namespace Score

/-- The bit pattern without the sign. Among non-negative scores its order is theirs. -/
def magnitude (score : Score) : Nat :=
  score.bits.toNat % 0x80000000

def isNegative (score : Score) : Bool :=
  0x80000000 ≤ score.bits.toNat

/-- The magnitude of the infinities; larger ones are no numbers. -/
def infinite : Nat := 0x7f800000

def isNaN (score : Score) : Bool :=
  infinite < score.magnitude

def ofSign (negative : Bool) (magnitude : Nat) : Score :=
  ⟨UInt32.ofNat (if negative then 0x80000000 + magnitude else magnitude)⟩

/-- The result of an operation without a value. -/
def nan : Score := ⟨0x7fc00000⟩

def zero : Score := ⟨0⟩

def one : Score := ⟨0x3f800000⟩

/-- The factor of a finite magnitude before its power of two. -/
def significand (magnitude : Nat) : Nat :=
  if magnitude < twoTo 23 then magnitude else twoTo 23 + magnitude % twoTo 23

/-- The exponent of that power of two, counted in units. -/
def exponent (magnitude : Nat) : Nat :=
  magnitude / twoTo 23 - 1

/-- The number of units of a finite magnitude. -/
def units (magnitude : Nat) : Nat :=
  significand magnitude * twoTo (exponent magnitude)

/-- The quotient rounded to the nearest whole number, a half to the even one. -/
def roundQuotient (numerator denominator : Nat) : Nat :=
  let quotient := numerator / denominator
  let twice := 2 * (numerator % denominator)
  if twice < denominator then quotient
  else if denominator < twice then quotient + 1
  else quotient + quotient % 2

/-- The magnitude nearest to the given quotient of units. The spacing of scores around a quotient
below 2 ^ 24 units is one unit, and doubles with every further bit. -/
def nearest (numerator denominator : Nat) : Nat :=
  let shift := (numerator / denominator).log2 - 23
  min infinite (shift * twoTo 23 + roundQuotient numerator (denominator * twoTo shift))

/-- The magnitude nearest to `factor * 2 ^ power` units. It is `nearest (factor * 2 ^ power) 1`
without the large product. -/
def nearestScaled (factor power : Nat) : Nat :=
  let top := factor.log2
  if factor = 0 then 0
  else if top ≤ 23 then
    let raise := min power (23 - top)
    min infinite ((power - raise) * twoTo 23 + factor * twoTo raise)
  else
    min infinite ((power + (top - 23)) * twoTo 23 + roundQuotient factor (twoTo (top - 23)))

/-- The score nearest to a natural number. -/
def ofNat (number : Nat) : Score :=
  ofSign false (nearestScaled number 149)

/-- The significand of a score with its sign, at a power of two not above its own. -/
def signedAt (power : Nat) (score : Score) : Int :=
  let factor := significand score.magnitude * twoTo (exponent score.magnitude - power)
  if score.isNegative then -(factor : Int) else factor

/-- The rounded sum. -/
def add (left right : Score) : Score :=
  if left.isNaN || right.isNaN then nan
  else if left.magnitude = infinite then
    if right.magnitude = infinite ∧ left.isNegative ≠ right.isNegative then nan else left
  else if right.magnitude = infinite then right
  else
    let power := min (exponent left.magnitude) (exponent right.magnitude)
    let total := left.signedAt power + right.signedAt power
    if total = 0 then ofSign (left.isNegative && right.isNegative) 0
    else ofSign (total < 0) (nearestScaled total.natAbs power)

/-- The rounded quotient. -/
def div (left right : Score) : Score :=
  let negative := left.isNegative != right.isNegative
  if left.isNaN || right.isNaN then nan
  else if left.magnitude = infinite then
    if right.magnitude = infinite then nan else ofSign negative infinite
  else if right.magnitude = infinite then ofSign negative 0
  else if right.magnitude = 0 then
    if left.magnitude = 0 then nan else ofSign negative infinite
  else ofSign negative (nearest (units left.magnitude * twoTo 149) (units right.magnitude))

/-- The quotient of two counts, each rounded to a score first. -/
def ratio (count total : Nat) : Score :=
  (ofNat count).div (ofNat total)

/-- The sum from left to right. -/
def sum (scores : List Score) : Score :=
  scores.foldl add zero

/-- The number a score stands for, up to a common factor, as far as order is concerned. -/
def key (score : Score) : Int :=
  if score.isNegative then -(score.magnitude : Int) else score.magnitude

/-- The order of numbers: the two zeros are equal, and nothing is below or above `nan`. -/
def lt (left right : Score) : Bool :=
  !left.isNaN && !right.isNaN && left.key < right.key

/-- The place of a score in the total order, which has the negative zero below the positive one
and the values that are no numbers at its two ends. -/
def rank (score : Score) : Int :=
  if score.isNegative then -(score.magnitude : Int) - 1 else score.magnitude

/-- The total order of scores. -/
def totalCompare (left right : Score) : Ordering :=
  compare left.rank right.rank

end Score

end LibPrint

/-!
## Scores as text

Two decimal forms: with a fixed number of places, for people, and with the fewest digits that read
back as the same score, for data. Both are exact: they round the score itself and not an
approximation of it.
-/

namespace LibPrint.Score

/-- The value of a magnitude with the given number of places; a half goes to the even digit. -/
def fixedMagnitude (places magnitude : Nat) : String :=
  let scaled := roundQuotient (units magnitude * tenTo places) (twoTo 149)
  let digits := (toString scaled).toList
  let digits := List.replicate (places + 1 - digits.length) '0' ++ digits
  let whole := digits.take (digits.length - places)
  String.ofList (whole ++ '.' :: digits.drop (digits.length - places))

/-- The text of a score with the given number of places, one at least. -/
def fixed (places : Nat) (score : Score) : String :=
  if score.isNaN then "NaN"
  else
    let sign := if score.isNegative then "-" else ""
    if score.magnitude = infinite then sign ++ "inf"
    else sign ++ fixedMagnitude places score.magnitude

/-- The shortest decimal that reads back as a positive finite magnitude. -/
def shortest (magnitude : Nat) : Decimal :=
  (RoundingInterval.around (significand magnitude) (exponent magnitude) 149 (twoTo 23)).shortest
    40 100

/-- The text of a positive decimal: positional from 1e-5 up to thirteen digits before the point,
with a signed exponent otherwise. A whole number keeps one place. -/
def decimalText (decimal : Decimal) : String :=
  let point := decimal.point
  let text :=
    if 0 ≤ decimal.power ∧ point ≤ 13 then decimal.positional ++ ['.', '0']
    else if -5 ≤ point ∧ point ≤ 13 then decimal.positional
    else
      let exponent := (if 0 < point then "+" else "").toList ++ (toString (point - 1)).toList
      match (toString decimal.digits).toList with
      | [] => []
      | [digit] => digit :: 'e' :: exponent
      | digit :: rest => digit :: '.' :: rest ++ 'e' :: exponent
  String.ofList text

/-- The shortest text of a score that reads back, and `none` for what is no finite number. -/
def shortestText? (score : Score) : Option String :=
  if infinite ≤ score.magnitude then none
  else
    let sign := if score.isNegative then "-" else ""
    if score.magnitude = 0 then some (sign ++ "0.0")
    else some (sign ++ decimalText (shortest score.magnitude))

end LibPrint.Score
