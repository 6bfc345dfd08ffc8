/-!
# Numbers and their notation

Whole numbers in decimal notation, and binary floating-point numbers as the shortest decimals that
stand for them.
-/

/-!
## Powers and sums

The powers that binary formats and decimal notation are made of, and the sum of many counts.
-/

namespace LibPrint

/-- Two to the given power. -/
def twoTo (exponent : Nat) : Nat :=
  Nat.pow 2 exponent

/-- Ten to the given power. -/
def tenTo (exponent : Nat) : Nat :=
  Nat.pow 10 exponent

/-- The sum of the numbers. -/
def total (numbers : List Nat) : Nat :=
  numbers.foldr (· + ·) 0

end LibPrint

/-!
## Numbers in decimal notation

Whole numbers written with the digits 0 to 9, and the two kinds of 64 bits that settings and
versions are read as.
-/

namespace LibPrint.Number

/-- The value of decimal digits. -/
def value (digits : List Char) : Nat :=
  digits.foldl (fun value digit => 10 * value + (digit.toNat - 48)) 0

/-- The value of a run of decimal digits that is not empty. -/
def decimal? (digits : List Char) : Option Nat :=
  if digits.isEmpty || !digits.all Char.isDigit then none else some (value digits)

/-- The largest number without a sign. -/
def maxNatural : Nat := twoTo 64 - 1

/-- The number of a text of digits, perhaps after a plus sign, up to `maxNatural`. -/
def natural? (text : String) : Option Nat :=
  let digits := match text.toList with
    | '+' :: rest => rest
    | digits => digits
  (decimal? digits).filter (· ≤ maxNatural)

/-- Whether a number fits into 64 bits with a sign. -/
def isInteger (number : Int) : Bool :=
  -(twoTo 63 : Int) ≤ number && number < twoTo 63

/-- The number of a text of digits, perhaps after a sign, that fits into 64 bits. -/
def integer? (text : String) : Option Int :=
  let number := match text.toList with
    | '-' :: rest => (decimal? rest).map fun number => -(number : Int)
    | '+' :: rest => (decimal? rest).map Int.ofNat
    | digits => (decimal? digits).map Int.ofNat
  number.filter isInteger

end LibPrint.Number

/-!
## Shortest decimals

The decimal with the fewest digits among those that a binary floating-point format rounds to a given
number, and the nearest of those. All arithmetic is on natural numbers, so the choice is exact for
every format.
-/

namespace LibPrint

/-- A positive decimal number: `digits * 10 ^ power`. -/
structure Decimal where
  digits : Nat
  power : Int
deriving DecidableEq

namespace Decimal

/-- The denominator and the numerator by which a power of ten is divided and multiplied. -/
def tenPower (power : Int) : Nat × Nat :=
  if power < 0 then (tenTo power.natAbs, 1) else (1, tenTo power.natAbs)

/-- The same number without zeros at the end of its digits. -/
def trimZeros : (fuel : Nat) → Decimal → Decimal
  | 0, decimal => decimal
  | fuel + 1, decimal =>
      if decimal.digits % 10 = 0 ∧ decimal.digits ≠ 0 then
        trimZeros fuel ⟨decimal.digits / 10, decimal.power + 1⟩
      else decimal

/-- The number of digits before the point; it is negative when zeros follow the point. -/
def point (decimal : Decimal) : Int :=
  (toString decimal.digits).length + decimal.power

/-- The number in positional notation, without a point if it is whole. -/
def positional (decimal : Decimal) : List Char :=
  let digits := (toString decimal.digits).toList
  if 0 ≤ decimal.power then digits ++ List.replicate decimal.power.toNat '0'
  else if 0 < decimal.point then
    digits.take decimal.point.toNat ++ '.' :: digits.drop decimal.point.toNat
  else ['0', '.'] ++ List.replicate decimal.point.natAbs '0' ++ digits

end Decimal

/-- The numbers that round to a number of a binary format: they lie between two bounds, given in
units of `2 ^ exponent / 2 ^ scale`, and the bounds themselves belong to them in the closed case. -/
structure RoundingInterval where
  low : Nat
  value : Nat
  high : Nat
  closed : Bool
  exponent : Nat
  scale : Nat

namespace RoundingInterval

/-- The interval of `factor * 2 ^ exponent / 2 ^ scale` in a format that rounds to even. Below the
least factor of an exponent, the power of two given, the spacing is half as wide. -/
def around (factor exponent scale least : Nat) : RoundingInterval :=
  let below := if factor = least ∧ 0 < exponent then 1 else 2
  ⟨4 * factor - below, 4 * factor, 4 * factor + 2, factor % 2 = 0, exponent, scale + 2⟩

/-- How a number of units compares with a decimal number. -/
def compareWith (interval : RoundingInterval) (units : Nat) (decimal : Decimal) : Ordering :=
  let (divisor, factor) := Decimal.tenPower decimal.power
  compare (units * twoTo interval.exponent * divisor)
    (decimal.digits * factor * twoTo interval.scale)

/-- Whether a decimal number lies in the interval. -/
def holds (interval : RoundingInterval) (decimal : Decimal) : Bool :=
  let low := interval.compareWith interval.low decimal
  let high := interval.compareWith interval.high decimal
  if interval.closed then low.isLE && high.isGE else low.isLT && high.isGT

/-- Twice the distance of the value from the lower of two neighbouring decimals, against the
spacing of the decimals. -/
def compareMiddle (interval : RoundingInterval) (lower : Decimal) : Ordering :=
  interval.compareWith (2 * interval.value) ⟨2 * lower.digits + 1, lower.power⟩

/-- The number of the digits down to the given power of ten, cut off. -/
def floorAt (interval : RoundingInterval) (power : Int) : Nat :=
  let (divisor, factor) := Decimal.tenPower power
  interval.value * twoTo interval.exponent * divisor / (factor * twoTo interval.scale)

/-- The decimal of the interval at the given power of ten, the one nearer to the value of two. -/
def hit? (interval : RoundingInterval) (power : Int) : Option Decimal :=
  let lower : Decimal := ⟨interval.floorAt power, power⟩
  let upper : Decimal := ⟨lower.digits + 1, power⟩
  match lower.digits != 0 && interval.holds lower, interval.holds upper with
  | true, true =>
      match interval.compareMiddle lower with
      | .lt => some lower
      | .gt => some upper
      | .eq => some (if lower.digits % 2 = 0 then lower else upper)
  | true, false => some lower
  | false, true => some upper
  | false, false => none

/-- The shortest decimal of the interval. Powers of ten are tried downwards from `top`, as many as
`count`. -/
def shortest (interval : RoundingInterval) (top : Int) (count : Nat) : Decimal :=
  let powers := (List.range count).map fun index => top - Int.ofNat index
  let decimal := (powers.findSome? interval.hit?).getD ⟨0, 0⟩
  decimal.trimZeros count

end RoundingInterval

end LibPrint

/-!
## Binary64 numbers as text

Floating-point numbers of settings, read from the usual decimal notation and written in full: with
the fewest digits that read back, and never with an exponent.
-/

namespace LibPrint.Binary64

/-- The significand and the exponent of a finite positive bit pattern, in units of 2 ^ -1074. -/
def parts (magnitude : Nat) : Nat × Nat :=
  if magnitude < twoTo 52 then (magnitude, 0)
  else (twoTo 52 + magnitude % twoTo 52, magnitude / twoTo 52 - 1)

/-- The text of a number. -/
def text (number : Float) : String :=
  if number.isNaN then "NaN"
  else
    let bits := number.toBits.toNat
    let sign := if twoTo 63 ≤ bits then "-" else ""
    let magnitude := bits % twoTo 63
    if number.isInf then sign ++ "inf"
    else if magnitude = 0 then sign ++ "0"
    else
      let (factor, exponent) := parts magnitude
      let decimal := (RoundingInterval.around factor exponent 1074 (twoTo 52)).shortest 310 650
      sign ++ String.ofList decimal.positional

/-- The number nearest to `digits * 10 ^ power`. Powers far outside the format's range only decide
between zero and infinity. -/
def ofDecimal (digits : Nat) (power : Int) : Float :=
  let length := (toString digits).length
  if digits = 0 ∨ power + length < -400 then 0.0
  else if 400 < power + length then 1.0 / 0.0
  else if power < 0 then Float.ofScientific digits true power.natAbs
  else Float.ofScientific digits false power.natAbs

/-- An exponent after its mark: digits with or without a sign. -/
def exponent? (text : List Char) : Option Int :=
  let (negative, digits) := match text with
    | '-' :: digits => (true, digits)
    | '+' :: digits => (false, digits)
    | digits => (false, digits)
  if digits.isEmpty || !digits.all Char.isDigit then none
  else some (if negative then -(Number.value digits : Int) else Number.value digits)

/-- A number without its sign: digits, at least one, with a point anywhere among them, and perhaps
an exponent. -/
def magnitude? (text : List Char) : Option Float := do
  let isMark (character : Char) := character == 'e' || character == 'E'
  let mantissa := text.takeWhile (!isMark ·)
  let power ← match text.dropWhile (!isMark ·) with
    | [] => some 0
    | _ :: exponent => exponent? exponent
  let whole := mantissa.takeWhile Char.isDigit
  let fraction ← match mantissa.dropWhile Char.isDigit with
    | [] => some []
    | '.' :: fraction => if fraction.all Char.isDigit then some fraction else none
    | _ => none
  if whole.isEmpty && fraction.isEmpty then none
  else some (ofDecimal (Number.value (whole ++ fraction)) (power - fraction.length))

/-- The number a text stands for; infinity and the absence of a number may be spelled out. -/
def ofText? (text : String) : Option Float :=
  let (negative, rest) := match text.toList with
    | '-' :: rest => (true, rest)
    | '+' :: rest => (false, rest)
    | rest => (false, rest)
  let magnitude := match String.ofList (rest.map Char.toLower) with
    | "inf" | "infinity" => some (1.0 / 0.0)
    | "nan" => some (0.0 / 0.0)
    | _ => magnitude? rest
  magnitude.map fun magnitude => if negative then -magnitude else magnitude

end LibPrint.Binary64
