import KindExpr.Number.Binary64

/-!
# The shortest decimal of a floating-point number

The text of a number has the fewest digits that read back as the number; of two
such decimals the one nearer to the number, and of two equally near ones the one
with an even last digit.

For a digit count the decimals with that many digits form a grid, and if any
point of the grid reads back then so does one of the two neighbours of the
number on it. The search tries the grids from one digit to seventeen.
-/

namespace KindExpr
namespace Binary64

/-- A decimal: its digits as a number, times ten to the exponent. -/
structure ScaledDecimal where
  /-- The digits, read as one natural number. -/
  digits : Nat
  /-- The power of ten that the digits are multiplied by. -/
  exponent : Int
  deriving Repr, DecidableEq

/-- The real numbers that round to a positive number, in quarters of its unit:
the lower end, the number, the upper end, and whether the ends belong to it. -/
structure RoundingInterval where
  lower : Nat
  middle : Nat
  upper : Nat
  closed : Bool
  /-- The power of two that all three are multiplied by. -/
  exponent : Int

/-- The interval of a number given by significand and exponent. Below a power of
two the next number is half a unit closer. -/
def roundingInterval (significand : Nat) (exponent : Int) : RoundingInterval where
  lower :=
    if significand = Nat.pow 2 52 ∧ exponent > minExponent then 4 * significand - 1
    else 4 * significand - 2
  middle := 4 * significand
  upper := 4 * significand + 2
  closed := significand % 2 = 0
  exponent := exponent - 2

/-- Both sides of the comparison of `digits` times ten to `tens` with `amount`
times two to `twos`, multiplied by a common factor that makes them integers. -/
def commonScale (digits : Nat) (tens : Int) (amount : Nat) (twos : Int) : Nat × Nat :=
  (digits * Nat.pow 10 tens.toNat * Nat.pow 2 (-twos).toNat,
    amount * Nat.pow 2 twos.toNat * Nat.pow 10 (-tens).toNat)

/-- Whether a decimal reads back as the number of the interval. -/
def RoundingInterval.contains (interval : RoundingInterval)
    (decimal : ScaledDecimal) : Bool :=
  let low := commonScale decimal.digits decimal.exponent interval.lower interval.exponent
  let high := commonScale decimal.digits decimal.exponent interval.upper interval.exponent
  (low.2 < low.1 || (interval.closed && low.2 = low.1)) &&
    (high.1 < high.2 || (interval.closed && high.1 = high.2))

/-- The largest power of ten that is no larger than a positive quotient. -/
def decimalExponent (numerator denominator : Nat) : Int :=
  if denominator ≤ numerator then
    Int.ofNat (Nat.toDigits 10 (numerator / denominator)).length - 1
  else
    let size := (Nat.toDigits 10 (denominator / numerator)).length
    if denominator ≤ numerator * Nat.pow 10 (size - 1) then 1 - Int.ofNat size
    else -Int.ofNat size

/-- The decimal with `count` digits that reads back and is nearest to the
number, if there is one. `leading` is the power of ten of the first digit. -/
def nearestOnGrid? (interval : RoundingInterval) (leading : Int) (count : Nat) :
    Option ScaledDecimal :=
  let exponent := leading - Int.ofNat count + 1
  let value := commonScale 1 exponent interval.middle interval.exponent
  let below : ScaledDecimal := ⟨value.2 / value.1, exponent⟩
  let above : ScaledDecimal := ⟨value.2 / value.1 + 1, exponent⟩
  let rest := 2 * (value.2 % value.1)
  let preferAbove := rest > value.1 ∨ (rest = value.1 ∧ below.digits % 2 = 1)
  match interval.contains below, interval.contains above with
  | true, true => some (if preferAbove then above else below)
  | true, false => some below
  | false, true => some above
  | false, false => none

/-- Try the grids of `count`, `count + 1`, … digits, at most `tries` of them. -/
def searchGrids (interval : RoundingInterval) (leading : Int) :
    Nat → Nat → Option ScaledDecimal
  | 0, _ => none
  | tries + 1, count =>
      match nearestOnGrid? interval leading count with
      | some decimal => some decimal
      | none => searchGrids interval leading tries (count + 1)

/-- The shortest decimal of a positive number. -/
def shortest (significand : Nat) (exponent : Int) : ScaledDecimal :=
  let interval := roundingInterval significand exponent
  let value := commonScale 1 0 interval.middle interval.exponent
  let leading := decimalExponent value.2 value.1
  (searchGrids interval leading 17 1).getD ⟨significand, exponent⟩

/-- Drop the zeros at the end of a list of digits. -/
def dropTrailingZeros (digits : List Char) : List Char :=
  (digits.reverse.dropWhile (· = '0')).reverse

/-- How numbers are laid out: positional while the decimal point lies between
`lowestPoint` and `highestPoint` digits after the first digit's place. -/
structure Layout where
  lowestPoint : Int
  highestPoint : Int
  /-- Whether an integer is written with a fraction of zero. -/
  fraction : Bool

/-- Numbers are positional from one ten-thousandth up to sixteen digits before
the point, and an integer has a fraction of zero. -/
def Layout.standard : Layout := ⟨-3, 16, true⟩

/-- The parts of a complex number are laid out alike, without a fraction of zero. -/
def Layout.part : Layout := ⟨-3, 16, false⟩

/-- Write digits with the decimal point after the first `point` of them. -/
def positional (layout : Layout) (digits : List Char) (point : Int) : List Char :=
  if point ≤ 0 then
    '0' :: '.' :: (List.replicate (-point).toNat '0' ++ digits)
  else
    let size := point.toNat
    if digits.length ≤ size then
      digits ++ List.replicate (size - digits.length) '0' ++
        (if layout.fraction then ['.', '0'] else [])
    else digits.take size ++ '.' :: digits.drop size

/-- Write digits with an exponent of at least two digits. -/
def scientific (digits : List Char) (exponent : Int) : List Char :=
  let mantissa :=
    match digits with
    | first :: second :: rest => first :: '.' :: second :: rest
    | short => short
  let size := Nat.toDigits 10 exponent.natAbs
  mantissa ++ 'e' :: (if exponent < 0 then '-' else '+') ::
    (List.replicate (2 - size.length) '0' ++ size)

/-- Write a decimal in a layout. -/
def ScaledDecimal.text (layout : Layout) (decimal : ScaledDecimal) : List Char :=
  let all := Nat.toDigits 10 decimal.digits
  let point := Int.ofNat all.length + decimal.exponent
  let digits := dropTrailingZeros all
  if layout.lowestPoint ≤ point ∧ point ≤ layout.highestPoint then
    positional layout digits point
  else scientific digits (point - 1)

/-- The text of a number in a layout. -/
def textIn (layout : Layout) : Binary64 → String
  | .nan => "nan"
  | .infinite negative => if negative then "-inf" else "inf"
  | .finite negative significand exponent =>
      let sign := if negative then ['-'] else []
      let magnitude :=
        if significand = 0 then positional layout ['0'] 1
        else (shortest significand exponent).text layout
      String.ofList (sign ++ magnitude)

/-- The text of a number. -/
def text (number : Binary64) : String :=
  number.textIn .standard

end Binary64
end KindExpr
