/-!
# Binary floating-point numbers of 64 bits

A finite number is a sign, a significand below `2 ^ 53` and a power of two.
The representation is exact, so that reading and writing decimals is
arithmetic on natural numbers.

`Binary64.ofRatio` rounds a quotient to the nearest number, a tie to the even
significand. Every number is built by it or is zero, so a significand is below
`2 ^ 52` only at the smallest exponent.
-/

namespace KindExpr

/-- A floating-point number. The value of `finite` is its significand times two
to its exponent, negated when `negative` holds. -/
inductive Binary64 where
  | nan
  | infinite (negative : Bool)
  | finite (negative : Bool) (significand : Nat) (exponent : Int)
  deriving Repr, DecidableEq

namespace Binary64

/-- The exponent of the numbers next to zero. -/
def minExponent : Int := -1074

/-- The exponent of the largest numbers. -/
def maxExponent : Int := 971

/-- Zero of either sign. -/
def zero (negative : Bool) : Binary64 :=
  .finite negative 0 minExponent

instance : Inhabited Binary64 := ⟨zero false⟩

/-- Divide two natural numbers and round to the nearest
integer, a tie to the even one. -/
def roundDiv (numerator denominator : Nat) : Nat :=
  let quotient := numerator / denominator
  let twice := 2 * (numerator % denominator)
  if twice > denominator ∨ (twice = denominator ∧ quotient % 2 = 1) then quotient + 1
  else quotient

/-- The quotient of `numerator` by `denominator` times two to `exponent`,
rounded to an integer. -/
def scaledQuotient (numerator denominator : Nat) (exponent : Int) : Nat :=
  if exponent < 0 then roundDiv (numerator * Nat.pow 2 (-exponent).toNat) denominator
  else roundDiv numerator (denominator * Nat.pow 2 exponent.toNat)

/-- Nearest number to the quotient of two natural numbers. -/
def ofRatio (negative : Bool) (numerator denominator : Nat) : Binary64 :=
  if numerator = 0 then zero negative
  else
    -- The quotient lies between two to the estimate and two to its successor's successor.
    let estimate : Int := Int.ofNat numerator.log2 - Int.ofNat denominator.log2 - 1
    let first : Int := max (estimate - 52) minExponent
    let exponent :=
      if scaledQuotient numerator denominator first < Nat.pow 2 53 then first
      else first + 1
    let significand := scaledQuotient numerator denominator exponent
    let carried := significand = Nat.pow 2 53
    let significand := if carried then Nat.pow 2 52 else significand
    let exponent := if carried then exponent + 1 else exponent
    if exponent > maxExponent then .infinite negative
    else .finite negative significand exponent

/-- Nearest number to `digits` times ten to `exponent`. Far beyond the largest
number the answer is infinite, far below the smallest it is zero. -/
def ofDecimal (negative : Bool) (digits : Nat) (exponent : Int) : Binary64 :=
  let size : Int := Int.ofNat (Nat.toDigits 10 digits).length
  if digits = 0 then zero negative
  else if size + exponent > 310 then .infinite negative
  else if size + exponent < -330 then zero negative
  else if exponent < 0 then ofRatio negative digits (Nat.pow 10 (-exponent).toNat)
  else ofRatio negative (digits * Nat.pow 10 exponent.toNat) 1

/-- Whether the sign of a number is set. -/
def isNegative : Binary64 → Bool
  | .nan => false
  | .infinite negative => negative
  | .finite negative _ _ => negative

/-- Whether a number is zero of either sign. -/
def isZero : Binary64 → Bool
  | .finite _ significand _ => significand = 0
  | _ => false

/-- The same number with its sign flipped. -/
def negate : Binary64 → Binary64
  | .nan => .nan
  | .infinite negative => .infinite (!negative)
  | .finite negative significand exponent => .finite (!negative) significand exponent

end Binary64
end KindExpr
