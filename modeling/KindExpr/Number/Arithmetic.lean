import KindExpr.Number.Binary64

/-!
# Sums and products of floating-point numbers

Each result is the floating-point number nearest to the exact one. A sum of opposite
infinities and a product of zero and infinity are no numbers.
-/

namespace KindExpr
namespace Binary64

/-- A significand with a sign as an integer. -/
def signed (negative : Bool) (significand : Nat) : Int :=
  if negative then -Int.ofNat significand else Int.ofNat significand

/-- The nearest number to a natural number times two to an exponent. -/
def ofScaled (negative : Bool) (significand : Nat) (exponent : Int) : Binary64 :=
  ofRatio negative (significand * Nat.pow 2 exponent.toNat) (Nat.pow 2 (-exponent).toNat)

/-- The nearest number to a natural number, unless that is too large. -/
def ofNat? (number : Nat) : Option Binary64 :=
  match ofRatio false number 1 with
  | .infinite _ => none
  | nearest => some nearest

/-- The sum of two numbers. A sum of zero is negative only if both terms are. -/
def add : Binary64 → Binary64 → Binary64
  | .nan, _ => .nan
  | _, .nan => .nan
  | .infinite left, .infinite right => if left = right then .infinite left else .nan
  | .infinite negative, .finite _ _ _ => .infinite negative
  | .finite _ _ _, .infinite negative => .infinite negative
  | .finite leftNegative left leftExponent, .finite rightNegative right rightExponent =>
      let exponent := min leftExponent rightExponent
      let sum :=
        signed leftNegative left * Int.ofNat (Nat.pow 2 (leftExponent - exponent).toNat) +
          signed rightNegative right *
            Int.ofNat (Nat.pow 2 (rightExponent - exponent).toNat)
      if sum = 0 then zero (leftNegative && rightNegative)
      else ofScaled (sum < 0) sum.natAbs exponent

/-- The product of two numbers. -/
def multiply : Binary64 → Binary64 → Binary64
  | .nan, _ => .nan
  | _, .nan => .nan
  | .infinite left, right =>
      if right.isZero then .nan else .infinite (left != right.isNegative)
  | left, .infinite right =>
      if left.isZero then .nan else .infinite (left.isNegative != right)
  | .finite leftNegative left leftExponent, .finite rightNegative right rightExponent =>
      ofScaled (leftNegative != rightNegative) (left * right)
        (leftExponent + rightExponent)

end Binary64
end KindExpr
