import KindExpr.Value.Basic

/-!
# Equal keys

Keys of a dictionary and items of a set are the same when they are equal. Numbers of all
types are compared by their exact value, and truth values are the numbers zero and one.
A value without equality of its own is equal to no other value.
-/

namespace KindExpr

/-- An exact number, or what else a number can be. -/
inductive Magnitude where
  /-- A quotient in lowest terms times a power of two and a power of five, with
  a sign. Neither two nor five divides a term of the quotient, so each number
  but zero has one such form. -/
  | quotient (negative : Bool) (numerator denominator : Nat) (twos fives : Int)
  | infinite (negative : Bool)
  | undefined
  deriving Repr, DecidableEq

namespace Magnitude

/-- Whether two numbers are equal. What is no number equals nothing. -/
def same (left right : Magnitude) : Bool :=
  left ≠ undefined && left = right

/-- Divide a number by a factor as often as it goes, at most so many times: what is left
and how often it went. -/
def divideOut (factor : Nat) : Nat → Nat → Nat × Nat
  | 0, number => (number, 0)
  | bound + 1, number =>
      if number % factor = 0 then
        let (left, count) := divideOut factor bound (number / factor)
        (left, count + 1)
      else (number, 0)

/-- The powers of two and of five in a number, and what is left of it. -/
def factored (number : Nat) : Nat × Nat × Nat :=
  let (odd, twos) := divideOut 2 number.log2 number
  let (left, fives) := divideOut 5 number.log2 odd
  (left, twos, fives)

/-- The number zero. -/
def zero : Magnitude := quotient false 0 1 0 0

/-- A quotient in lowest terms times powers of two and of five, with a sign. -/
def scaled (negative : Bool) (numerator denominator : Nat) (twos fives : Int) :
    Magnitude :=
  if numerator = 0 then zero
  else
    let (top, topTwos, topFives) := factored numerator
    let (bottom, bottomTwos, bottomFives) := factored denominator
    quotient negative top bottom (twos + Int.ofNat topTwos - Int.ofNat bottomTwos)
      (fives + Int.ofNat topFives - Int.ofNat bottomFives)

/-- The value of an integer. -/
def ofInteger (value : Int) : Magnitude :=
  scaled (value < 0) value.natAbs 1 0 0

/-- The value of a fraction. -/
def ofFraction (value : Fraction) : Magnitude :=
  scaled (value.numerator < 0) value.numerator.natAbs value.denominator 0 0

/-- The exact value of a floating-point number. -/
def ofFloat : Binary64 → Magnitude
  | .nan => undefined
  | .infinite negative => infinite negative
  | .finite negative significand exponent => scaled negative significand 1 exponent 0

/-- The exact value of a decimal. -/
def ofDecimal : Decimal → Magnitude
  | .nan _ _ _ => undefined
  | .infinite negative => infinite negative
  | .finite negative digits exponent => scaled negative digits 1 exponent exponent

end Magnitude

namespace Value

/-- The real and imaginary part of a number. -/
def number? : Value → Option (Magnitude × Magnitude)
  | .boolean value => some (.ofInteger (if value then 1 else 0), .zero)
  | .integer value => some (.ofInteger value, .zero)
  | .derivedInteger value => some (.ofInteger value, .zero)
  | .float value => some (.ofFloat value, .zero)
  | .decimal value => some (.ofDecimal value, .zero)
  | .fraction value => some (.ofFraction value, .zero)
  | .complex value => some (.ofFloat value.re, .ofFloat value.im)
  | _ => none

/-- Whether two numbers are equal. -/
def sameNumber (left right : Value) : Bool :=
  match left.number?, right.number? with
  | some first, some second => first.1.same second.1 && first.2.same second.2
  | _, _ => false

/-- Whether two values are equal and neither a tuple nor a set. -/
def sameSimple (left right : Value) : Bool :=
  match left, right with
  | .null, .null => true
  | .bytes leftForm first, .bytes rightForm second =>
      leftForm ≠ .mutable && rightForm ≠ .mutable && first == second
  | .pattern first, .pattern second =>
      first.source = second.source && first.flags = second.flags
  | .bytePattern first, .bytePattern second =>
      first.source == second.source && first.flags = second.flags
  | .moment first, .moment second => first = second
  | .cls first, .cls second => first = second
  | .function first, .function second => first = second
  | .builtin first, .builtin second => first = second
  | _, _ =>
      match left.text?, right.text? with
      | some first, some second => first = second
      | _, _ => sameNumber left right

mutual

/-- Whether two values are equal keys. -/
def sameKey : Value → Value → Bool
  | .tuple items, other =>
      match other with
      | .tuple others => sameItems items others
      | .point x y => sameItems items [x, y]
      | _ => false
  | .point x y, other =>
      match other with
      | .tuple [first, second] => sameKey x first && sameKey y second
      | .point first second => sameKey x first && sameKey y second
      | _ => false
  | .set _ items, other =>
      match other with
      | .set _ others => items.length = others.length && allAmong items others
      | _ => false
  | value, other => sameSimple value other

/-- Whether two lists have equal items in order. -/
def sameItems : List Value → List Value → Bool
  | [], [] => true
  | value :: rest, other :: others => sameKey value other && sameItems rest others
  | _, _ => false

/-- Whether every item has an equal one in a list. -/
def allAmong : List Value → List Value → Bool
  | [], _ => true
  | value :: rest, others => others.any (sameKey value) && allAmong rest others

end

/-- Add an entry to the entries of a mapping: an equal key that is there stays
and takes the new value. -/
def insertEntry (entries : List (Value × Value)) (key value : Value) :
    List (Value × Value) :=
  if entries.any fun entry => sameKey entry.1 key then
    entries.map fun entry => if sameKey entry.1 key then (entry.1, value) else entry
  else entries ++ [(key, value)]

/-- The entries of a mapping that is built from pairs in order. -/
def entriesOfPairs (pairs : List (Value × Value)) : List (Value × Value) :=
  pairs.foldl (fun entries pair => insertEntry entries pair.1 pair.2) []

/-- The items of a set that is built from a list. -/
def distinctItems (items : List Value) : List Value :=
  items.foldl
    (fun kept item => if kept.any fun other =>
      sameKey other item then kept else kept ++ [item])
    []

end Value
end KindExpr
