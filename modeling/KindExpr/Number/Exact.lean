import KindExpr.Number.Numeral
import KindExpr.Number.Shortest

/-!
# Decimals, fractions and complex numbers

The other kinds of numbers a value can be: decimals that keep their digits,
fractions in lowest terms, and complex numbers. Each has a reader and a text.
-/

namespace KindExpr

/-- A decimal keeps the digits it was written with. -/
inductive Decimal where
  | finite (negative : Bool) (digits : Nat) (exponent : Int)
  | infinite (negative : Bool)
  | nan (negative : Bool) (signaling : Bool) (payload : Option Nat)
  deriving Repr, DecidableEq

namespace Decimal

/-- The decimal a text writes. -/
def ofText? (text : List Code) : Option Decimal :=
  let (negative, body) := Numeral.readSign (Text.trim (text.filter (· ≠ '_')))
  let payload? (digits : List Code) : Option (Option Nat) :=
    match Numeral.readDigits digits with
    | ([], []) => some none
    | (values, []) =>
        let number := Numeral.ofDigits values
        some (if number = 0 then none else some number)
    | _ => none
  match Numeral.dropWord? "infinity" body, Numeral.dropWord? "inf" body,
      Numeral.dropWord? "nan" body, Numeral.dropWord? "snan" body with
  | some [], _, _, _ => some (.infinite negative)
  | _, some [], _, _ => some (.infinite negative)
  | _, _, some rest, _ => (payload? rest).map (.nan negative false)
  | _, _, _, some rest => (payload? rest).map (.nan negative true)
  | _, _, _, _ =>
      match Numeral.readDecimal body with
      | some (digits, exponent, []) =>
          some (.finite negative (Numeral.ofDigits digits) exponent)
      | _ => none

/-- The text of a decimal: positional unless the exponent is positive or the
number is below a millionth. -/
def text : Decimal → String
  | .infinite negative => if negative then "-Infinity" else "Infinity"
  | .nan negative signaling payload =>
      (if negative then "-" else "") ++ (if signaling then "sNaN" else "NaN") ++
        (match payload with
          | some digits => toString digits
          | none => "")
  | .finite negative digits exponent =>
      let all := Nat.toDigits 10 digits
      let point := exponent + Int.ofNat all.length
      let body :=
        if exponent ≤ 0 ∧ point > -6 then
          if exponent = 0 then all
          else if point ≤ 0 then '0' :: '.' :: (List.replicate (-point).toNat '0' ++ all)
          else all.take point.toNat ++ '.' :: all.drop point.toNat
        else
          let mantissa :=
            match all with
            | first :: second :: rest => first :: '.' :: second :: rest
            | short => short
          let shown := point - 1
          mantissa ++ 'E' :: (if shown < 0 then '-' else '+') ::
            Nat.toDigits 10 shown.natAbs
      String.ofList (if negative then '-' :: body else body)

end Decimal

/-- A fraction in lowest terms with a positive denominator. -/
structure Fraction where
  numerator : Int
  denominator : Nat
  deriving Repr, DecidableEq

namespace Fraction

/-- The fraction of two numbers in lowest terms. -/
def reduce (numerator : Int) (denominator : Nat) : Fraction :=
  let common := Nat.gcd numerator.natAbs denominator
  ⟨numerator / Int.ofNat common, denominator / common⟩

/-- The fraction a text writes, either as a quotient or as a decimal. -/
def ofText? (text : List Code) : Option Fraction :=
  let (negative, body) := Numeral.readSign (Text.trim text)
  let signed (number : Nat) : Int :=
    if negative then -Int.ofNat number else Int.ofNat number
  match Numeral.readDigits body with
  | (numerator, .char '/' :: rest) =>
      match Numeral.readDigits rest with
      | (denominator, []) =>
          if numerator = [] ∨ Numeral.ofDigits denominator = 0 then none
          else some (reduce (signed (Numeral.ofDigits numerator))
            (Numeral.ofDigits denominator))
      | _ => none
  | _ =>
      match Numeral.readDecimal body with
      | some (digits, exponent, []) =>
          let number := signed (Numeral.ofDigits digits)
          some (reduce (number * Nat.pow 10 exponent.toNat)
            (Nat.pow 10 (-exponent).toNat))
      | _ => none

end Fraction

/-- A complex number. -/
structure Complex where
  re : Binary64
  im : Binary64
  deriving Repr, DecidableEq

namespace Complex

/-- The complex number a text writes. -/
def ofText? (text : List Code) : Option Complex :=
  let trimmed := Numeral.trimmed text
  let body :=
    match trimmed, trimmed.getLast? with
    | .char '(' :: rest, some (.char ')') => Numeral.trimmed rest.dropLast
    | _, _ => trimmed
  let isUnit (c : Code) : Bool := c = 'j' || c = 'J'
  let unit (text : List Code) : Option Complex :=
    match Numeral.readSign text with
    | (negative, [c]) =>
        if isUnit c then some ⟨.zero false, .ofDecimal negative 1 0⟩ else none
    | _ => none
  match Numeral.readFloat body with
  | none => unit body
  | some (number, []) => some ⟨number, .zero false⟩
  | some (number, rest) =>
      match rest with
      | [c] => if isUnit c then some ⟨.zero false, number⟩ else none
      | _ =>
          match Numeral.readFloat rest with
          | some (imaginary, [c]) => if isUnit c then some ⟨number, imaginary⟩ else none
          | _ => (unit rest).map fun part => ⟨number, part.im⟩

/-- The text of a complex number. The real part is left out
when it is a positive zero. -/
def text (number : Complex) : String :=
  let real := number.re.textIn .part
  let imaginary := number.im.textIn .part
  if number.re.isZero && !number.re.isNegative then imaginary ++ "j"
  else
    let sign := if imaginary.startsWith "-" then "" else "+"
    "(" ++ real ++ sign ++ imaginary ++ "j)"

end Complex
end KindExpr
