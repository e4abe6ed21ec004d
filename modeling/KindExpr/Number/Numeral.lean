import KindExpr.Number.Binary64
import KindExpr.Text.Basic
import KindExpr.Text.Casing

/-!
# Numerals

The written forms of integers and floating-point numbers. Digits may come
from any script, a single underscore may stand between two digits, and
blanks may surround a numeral.
-/

namespace KindExpr
namespace Numeral

/-- Read digits that may each follow an underscore, and the rest of the text. -/
def readSeparatedDigits : List Code → List Nat × List Code
  | [] => ([], [])
  | .char '_' :: c :: rest =>
      match Text.digitValue? c with
      | some digit =>
          let (digits, remaining) := readSeparatedDigits rest
          (digit :: digits, remaining)
      | none => ([], '_' :: c :: rest)
  | c :: rest =>
      match Text.digitValue? c with
      | some digit =>
          let (digits, remaining) := readSeparatedDigits rest
          (digit :: digits, remaining)
      | none => ([], c :: rest)

/-- Read the digits a text starts with, and the rest of the text. A single
underscore between two digits is passed over. -/
def readDigits : List Code → List Nat × List Code
  | .char '_' :: rest => ([], '_' :: rest)
  | text => readSeparatedDigits text

/-- The number a list of decimal digits writes. -/
def ofDigits (digits : List Nat) : Nat :=
  digits.foldl (fun total digit => total * 10 + digit) 0

/-- Read a sign, and whether it is a minus. -/
def readSign : List Code → Bool × List Code
  | .char '-' :: rest => (true, rest)
  | .char '+' :: rest => (false, rest)
  | text => (false, text)

/-- Whether a character may stand around a numeral. The separators of information may
not, though they are blank. -/
def isPadding (c : Code) : Bool :=
  Text.isBlank c && !(0x1c ≤ c.toNat && c.toNat ≤ 0x1f)

/-- A numeral without what stands around it. -/
def trimmed (text : List Code) : List Code :=
  ((text.dropWhile isPadding).reverse.dropWhile isPadding).reverse

/-- The largest number of digits an integer numeral may have. -/
def maxDigits : Nat := 4300

/-- What is said about an integer numeral with too many digits. -/
def tooManyDigits (count : Nat) : String :=
  "Exceeds the limit (" ++ toString maxDigits ++
    " digits) for integer string conversion: value has " ++ toString count ++
    " digits; use sys.set_int_max_str_digits() to increase the limit"

/-- Whether a number has few enough digits to be written. -/
def isWritable (magnitude : Nat) : Bool :=
  (Nat.toDigits 10 magnitude).length ≤ maxDigits

/-- What is said about a number with too many digits to be written. -/
def tooLongToWrite : String :=
  "Exceeds the limit (" ++ toString maxDigits ++
    " digits) for integer string conversion; " ++
      "use sys.set_int_max_str_digits() to increase the limit"

/-- The integer a text writes in base ten. -/
def integer? (text : List Code) : Option Int :=
  let (negative, body) := readSign (trimmed text)
  let (digits, rest) := readDigits body
  if digits = [] ∨ rest ≠ [] ∨ digits.length > maxDigits then none
  else
    let magnitude := Int.ofNat (ofDigits digits)
    some (if negative then -magnitude else magnitude)

/-- Read an exponent mark with its digits. Without digits nothing is read. -/
def readExponent (text : List Code) : Int × List Code :=
  match text with
  | mark :: rest =>
      if mark = 'e' ∨ mark = 'E' then
        let (negative, body) := readSign rest
        let (digits, remaining) := readDigits body
        if digits = [] then (0, text)
        else
          let magnitude := Int.ofNat (ofDigits digits)
          (if negative then -magnitude else magnitude, remaining)
      else (0, text)
  | [] => (0, [])

/-- Read an unsigned decimal as its digits and the power of ten
that they are multiplied by. -/
def readDecimal (text : List Code) : Option (List Nat × Int × List Code) :=
  let (whole, afterWhole) := readDigits text
  let (fraction, afterFraction) :=
    match afterWhole with
    | .char '.' :: rest => readDigits rest
    | _ => ([], afterWhole)
  if whole = [] ∧ fraction = [] then none
  else
    let (exponent, remaining) := readExponent afterFraction
    some (whole ++ fraction, exponent - Int.ofNat fraction.length, remaining)

/-- Drop a word from the front of a text, ignoring case. -/
def dropWord? (word : String) (text : List Code) : Option (List Code) :=
  let size := word.length
  if Text.lowerAscii (text.take size) = (word : Text).toList then
    some (text.drop size)
  else none

/-- Read a floating-point number with an optional sign from the front of a text. -/
def readFloat (text : List Code) : Option (Binary64 × List Code) :=
  let (negative, body) := readSign text
  match dropWord? "infinity" body with
  | some rest => some (.infinite negative, rest)
  | none =>
      match dropWord? "inf" body with
      | some rest => some (.infinite negative, rest)
      | none =>
          match dropWord? "nan" body with
          | some rest => some (.nan, rest)
          | none =>
              (readDecimal body).map fun (digits, exponent, rest) =>
                (.ofDecimal negative (ofDigits digits) exponent, rest)

/-- The floating-point number a text writes. -/
def float? (text : List Code) : Option Binary64 :=
  match readFloat (trimmed text) with
  | some (number, []) => some number
  | _ => none

end Numeral
end KindExpr
