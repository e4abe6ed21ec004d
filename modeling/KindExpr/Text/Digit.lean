import KindExpr.Text.Basic

/-!
# Decimal digits

Decimal digits of every script come in runs of ten, from zero to nine. The table holds
the zeros, and the value of a digit is its distance to the zero of its run.
-/

namespace KindExpr
namespace Text

/-- The zero digit of every script. -/
def zeroDigits : List Nat :=
  [
    0x30, 0x660, 0x6f0, 0x7c0, 0x966, 0x9e6, 0xa66, 0xae6, 0xb66, 0xbe6,
    0xc66, 0xce6, 0xd66, 0xde6, 0xe50, 0xed0, 0xf20, 0x1040, 0x1090, 0x17e0,
    0x1810, 0x1946, 0x19d0, 0x1a80, 0x1a90, 0x1b50, 0x1bb0, 0x1c40, 0x1c50, 0xa620,
    0xa8d0, 0xa900, 0xa9d0, 0xa9f0, 0xaa50, 0xabf0, 0xff10, 0x104a0, 0x10d30, 0x11066,
    0x110f0, 0x11136, 0x111d0, 0x112f0, 0x11450, 0x114d0, 0x11650, 0x116c0,
    0x11730, 0x118e0,
    0x11950, 0x11c50, 0x11d50, 0x11da0, 0x16a60, 0x16ac0, 0x16b50, 0x1d7ce,
    0x1d7d8, 0x1d7e2,
    0x1d7ec, 0x1d7f6, 0x1e140, 0x1e2f0, 0x1e950, 0x1fbf0]

/-- The value of a decimal digit of any script. -/
def digitValue? (c : Code) : Option Nat :=
  (zeroDigits.find? fun first => first ≤ c.toNat && c.toNat < first + 10).map
    fun first => c.toNat - first

/-- Whether a character is a decimal digit of some script. -/
def isDigit (c : Code) : Bool :=
  (digitValue? c).isSome

/-- Whether a character is one of the ASCII digits. -/
def isAsciiDigit (c : Code) : Bool :=
  '0' ≤ c && c ≤ '9'

/-- Whether a character is an ASCII letter. -/
def isAsciiLetter (c : Code) : Bool :=
  ('a' ≤ c && c ≤ 'z') || ('A' ≤ c && c ≤ 'Z')

/-- The value of a hexadecimal digit. -/
def hexValue? (c : Code) : Option Nat :=
  if isAsciiDigit c then some (c.toNat - '0'.toNat)
  else if 'a' ≤ c && c ≤ 'f' then some (c.toNat - 'a'.toNat + 10)
  else if 'A' ≤ c && c ≤ 'F' then some (c.toNat - 'A'.toNat + 10)
  else none

/-- Whether a character is a hexadecimal digit. -/
def isHexDigit (c : Code) : Bool :=
  (hexValue? c).isSome

/-- Whether a character is an octal digit. -/
def isOctalDigit (c : Code) : Bool :=
  '0' ≤ c && c ≤ '7'

/-- The number a list of digits writes in a base. A character that
is no digit counts as zero. -/
def digitsToNat (base : Nat) (digits : List Code) : Nat :=
  digits.foldl (fun total c => total * base + (hexValue? c).getD 0) 0

/-- Digits that are filled up with zeros to a width. -/
def padded (width : Nat) (digits : List Char) : String :=
  String.ofList (List.replicate (width - digits.length) '0' ++ digits)

/-- Lower-case hexadecimal digits of a number, padded with zeros to a width. -/
def hexDigits (width : Nat) (number : Nat) : String :=
  padded width (Nat.toDigits 16 number)

/-- Upper-case hexadecimal digits of a number, padded with zeros to a width. -/
def hexDigitsUpper (width : Nat) (number : Nat) : String :=
  (hexDigits width number).map Char.toUpper

/-- Decimal digits of a number, padded with zeros to a width. -/
def paddedDigits (width : Nat) (number : Nat) : String :=
  padded width (Nat.toDigits 10 number)

end Text
end KindExpr
