import KindExpr.Text.Digit
import KindExpr.Text.Printable

/-!
# Quoted text

Text and bytes between quotation marks. A text is quoted with apostrophes unless
it holds apostrophes but no double quotation marks. The mark itself, the
backslash and every character that is not printable are escaped.
-/

namespace KindExpr
namespace Text

/-- The mark a text is quoted with. -/
def quotationMark (text : List Code) : Code :=
  if text.contains '\'' && !text.contains '"' then '"' else '\''

/-- A character as it stands between two quotation marks. -/
def quotedChar (mark : Code) (c : Code) : List Code :=
  if c = mark ∨ c = '\\' then ['\\', c]
  else if c = '\n' then ['\\', 'n']
  else if c = '\r' then ['\\', 'r']
  else if c = '\t' then ['\\', 't']
  else if isPrintable c then [c]
  else if c.toNat < 0x100 then '\\' :: 'x' :: (hexDigits 2 c.toNat : Text).toList
  else if c.toNat < 0x10000 then '\\' :: 'u' :: (hexDigits 4 c.toNat : Text).toList
  else '\\' :: 'U' :: (hexDigits 8 c.toNat : Text).toList

/-- Quote a text. -/
def quote (text : Text) : Text :=
  let mark := quotationMark text.toList
  Text.ofList (mark :: text.toList.flatMap (quotedChar mark) ++ [mark])

/-- A byte as it stands between two quotation marks. -/
def quotedByte (mark : Code) (byte : UInt8) : List Code :=
  let c := Code.ofNat byte.toNat
  if byte.toNat < 0x80 then quotedChar mark c
  else '\\' :: 'x' :: (hexDigits 2 byte.toNat : Text).toList

/-- Quote bytes between two given marks. -/
def quoteBytesWith (mark : Code) (bytes : List UInt8) : Text :=
  Text.ofList ([.char 'b', mark] ++ bytes.flatMap (quotedByte mark) ++ [mark])

/-- Quote bytes. -/
def quoteBytes (bytes : List UInt8) : Text :=
  quoteBytesWith (quotationMark (bytes.map fun byte => Code.ofNat byte.toNat)) bytes

/-- Quote bytes inside the text of a mutable buffer, where an apostrophe is
escaped even between double quotation marks. -/
def quoteBufferBytes (bytes : List UInt8) : Text :=
  let mark := quotationMark (bytes.map fun byte => Code.ofNat byte.toNat)
  let written (byte : UInt8) : List Code :=
    if byte = 39 then ['\\', '\''] else quotedByte mark byte
  Text.ofList ([.char 'b', mark] ++ bytes.flatMap written ++ [mark])

end Text
end KindExpr
