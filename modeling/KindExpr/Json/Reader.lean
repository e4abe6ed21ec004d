import KindExpr.Json.Fault
import KindExpr.Number.Numeral
import KindExpr.Value.Equal

/-!
# Reading JSON

The value that a JSON text writes. Besides the standard the words `NaN`, `Infinity`
and `-Infinity` are numbers. Of the fields of an object that have one name the
last one counts, at the place of the first one.
-/

namespace KindExpr
namespace Json

/-- What is left of a text, and the number of characters before it. -/
structure Cursor where
  rest : List Code
  position : Nat
  deriving Repr

namespace Cursor

/-- Move past some characters, or to the end of a text that has fewer of them. -/
def skip (cursor : Cursor) : Nat → Cursor
  | 0 => cursor
  | count + 1 =>
      match cursor.rest with
      | [] => cursor
      | _ :: rest => skip ⟨rest, cursor.position + 1⟩ count

/-- Whether more than some number of characters is left. -/
def hasMoreThan (cursor : Cursor) (count : Nat) : Bool :=
  !(cursor.rest.drop count).isEmpty

/-- Whether a character is passed over between the parts of a text. -/
def isSpace (c : Code) : Bool :=
  c = ' ' || c = '\t' || c = '\n' || c = '\r'

/-- Move past spaces. -/
def skipSpaces (cursor : Cursor) : Cursor :=
  cursor.skip (cursor.rest.takeWhile isSpace).length

/-- A fault at the cursor. -/
def fail (cursor : Cursor) (problem : Problem) : Except Fault α :=
  .error (.malformed problem cursor.position)

end Cursor

/-! ## Texts -/

/-- The character that an escape of one letter stands for. -/
def escaped? (letter : Code) : Option Code :=
  match letter with
  | .char '"' => some '"'
  | .char '\\' => some '\\'
  | .char '/' => some '/'
  | .char 'b' => some '\x08'
  | .char 'f' => some '\x0c'
  | .char 'n' => some '\n'
  | .char 'r' => some '\r'
  | .char 't' => some '\t'
  | _ => none

/-- The unit that four hexadecimal digits write, which must not be the last
characters of the text. The cursor stands behind the letter of the escape. -/
def readUnit (cursor : Cursor) : Except Fault Nat :=
  let digits := cursor.rest.take 4
  if !cursor.hasMoreThan 4 || !digits.all Text.isHexDigit then
    .error (.malformed .badCodeEscape (cursor.position - 1))
  else .ok (Text.digitsToNat 16 digits)

/-- Whether a unit is the first one of a pair. -/
def isHighUnit (unit : Nat) : Bool :=
  0xd800 ≤ unit && unit < 0xdc00

/-- Whether a unit is the second one of a pair. -/
def isLowUnit (unit : Nat) : Bool :=
  0xdc00 ≤ unit && unit < 0xe000

/-- The character of a pair of units. -/
def pairCharacter (high low : Nat) : Code :=
  Code.ofNat (0x10000 + (high - 0xd800) * 0x400 + (low - 0xdc00))

/-- The code point that a numbered escape stands for. The cursor stands behind the
letter of the escape. A unit that is half of a pair but stands alone is a surrogate. -/
def readCode (cursor : Cursor) : Except Fault (Code × Cursor) := do
  let unit ← readUnit cursor
  let after := cursor.skip 4
  match after.rest with
  | .char '\\' :: .char 'u' :: _ =>
      if isHighUnit unit && (after.skip 2).hasMoreThan 4 then
        let second ← readUnit (after.skip 2)
        if isLowUnit second then return (pairCharacter unit second, after.skip 6)
        else return (Code.ofNat unit, after)
      else return (Code.ofNat unit, after)
  | _ => return (Code.ofNat unit, after)

/-- The rest of a text that began at a position. -/
def readText (start : Nat) : Nat → Cursor → List Code → Except Fault (Text × Cursor)
  | 0, _, _ => .error (.malformed .unterminatedText start)
  | fuel + 1, cursor, text =>
      match cursor.rest with
      | [] => .error (.malformed .unterminatedText start)
      | .char '"' :: _ => .ok (Text.ofList text.reverse, cursor.skip 1)
      | .char '\\' :: [] => .error (.malformed .unterminatedText start)
      | .char '\\' :: .char 'u' :: _ => do
          let (c, after) ← readCode (cursor.skip 2)
          readText start fuel after (c :: text)
      | .char '\\' :: letter :: _ =>
          match escaped? letter with
          | some c => readText start fuel (cursor.skip 2) (c :: text)
          | none => cursor.fail .badEscape
      | c :: _ =>
          if c.toNat < 0x20 then cursor.fail .controlCharacter
          else readText start fuel (cursor.skip 1) (c :: text)

/-- A text behind its opening quotation mark. -/
def readTextBody (cursor : Cursor) : Except Fault (Text × Cursor) :=
  readText (cursor.position - 1) (cursor.rest.length + 1) cursor []

/-! ## Numbers -/

/-- The digits of an integer without a sign: a zero alone, or digits
that start with another one. -/
def wholeDigits (text : List Code) : List Code :=
  match text with
  | .char '0' :: _ => ['0']
  | _ => text.takeWhile Text.isAsciiDigit

/-- The point and the digits after it, if there are any. -/
def fractionPart (text : List Code) : List Code :=
  match text with
  | .char '.' :: rest =>
      let digits := rest.takeWhile Text.isAsciiDigit
      if digits.isEmpty then [] else '.' :: digits
  | _ => []

/-- The exponent with its mark and sign, if it has any digits. -/
def exponentPart (text : List Code) : List Code :=
  match text with
  | mark :: rest =>
      if mark = 'e' || mark = 'E' then
        let sign := rest.takeWhile fun (c : Code) => c = '-' || c = '+'
        let digits := (rest.drop (sign.take 1).length).takeWhile Text.isAsciiDigit
        if digits.isEmpty then [] else mark :: sign.take 1 ++ digits
      else []
  | [] => []

/-- A number. -/
def readNumber (cursor : Cursor) : Except Fault (Value × Cursor) := do
  let sign : List Code := if cursor.rest.head? = some '-' then ['-'] else []
  let unsigned := cursor.rest.drop sign.length
  let whole := wholeDigits unsigned
  if whole.isEmpty then cursor.fail .noValue
  let afterWhole := unsigned.drop whole.length
  let fraction := fractionPart afterWhole
  let exponent := exponentPart (afterWhole.drop fraction.length)
  let written := sign ++ whole ++ fraction ++ exponent
  let after := cursor.skip written.length
  if fraction.isEmpty && exponent.isEmpty then
    match Numeral.integer? written with
    | some number => return (.integer number, after)
    | none => throw (.tooManyDigits whole.length)
  else return (.float ((Numeral.float? written).getD .nan), after)

/-- The words that stand for a value. -/
def words : List (Text × Value) :=
  [("null", .null), ("true", .boolean true), ("false", .boolean false),
    ("NaN", .float .nan),
    ("Infinity", .float (.infinite false)), ("-Infinity", .float (.infinite true))]

/-- The word at the cursor and its value, if there is one. -/
def word? (cursor : Cursor) : Option (Value × Cursor) :=
  (words.find? fun entry => entry.1.toList.isPrefixOf cursor.rest).map fun entry =>
    (entry.2, cursor.skip entry.1.length)

/-! ## Values -/

mutual

/-- A value. -/
def readValue : Nat → Cursor → Except Fault (Value × Cursor)
  | 0, cursor => cursor.fail .noValue
  | fuel + 1, cursor =>
      match cursor.rest with
      | .char '"' :: _ => do
          let (text, after) ← readTextBody (cursor.skip 1)
          return (.text text, after)
      | .char '[' :: _ => do
          let inner := (cursor.skip 1).skipSpaces
          match inner.rest with
          | .char ']' :: _ => return (.list [], inner.skip 1)
          | _ =>
              let (items, after) ← readItems fuel inner
              return (.list items, after)
      | .char '\x7b' :: _ => do
          let inner := (cursor.skip 1).skipSpaces
          match inner.rest with
          | .char '\x7d' :: _ => return (.mapping .plain [], inner.skip 1)
          | _ =>
              let (fields, after) ← readFields fuel inner
              return (.mapping .plain (Value.entriesOfPairs fields), after)
      | _ =>
          match word? cursor with
          | some found => .ok found
          | none => readNumber cursor

/-- The items of a list from the next one on. -/
def readItems : Nat → Cursor → Except Fault (List Value × Cursor)
  | 0, cursor => cursor.fail .noValue
  | fuel + 1, cursor => do
      let (item, after) ← readValue fuel cursor
      let after := after.skipSpaces
      match after.rest with
      | .char ']' :: _ => return ([item], after.skip 1)
      | .char ',' :: _ =>
          let (rest, last) ← readItems fuel (after.skip 1).skipSpaces
          return (item :: rest, last)
      | _ => after.fail .noComma

/-- The fields of an object from the next one on. -/
def readFields : Nat → Cursor → Except Fault (List (Value × Value) × Cursor)
  | 0, cursor => cursor.fail .noPropertyName
  | fuel + 1, cursor => do
      match cursor.rest with
      | .char '"' :: _ =>
          let (name, afterName) ← readTextBody (cursor.skip 1)
          let afterName := afterName.skipSpaces
          match afterName.rest with
          | .char ':' :: _ =>
              let (value, after) ← readValue fuel (afterName.skip 1).skipSpaces
              let after := after.skipSpaces
              match after.rest with
              | .char '\x7d' :: _ => return ([(.text name, value)], after.skip 1)
              | .char ',' :: _ =>
                  let (rest, last) ← readFields fuel (after.skip 1).skipSpaces
                  return ((.text name, value) :: rest, last)
              | _ => after.fail .noComma
          | _ => afterName.fail .noColon
      | _ => cursor.fail .noPropertyName

end

/-- The value of a JSON text. A bracket takes at most two units of fuel and every
other character at most one. -/
def read (text : List Code) : Except Fault Value := do
  if text.head? = some '\ufeff' then throw (.malformed .byteOrderMark 0)
  let start : Cursor := ⟨text, 0⟩
  let (value, after) ← readValue (2 * text.length + 2) start.skipSpaces
  let last := after.skipSpaces
  if last.rest.isEmpty then return value else last.fail .extraData

end Json
end KindExpr
