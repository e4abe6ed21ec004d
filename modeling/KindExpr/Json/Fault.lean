import KindExpr.Number.Numeral

/-!
# What can be wrong with a JSON text

A fault has a position, which messages also give as line and column.
-/

namespace KindExpr
namespace Json

/-- What is wrong at a position. -/
inductive Problem where
  | byteOrderMark
  | extraData
  | noValue
  | noPropertyName
  | noColon
  | noComma
  | unterminatedText
  | badEscape
  | badCodeEscape
  | controlCharacter
  deriving Repr, DecidableEq

/-- The text of a problem. -/
def Problem.text : Problem → Text
  | byteOrderMark => "Unexpected UTF-8 BOM (decode using utf-8-sig)"
  | extraData => "Extra data"
  | noValue => "Expecting value"
  | noPropertyName => "Expecting property name enclosed in double quotes"
  | noColon => "Expecting ':' delimiter"
  | noComma => "Expecting ',' delimiter"
  | unterminatedText => "Unterminated string starting at"
  | badEscape => "Invalid \\escape"
  | badCodeEscape => "Invalid \\uXXXX escape"
  | controlCharacter => "Invalid control character at"

/-- Why a text gives no value. -/
inductive Fault where
  /-- The text is no JSON, which shows at a position. -/
  | malformed (problem : Problem) (position : Nat)
  /-- An integer has more digits than are read. -/
  | tooManyDigits (count : Nat)
  deriving Repr, DecidableEq

/-- The line and the column of a position in a text, counted from one. -/
def lineAndColumn (text : List Code) (position : Nat) : Nat × Nat :=
  let before := text.take position
  let last := before.reverse.takeWhile fun (c : Code) => c ≠ '\n'
  (before.count (.char '\n') + 1, last.length + 1)

/-- The message of a fault in a text. -/
def Fault.message (text : List Code) : Fault → Text
  | malformed problem position =>
      let (line, column) := lineAndColumn text position
      problem.text ++ ": line " ++ toString line ++ " column " ++ toString column ++
        " (char " ++ toString position ++ ")"
  | tooManyDigits count => Numeral.tooManyDigits count

end Json
end KindExpr
