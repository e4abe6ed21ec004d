import KindExpr.Number.Numeral

/-!
# What can be wrong with a type expression

A text that is no type expression has a fault at one position. The text in the
error is the one being read, with the placeholders before the position replaced.
-/

namespace KindExpr

/-- The causes for which a text is no type expression. -/
inductive ParseFault where
  | lateLiteral (c : Code)
  | lateNegation (c : Code)
  | nameAfterLiteral (c : Code)
  | nameAfterMembers (c : Code)
  | early (token : Text)
  | secondMembers (c : Code)
  | closeAtRoot (c : Code)
  | keyAtRoot (c : Code)
  | secondKey (c : Code)
  | keyAfterMembers (c : Code)
  | unknown (token : Text)
  | unterminatedLiteral
  | nestedPlaceholder
  | missingValue
  | unsupportedValue (shown : Text)
  /-- A value that can stand for no placeholder cannot be shown either. -/
  | unwritableValue
  | emptyValue
  | missingClose
  | unexpectedEnd
  deriving Repr, DecidableEq

/-- A token between quotation marks. -/
def quotedToken (token : Text) : Text :=
  "\"" ++ token ++ "\""

/-- A character between quotation marks. -/
def quotedCharacter (c : Code) : Text :=
  quotedToken (Text.singleton c)

/-- The text of a fault, without its position. -/
def ParseFault.text : ParseFault → Text
  | lateLiteral c => "Unexpectedly late REGEX token " ++ quotedCharacter c
  | lateNegation c => "Unexpectedly late NEGATE token " ++ quotedCharacter c
  | nameAfterLiteral c =>
      "Unexpected type name after regular expression " ++ quotedCharacter c
  | nameAfterMembers c => "Unexpected type name after member list " ++ quotedCharacter c
  | early token => "Unexpectedly early token " ++ quotedToken token
  | secondMembers c => "Unexpected second member list " ++ quotedCharacter c
  | closeAtRoot c => "Unexpected CLOSE token " ++ quotedCharacter c ++ " at root"
  | keyAtRoot c => "Unexpected KEY token " ++ quotedCharacter c ++ " at root"
  | secondKey c => "Unexpected second KEY token " ++ quotedCharacter c
  | keyAfterMembers c =>
      "Unexpected KEY token " ++ quotedCharacter c ++ " after member list"
  | unknown token => "Unknown token " ++ quotedToken token
  | unterminatedLiteral => "Unterminated regular expression"
  | nestedPlaceholder => "Placeholder values may not contain placeholders"
  | missingValue => "Missing value for placeholder"
  | unsupportedValue shown => "Unsupported placeholder value " ++ shown
  | unwritableValue => Numeral.tooLongToWrite
  | emptyValue => "Empty value for placeholder"
  | missingClose => "Missing CLOSE token " ++ quotedCharacter '>'
  | unexpectedEnd => "Unexpected end of type expression"

/-- Why and where a text is no type expression. -/
structure ParseError where
  fault : ParseFault
  position : Nat
  text : Text
  deriving Repr, DecidableEq

/-- The message of an error. When a value cannot be shown there is nothing
to say about the text either. -/
def ParseError.message (error : ParseError) : Text :=
  match error.fault with
  | .unwritableValue => error.fault.text
  | _ =>
      error.fault.text ++ " in type expression \"" ++ error.text ++ "\" at index " ++
        toString error.position

end KindExpr
