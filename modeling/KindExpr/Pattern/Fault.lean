import KindExpr.Text.Quoted

/-!
# What can be wrong with a pattern

A fault names the cause; its message adds the position in the pattern, and the
line and column when the pattern has several lines.
-/

namespace KindExpr
namespace Pattern

/-- The causes for which a pattern is rejected. -/
inductive Fault where
  | escapeAtEnd
  | missing (what : Text)
  | unterminatedName (terminator : Code)
  | badGroupName (name : Text)
  | incompleteEscape (escape : Text)
  | badEscape (escape : Text)
  | unknownCharacterName (name : Text)
  | octalOutOfRange (escape : Text)
  | openGroup
  | lookBehindGroup
  | unknownGroup (number : Nat)
  | unterminatedSet
  | badRange (low high : Text)
  | reversedBounds
  | nothingToRepeat
  | repeatedRepeat
  | unexpectedEnd
  | unknownGroupName (name : Text)
  | unknownExtension (text : Text)
  | unterminatedComment
  | unterminatedGroup
  | groupZero
  | thirdBranch
  | lateGlobalFlags
  | repeatedGroupName (name : Text) (number earlier : Nat)
  | localeOfText
  | unicodeOfBytes
  | incompatibleFlags
  | flagExpected (isLetter : Bool) (expected : Text)
  | addedGlobalFlag
  | removedGlobalFlag
  | removedClassification
  | contradictoryFlags
  | unbalanced
  | unboundedLookBehind
  | repeatInTemplate (operator : Text)
  deriving Repr, DecidableEq

namespace Fault

/-- The text of a fault, without its position. -/
def text : Fault → Text
  | escapeAtEnd => "bad escape (end of pattern)"
  | missing what => "missing " ++ what
  | unterminatedName terminator =>
      "missing " ++ Text.singleton terminator ++ ", unterminated name"
  | badGroupName name => "bad character in group name " ++ Text.quote name
  | incompleteEscape escape => "incomplete escape " ++ escape
  | badEscape escape => "bad escape " ++ escape
  | unknownCharacterName name => "undefined character name " ++ Text.quote name
  | octalOutOfRange escape =>
      "octal escape value " ++ escape ++ " outside of range 0-0o377"
  | openGroup => "cannot refer to an open group"
  | lookBehindGroup => "cannot refer to group defined in the same lookbehind subpattern"
  | unknownGroup number => "invalid group reference " ++ toString number
  | unterminatedSet => "unterminated character set"
  | badRange low high => "bad character range " ++ low ++ "-" ++ high
  | reversedBounds => "min repeat greater than max repeat"
  | nothingToRepeat => "nothing to repeat"
  | repeatedRepeat => "multiple repeat"
  | unexpectedEnd => "unexpected end of pattern"
  | unknownGroupName name => "unknown group name " ++ Text.quote name
  | unknownExtension text => "unknown extension ?" ++ text
  | unterminatedComment => "missing ), unterminated comment"
  | unterminatedGroup => "missing ), unterminated subpattern"
  | groupZero => "bad group number"
  | thirdBranch => "conditional backref with more than two branches"
  | lateGlobalFlags => "global flags not at the start of the expression"
  | repeatedGroupName name number earlier =>
      "redefinition of group name " ++ Text.quote name ++ " as group " ++
        toString number ++
        "; was group " ++ toString earlier
  | localeOfText => "bad inline flags: cannot use 'L' flag with a str pattern"
  | unicodeOfBytes => "bad inline flags: cannot use 'u' flag with a bytes pattern"
  | incompatibleFlags => "bad inline flags: flags 'a', 'u' and 'L' are incompatible"
  | flagExpected isLetter expected =>
      if isLetter then "unknown flag" else "missing " ++ expected
  | addedGlobalFlag => "bad inline flags: cannot turn on global flag"
  | removedGlobalFlag => "bad inline flags: cannot turn off global flag"
  | removedClassification => "bad inline flags: cannot turn off flags 'a', 'u' and 'L'"
  | contradictoryFlags => "bad inline flags: flag turned on and off"
  | unbalanced => "unbalanced parenthesis"
  | unboundedLookBehind => "look-behind requires fixed-width pattern"
  | repeatInTemplate operator => "internal: unsupported template operator " ++ operator

end Fault

/-- Why a pattern does not compile. -/
inductive Failure where
  /-- The pattern is rejected, as a rule at some position in it. -/
  | malformed (fault : Fault) (position : Option Nat)
  /-- A repetition bound is beyond every length. -/
  | repetitionTooLarge
  /-- A repetition bound is written with too many digits. -/
  | tooManyDigits (count : Nat)
  /-- A look-behind begins too many characters back. -/
  | lookBehindOutOfReach
  /-- The flags ask for two classifications of characters. -/
  | asciiAndUnicode
  /-- The flags ask a byte pattern for two classifications of characters. -/
  | asciiAndLocale
  deriving Repr, DecidableEq

/-- Line and column of a position, both counted from one. -/
def lineAndColumn (source : List Code) (position : Nat) : Nat × Nat :=
  let before := source.take position
  (before.count (.char '\n') + 1, (before.reverse.takeWhile (· ≠ .char '\n')).length + 1)

/-- The message of a fault in a pattern. -/
def Fault.message (fault : Fault) (source : List Code) : Option Nat → Text
  | none => fault.text
  | some position =>
      let place := fault.text ++ " at position " ++ toString position
      if source.contains '\n' then
        let (line, column) := lineAndColumn source position
        place ++ " (line " ++ toString line ++ ", column " ++ toString column ++ ")"
      else place

end Pattern
end KindExpr
