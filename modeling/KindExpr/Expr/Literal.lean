import KindExpr.Value.Basic

/-!
# Regular-expression literals

A literal is a pattern between slashes with flag letters after it, as in
`/ab+/i`. Between the slashes a backslash takes the character after it along, so
a slash inside the pattern is written after a backslash.

Every text pattern has a literal, whose flags are those in force.
-/

namespace KindExpr

/-- A regular-expression literal: its body and the flag letters after it. -/
structure Literal where
  body : Text
  flags : Text
  deriving Repr, DecidableEq

namespace Literal

/-- The mark before and after the body. -/
def delimiter : Code := '/'

/-- The mark that takes the next character of a body along. -/
def escape : Code := '\\'

/-- A literal as it is written. -/
def source (literal : Literal) : Text :=
  "/" ++ literal.body ++ "/" ++ literal.flags

/-- Put a backslash before every slash that has none. A backslash at the end of
the text stands alone. -/
def escapeDelimiters : List Code → List Code
  | .char '\\' :: c :: rest => '\\' :: c :: escapeDelimiters rest
  | c :: rest =>
      if c = '/' then '\\' :: '/' :: escapeDelimiters rest
      else c :: escapeDelimiters rest
  | [] => []

/-- The flag letters with the flag that each sets, in the order they are written in. -/
def flagLetters : List (Code × Pattern.Flags) :=
  [('i', { Pattern.Flags.none with ignoreCase := true }),
    ('m', { Pattern.Flags.none with multiLine := true }),
    ('s', { Pattern.Flags.none with dotAll := true }),
    ('x', { Pattern.Flags.none with verbose := true }),
    ('a', { Pattern.Flags.none with ascii := true })]

/-- The flag a letter sets. The letter `u` sets none, because text is classified
by all scripts anyway. -/
def flagOfLetter? (letter : Code) : Option Pattern.Flags :=
  if letter = 'u' then some .none else flagLetters.lookup letter

/-- The flags that some letters set, or the first letter that sets none. -/
def readFlags : List Code → Except Code Pattern.Flags
  | [] => .ok .none
  | letter :: rest =>
      match flagOfLetter? letter with
      | none => .error letter
      | some flag => (readFlags rest).map flag.union

/-- The letters of the flags in a set. -/
def lettersOf (flags : Pattern.Flags) : List Code :=
  flagLetters.filterMap fun entry =>
    if flags.inter entry.2 = .none then none else some entry.1

/-- The literal of a pattern. -/
def ofPattern (pattern : Pattern) : Literal where
  body := Text.ofList (escapeDelimiters pattern.source.toList)
  flags := Text.ofList (lettersOf pattern.flags)

end Literal
end KindExpr
