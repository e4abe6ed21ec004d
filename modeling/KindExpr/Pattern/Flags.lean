import KindExpr.Text.Basic

/-!
# Pattern flags

Flags change how a whole pattern or one of its groups is read and matched. A
flag set is written as letters in a literal, as names in the text of a pattern
and as one number in a cache key.
-/

namespace KindExpr
namespace Pattern

/-- A set of pattern flags. -/
structure Flags where
  /-- Reject repetition; a historic mode. -/
  template : Bool
  /-- Ignore the case of letters. -/
  ignoreCase : Bool
  /-- Follow the locale; for byte patterns only. -/
  locale : Bool
  /-- Let the line anchors match at every line. -/
  multiLine : Bool
  /-- Let the dot match a line feed. -/
  dotAll : Bool
  /-- Classify characters of all scripts. -/
  unicode : Bool
  /-- Skip blanks and comments in the pattern. -/
  verbose : Bool
  /-- Classify ASCII characters only. -/
  ascii : Bool
  deriving Repr, DecidableEq

namespace Flags

/-- The empty set of flags. -/
def none : Flags := ⟨false, false, false, false, false, false, false, false⟩

instance : Inhabited Flags := ⟨none⟩

/-- The flag an inline letter stands for. -/
def ofLetter? : Code → Option Flags
  | .char 't' => some { none with template := true }
  | .char 'i' => some { none with ignoreCase := true }
  | .char 'L' => some { none with locale := true }
  | .char 'm' => some { none with multiLine := true }
  | .char 's' => some { none with dotAll := true }
  | .char 'u' => some { none with unicode := true }
  | .char 'x' => some { none with verbose := true }
  | .char 'a' => some { none with ascii := true }
  | _ => Option.none

/-- The flags in either set. -/
def union (left right : Flags) : Flags where
  template := left.template || right.template
  ignoreCase := left.ignoreCase || right.ignoreCase
  locale := left.locale || right.locale
  multiLine := left.multiLine || right.multiLine
  dotAll := left.dotAll || right.dotAll
  unicode := left.unicode || right.unicode
  verbose := left.verbose || right.verbose
  ascii := left.ascii || right.ascii

/-- The flags in both sets. -/
def inter (left right : Flags) : Flags where
  template := left.template && right.template
  ignoreCase := left.ignoreCase && right.ignoreCase
  locale := left.locale && right.locale
  multiLine := left.multiLine && right.multiLine
  dotAll := left.dotAll && right.dotAll
  unicode := left.unicode && right.unicode
  verbose := left.verbose && right.verbose
  ascii := left.ascii && right.ascii

/-- The flags of the left set that are not in the right one. -/
def without (left right : Flags) : Flags where
  template := left.template && !right.template
  ignoreCase := left.ignoreCase && !right.ignoreCase
  locale := left.locale && !right.locale
  multiLine := left.multiLine && !right.multiLine
  dotAll := left.dotAll && !right.dotAll
  unicode := left.unicode && !right.unicode
  verbose := left.verbose && !right.verbose
  ascii := left.ascii && !right.ascii

/-- The flags that choose a classification of characters. At most
one of them holds at a time. -/
def classification : Flags :=
  { none with locale := true, unicode := true, ascii := true }

/-- The flags inside a group that adds some flags and removes others. -/
def within (outer added removed : Flags) : Flags :=
  let kept :=
    if added.inter classification = none then outer else outer.without classification
  (kept.union added).without removed

/-- One entry for every flag: whether it is set, its bit and its name. -/
def entries (flags : Flags) : List (Bool × Nat × String) :=
  [(flags.template, 1, "re.TEMPLATE"),
    (flags.ignoreCase, 2, "re.IGNORECASE"),
    (flags.locale, 4, "re.LOCALE"),
    (flags.multiLine, 8, "re.MULTILINE"),
    (flags.dotAll, 16, "re.DOTALL"),
    (flags.unicode, 32, "re.UNICODE"),
    (flags.verbose, 64, "re.VERBOSE"),
    (flags.ascii, 256, "re.ASCII")]

/-- A flag set as one number. -/
def toNat (flags : Flags) : Nat :=
  flags.entries.foldl (fun total entry => if entry.1 then total + entry.2.1 else total) 0

/-- The names of the flags in a set. -/
def names (flags : Flags) : List String :=
  flags.entries.filterMap fun entry => if entry.1 then some entry.2.2 else Option.none

end Flags
end Pattern
end KindExpr
