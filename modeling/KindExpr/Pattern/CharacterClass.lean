import KindExpr.Pattern.Node
import KindExpr.Text.Basic
import KindExpr.Text.Casing
import KindExpr.Text.Word

/-!
# Tests on one character

What a part of a pattern asks of one character. The flags decide what letters,
digits and blanks are and whether case counts. When case does not count, the small
letter of the character is tested: it must be the small letter of what is written or
one of the look-alikes of this.

A set in which nothing has case is tested as it is written.
-/

namespace KindExpr
namespace Pattern

/-- A test on one character. -/
inductive CharacterTest where
  /-- A code point, or any other. -/
  | code (negated : Bool) (point : Nat)
  /-- A small letter in any case, or any other. -/
  | letter (flags : Flags) (negated : Bool) (small : Nat)
  /-- Any character, or any but a line feed. -/
  | any (dotAll : Bool)
  /-- A set as it is written. -/
  | set (flags : Flags) (negated : Bool) (items : List SetItem)
  /-- A set in which case does not count. -/
  | folded (flags : Flags) (negated : Bool) (items : List SetItem)
  deriving Repr, DecidableEq

/-! ## Letters under flags -/

/-- The small letter of a code point under some flags. -/
def Flags.small (flags : Flags) (code : Nat) : Nat :=
  if flags.unicode then Text.smallCode code else Text.smallAsciiCode code

/-- Whether a code point is a letter with case under some flags. -/
def Flags.isCased (flags : Flags) (code : Nat) : Bool :=
  if flags.unicode then Text.isCasedCode code else Text.isCasedAsciiCode code

/-- Whether a range holds a letter with case under some flags. -/
def Flags.hasCased (flags : Flags) (low high : Nat) : Bool :=
  if flags.unicode then Text.hasCasedCode low high else Text.hasCasedAsciiCode low high

/-- The small letters that count as one small letter under some flags. -/
def Flags.alike (flags : Flags) (small : Nat) : List Nat :=
  if flags.unicode then Text.alikeCodes small else [small]

/-- The code points whose small letter is a given one, under some flags. -/
def Flags.spellings (flags : Flags) (small : Nat) : List Nat :=
  if flags.unicode then
    small :: Text.capitalRuns.filterMap fun run =>
      let capital := (Int.ofNat small - run.2.2.2).toNat
      if Text.inCapitalRun run capital then some capital else Option.none
  else if 0x61 ≤ small ∧ small ≤ 0x7a then [small, small - 32]
  else [small]

/-- Whether a character belongs to a category under some flags. -/
def Category.contains (flags : Flags) (c : Code) : Category → Bool
  | .digit => if flags.unicode then Text.isDigit c else Text.isAsciiDigit c
  | .space =>
      if flags.unicode then Text.isBlank c
      else c = ' ' || ('\t' ≤ c && c ≤ '\x0d')
  | .word => if flags.unicode then Text.isWord c else Text.isAsciiWord c

/-! ## Items of sets -/

/-- The last code point of the first plane. In a set without case the code points
beyond it are compared as they are written. -/
def lastOfPlane : Nat := 0xffff

namespace SetItem

/-- Whether an item takes a character as it is written. -/
def takes (flags : Flags) (c : Code) : SetItem → Bool
  | code point => point = c.toNat
  | range low high => low ≤ c.toNat && c.toNat ≤ high
  | category kind negated => kind.contains flags c != negated

/-- Whether an item takes a character, whose small letter is given, when case does not
count. A range takes it if it holds a spelling of the small letter or of a look-alike;
what reaches beyond the first plane must hold the small letter or its capital itself. -/
def takesSmall (flags : Flags) (small : Nat) : SetItem → Bool
  | code point =>
      if point > lastOfPlane then point = small
      else (flags.alike (flags.small point)).contains small
  | range low high =>
      let holds (code : Nat) : Bool := low ≤ code && code ≤ high
      ((flags.alike small).any fun other => (flags.spellings other).any fun code =>
        holds code && code ≤ lastOfPlane) ||
      (high > lastOfPlane && (holds small || holds (Text.capitalCode small)))
  | category kind negated => kind.contains flags (Code.ofNat small) != negated

/-- Whether case makes a difference for an item under some flags. -/
def isCased (flags : Flags) : SetItem → Bool
  | code point => point > lastOfPlane || flags.isCased point
  | range low high => high > lastOfPlane || flags.hasCased low high
  | category _ _ => false

end SetItem

/-! ## Tests -/

namespace CharacterTest

/-- The test for a code point, or for any other, under some flags. -/
def ofCode (flags : Flags) (negated : Bool) (point : Nat) : CharacterTest :=
  if !flags.ignoreCase || !flags.isCased point then code negated point
  else
    let small := flags.small point
    if flags.alike small = [small] then letter flags negated small
    else folded flags negated [.code small]

/-- The test for a set under some flags. -/
def ofSet (flags : Flags) (negated : Bool) (items : List SetItem) : CharacterTest :=
  if flags.ignoreCase && items.any (SetItem.isCased flags) then folded flags negated items
  else set flags negated items

/-- The test that a part of a pattern makes, if it is one for one character. -/
def ofNode? (flags : Flags) : Node → Option CharacterTest
  | .code point => some (ofCode flags false point)
  | .notCode point => some (ofCode flags true point)
  | .any => some (any flags.dotAll)
  | .set negated items => some (ofSet flags negated items)
  | .group Option.none added removed body => ofNode? (flags.within added removed) body
  | _ => none

/-- Whether a character passes a test. -/
def passes (c : Code) : CharacterTest → Bool
  | code negated point => (point = c.toNat) != negated
  | letter flags negated small => (small = flags.small c.toNat) != negated
  | any dotAll => dotAll || c ≠ '\n'
  | set flags negated items => (items.any fun item => item.takes flags c) != negated
  | folded flags negated items =>
      (items.any fun item => item.takesSmall flags (flags.small c.toNat)) != negated

/-- Whether a test is made on a set without case. -/
def isFolded : CharacterTest → Bool
  | folded _ _ _ => true
  | _ => false

/-- Whether a test can be made without starting to match: it is one for a code point
or for a set as it is written. -/
def isPlain : CharacterTest → Bool
  | code false _ => true
  | set _ _ _ => true
  | _ => false

end CharacterTest
end Pattern
end KindExpr
