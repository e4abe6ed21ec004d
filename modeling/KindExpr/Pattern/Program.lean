import KindExpr.Pattern.CharacterClass

/-!
# Programs for matching

What a tree is compiled into. A program is a step with everything that follows it, so
that the parts of a tree that follow each other are told apart from those that are
matched on their own: the body of an atomic group, of a look-around or of a possessive
repetition ends with `finish`, the body of any other repetition with `iterate`.
-/

namespace KindExpr
namespace Pattern

/-- A program for matching. -/
inductive Program where
  /-- The end of what is matched on its own. -/
  | finish
  /-- The end of the body of a repetition. -/
  | iterate
  /-- No way to go on. -/
  | fail
  /-- One character. -/
  | take (test : CharacterTest) (next : Program)
  /-- A place under flags. -/
  | anchor (flags : Flags) (place : Anchor) (next : Program)
  /-- One end of a group; those of a group follow each other in number. -/
  | mark (index : Nat) (next : Program)
  /-- The text of a group again, under flags. -/
  | reference (flags : Flags) (group : Nat) (next : Program)
  /-- A choice by whether a group has matched. -/
  | conditional (group : Nat) (yes no : Program)
  /-- Go on behind the alternatives. -/
  | leave (next : Program)
  /-- The first alternative, and the others. -/
  | choice (first others : Program)
  /-- Repetition of one character. -/
  | run (greed : Greed) (least : Nat) (most : Option Nat) (test : CharacterTest)
      (next : Program)
  /-- Repetition of a body, which can be given back. -/
  | loop (isLazy : Bool) (least : Nat) (most : Option Nat) (body next : Program)
  /-- Repetition of a body, which is kept. -/
  | keep (least : Nat) (most : Option Nat) (body next : Program)
  /-- A body of which the first match is kept. -/
  | atomic (body next : Program)
  /-- A look at a body that begins some characters back. -/
  | look (back : Nat) (negated : Bool) (body next : Program)
  deriving Repr, DecidableEq

namespace Program

/-- The mark for the start of a group. -/
def startMark (group : Nat) : Nat := 2 * (group - 1)

/-- The mark for the end of a group. -/
def endMark (group : Nat) : Nat := 2 * (group - 1) + 1

/-- The program for a repetition of a body. -/
def repeating (greed : Greed) (least : Nat) (most : Option Nat) (body : Program → Program)
    (next : Program) : Program :=
  match greed with
  | .greedy => loop false least most (body iterate) next
  | .lazy => loop true least most (body iterate) next
  | .possessive => keep least most (body finish) next

/-- The program for a tree under some flags, before another program. -/
def ofNode (flags : Flags) : Node → Program → Program
  | .empty, next => next
  | .sequence before last, next => ofNode flags before (ofNode flags last next)
  | .branch first others, next =>
      choice (ofNode flags first (leave next)) (ofNode flags others next)
  | .dead, _ => fail
  | .code point, next => take (.ofCode flags false point) next
  | .notCode point, next => take (.ofCode flags true point) next
  | .any, next => take (.any flags.dotAll) next
  | .set negated items, next => take (.ofSet flags negated items) next
  | .anchor place, next => anchor flags place next
  | .group number added removed body, next =>
      let inner := flags.within added removed
      match number with
      | none => ofNode inner body next
      | some group =>
          mark (startMark group) (ofNode inner body (mark (endMark group) next))
  | .atomic body, next => atomic (ofNode flags body finish) next
  | .repetition greed least most body, next =>
      match CharacterTest.ofNode? flags body with
      | some test => run greed least most test next
      | none => repeating greed least most (ofNode flags body) next
  | .look behind negated body, next =>
      look (if behind then body.width.low else 0) negated (ofNode flags body finish) next
  | .reference group _, next => reference flags group next
  | .conditional group yes .empty, next => conditional group (ofNode flags yes next) next
  | .conditional group yes no, next =>
      conditional group (ofNode flags yes (leave next)) (ofNode flags no next)

/-- How many literal characters the matches of some parts start with, and
whether that is all of them. -/
def literalStart (flags : Flags) : Node → Nat × Bool
  | .empty => (0, true)
  | .sequence before last =>
      let (size, all) := literalStart flags before
      if all then
        let (more, rest) := literalStart flags last
        (size + more, rest)
      else (size, false)
  | .code point =>
      if flags.ignoreCase && flags.isCased point then (0, false) else (1, true)
  | .group _ added removed body => literalStart (flags.within added removed) body
  | _ => (0, false)

/-- Whether an item of a set can be looked up without regard to case. -/
def isFixed (flags : Flags) (item : SetItem) : Bool :=
  !flags.ignoreCase || !item.isCased flags

/-- Whether an alternative starts with a literal character. -/
def startsLiterally (flags : Flags) (alternative : Node) : Bool :=
  match alternative.toList with
  | .code point :: _ => !(flags.ignoreCase && flags.isCased point)
  | _ => false

/-- Whether all of some alternatives start with a literal character. -/
def allStartLiterally (flags : Flags) : Node → Bool
  | .branch first others => startsLiterally flags first && allStartLiterally flags others
  | .dead => true
  | _ => false

/-- Whether the first character of the matches of a tree is looked up in a
set before matching starts. -/
def startsInSet (flags : Flags) : Node → Bool
  | .sequence before _ => startsInSet flags before
  | .branch first others => startsLiterally flags first && allStartLiterally flags others
  | .set _ items => items.all (isFixed flags)
  | .group _ added removed body => startsInSet (flags.within added removed) body
  | _ => false

end Program
end Pattern
end KindExpr
