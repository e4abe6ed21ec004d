import KindExpr.Yaml.Fault

/-!
# A YAML text while it is read

An input is what is left of a text, with the mark of its next character. Behind
the end stands the null character, which no YAML text may hold.
-/

namespace KindExpr
namespace Yaml

/-- The character that stands for the end of the text. -/
def endChar : Code := '\x00'

/-- Whether a character breaks the line. -/
def isBreak (c : Code) : Bool :=
  c = '\n' || c = '\r' || c = '\u0085' || c = '\u2028' || c = '\u2029'

/-- Whether the line ends here. -/
def isLineEnd (c : Code) : Bool :=
  c = endChar || isBreak c

/-- Whether a space or the end of the line is here. -/
def isSpaceOrEnd (c : Code) : Bool :=
  c = ' ' || isLineEnd c

/-- Whether a space, a tab or the end of the line is here. -/
def isBlankOrEnd (c : Code) : Bool :=
  c = ' ' || c = '\t' || isLineEnd c

/-- Whether a YAML text may hold a character. -/
def isAllowed (c : Code) : Bool :=
  let code := c.toNat
  code = 9 || code = 10 || code = 13 || (0x20 ≤ code && code ≤ 0x7e) || code = 0x85 ||
    (0xa0 ≤ code && code ≤ 0xd7ff) || (0xe000 ≤ code && code ≤ 0xfffd) || 0x10000 ≤ code

/-- What is left of a text. -/
structure Input where
  rest : List Code
  /-- The number of characters that were read. -/
  index : Nat
  mark : Mark
  /-- The number of characters of the whole text. -/
  size : Nat
  deriving Repr

namespace Input

/-- A whole text. -/
def start (text : List Code) : Input := ⟨text, 0, ⟨0, 0⟩, text.length⟩

/-- More steps than there are characters to be read. -/
def fuel (input : Input) : Nat :=
  input.size + 2

/-- The character a number of places ahead. -/
def peek (input : Input) (offset : Nat) : Code :=
  (input.rest[offset]?).getD endChar

/-- The next character. -/
def next (input : Input) : Code :=
  input.peek 0

/-- The column of the next character. -/
def column (input : Input) : Nat :=
  input.mark.column

/-- The mark after a character that is followed by another one. -/
def markAfter (mark : Mark) (c following : Code) : Mark :=
  if isBreak c && !(c = '\r' && following = '\n') then ⟨mark.line + 1, 0⟩
  else if c = '\ufeff' then mark
  else ⟨mark.line, mark.column + 1⟩

/-- Move past the next character. -/
def step (input : Input) : Input :=
  match input.rest with
  | [] => input
  | c :: rest =>
      { input with
        rest
        index := input.index + 1
        mark := markAfter input.mark c (rest.head?.getD endChar) }

/-- Move past some characters. -/
def skip (input : Input) : Nat → Input
  | 0 => input
  | count + 1 => input.step.skip count

/-- The next characters. -/
def preview (input : Input) (count : Nat) : List Code :=
  input.rest.take count

/-- Take the characters of a class that come next. -/
def takeWhile (input : Input) (accepts : Code → Bool) : List Code × Input :=
  let taken := input.rest.takeWhile accepts
  (taken, input.skip taken.length)

/-- Move past the characters of a class that come next. -/
def skipWhile (input : Input) (accepts : Code → Bool) : Input :=
  (input.takeWhile accepts).2

/-- Move past spaces. -/
def skipSpaces (input : Input) : Input :=
  input.skipWhile (· = ' ')

/-- Move past a comment. -/
def skipComment (input : Input) : Input :=
  if input.next = '#' then input.skipWhile fun c => !isLineEnd c else input

/-- Take a line break, if there is one. All but the line and paragraph separator
stand for a line feed. -/
def takeBreak (input : Input) : List Code × Input :=
  let c := input.next
  if c = '\r' && input.peek 1 = '\n' then (['\n'], input.skip 2)
  else if c = '\r' || c = '\n' || c = '\u0085' then (['\n'], input.step)
  else if c = '\u2028' || c = '\u2029' then ([c], input.step)
  else ([], input)

/-- Whether a document indicator comes next. -/
def atDocumentIndicator (input : Input) : Bool :=
  let mark := input.preview 3
  (mark = [.char '-', .char '-', .char '-'] ||
    mark = [.char '.', .char '.', .char '.']) && isBlankOrEnd (input.peek 3)

end Input
end Yaml
end KindExpr
