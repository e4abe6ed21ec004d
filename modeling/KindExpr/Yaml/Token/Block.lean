import KindExpr.Yaml.Token.Reading
import KindExpr.Text.Digit

/-!
# Block scalars of YAML

A block scalar is a text of indented lines. A header says whether single line
breaks are folded into spaces, what happens to the line breaks at the end, and
how deep the text is indented.
-/

namespace KindExpr
namespace Yaml

/-- What happens to the line breaks at the end of a block scalar. -/
inductive Chomping where
  /-- One line break is kept. -/
  | clip
  | strip
  | keep
  deriving Repr, DecidableEq

namespace Reading

/-- Read how a block scalar ends, if that is said. -/
def chomping? : Reading (Option Chomping) := do
  match ← next with
  | .char '+' =>
      skip 1
      return some .keep
  | .char '-' =>
      skip 1
      return some .strip
  | _ => return none

/-- Read the indentation of a block scalar, if it is said. -/
def indentation? (start : Mark) : Reading (Option Nat) := do
  let c ← next
  if Text.isAsciiDigit c then
    if c = '0' then fail .blockScalar start .zeroIndentation
    skip 1
    return some (c.toNat - '0'.toNat)
  else return none

/-- The header of a block scalar: how it ends and how deep it
is indented, in either order. -/
def blockHeader (start : Mark) : Reading (Chomping × Option Nat) := do
  let header ←
    match ← chomping? with
    | some chomping => do
        let indentation ← indentation? start
        pure (chomping, indentation)
    | none =>
        match ← indentation? start with
        | some indentation => do
            let chomping ← chomping?
            pure (chomping.getD .clip, some indentation)
        | none => pure (Chomping.clip, Option.none)
  let c ← next
  unless isSpaceOrEnd c do fail .blockScalar start (.noBlockIndicator c)
  return header

/-- Spaces and line breaks before the first line of a block scalar: the breaks,
the largest indentation and the place after the last break. -/
def leadingBreaks : Reading (List Code × Nat × Mark) := do
  let rec loop (breaks : List Code) (deepest : Nat) (stop : Mark) :
      Nat → Input → (List Code × Nat × Mark) × Input
    | 0, input => ((breaks, deepest, stop), input)
    | fuel + 1, input =>
        if input.next = ' ' then
          let after := input.step
          loop breaks (max deepest after.column) stop fuel after
        else
          match input.takeBreak with
          | ([], _) => ((breaks, deepest, stop), input)
          | (found, after) => loop (breaks ++ found) deepest after.mark fuel after
  modifyGet fun input => loop [] 0 input.mark input.fuel input

/-- What stands between two lines of a block scalar. -/
def blockJoin (folded : Bool) (lineBreak breaks : List Code) (first following : Code) :
    List Code :=
  let isBlank (c : Code) : Bool := c = ' ' || c = '\t'
  if folded && lineBreak = [.char '\n'] && !isBlank first && !isBlank following then
    if breaks.isEmpty then [' '] else []
  else lineBreak

/-- The lines of a block scalar: the text with the last line break left away
and the latest character first, this line break, the breaks after it and the
place after the last of them. -/
def blockLines (folded : Bool) (indent : Nat) :
    Nat → List Code → List Code → Mark →
      Reading (List Code × List Code × List Code × Mark)
  | 0, text, breaks, stop => return (text, [], breaks, stop)
  | fuel + 1, text, breaks, stop => do
      let input ← get
      if input.column = indent && input.next ≠ endChar then
        let first ← next
        let line ← takeWhile fun c => !isLineEnd c
        let text := line.reverse ++ (breaks.reverse ++ text)
        let lineBreak ← takeBreak
        let (breaks, stop) ← takeIndentedBreaks indent
        let after ← get
        if after.column = indent && after.next ≠ endChar then
          blockLines folded indent fuel
            ((blockJoin folded lineBreak breaks first after.next).reverse ++
              text) breaks stop
        else return (text, lineBreak, breaks, stop)
      else return (text, [], breaks, stop)

/-- A block scalar within something of a given indentation: its text and the
place where it stops. -/
def blockScalar (folded : Bool) (outer : Int) : Reading (Text × Mark) := do
  let start ← mark
  skip 1
  let (chomping, indentation) ← blockHeader start
  endLine .blockScalar start
  let least := max 1 (outer + 1).toNat
  let (indent, breaks, stop) ←
    match indentation with
    | some depth => do
        let indent := least + depth - 1
        let (breaks, stop) ← takeIndentedBreaks indent
        pure (indent, breaks, stop)
    | none => do
        let (breaks, deepest, stop) ← leadingBreaks
        pure (max least deepest, breaks, stop)
  let fuel := (← get).fuel
  let (text, lineBreak, breaks, stop) ← blockLines folded indent fuel [] breaks stop
  let tail :=
    match chomping with
    | .strip => []
    | .clip => lineBreak
    | .keep => lineBreak ++ breaks
  return (Text.ofList (text.reverse ++ tail), stop)

end Reading
end Yaml
end KindExpr
