import KindExpr.Yaml.Input

/-!
# Reading from a YAML text

A reading takes characters from an input, or finds a fault. The input is left where the
fault was found. The operations of `Input` are here as steps of a reading.
-/

namespace KindExpr
namespace Yaml

/-- A reading of a text that gives a result. -/
abbrev Reading := ExceptT Fault (StateM Input)

namespace Reading

/-- The character a number of places ahead. -/
def peek (offset : Nat) : Reading Code :=
  return (← get).peek offset

/-- The next character. -/
def next : Reading Code :=
  return (← get).next

/-- The place of the next character. -/
def mark : Reading Mark :=
  return (← get).mark

/-- Move past some characters. -/
def skip (count : Nat) : Reading Unit :=
  modify fun input => input.skip count

/-- Move past spaces. -/
def skipSpaces : Reading Unit :=
  modify Input.skipSpaces

/-- Take the characters of a class that come next. -/
def takeWhile (accepts : Code → Bool) : Reading (List Code) :=
  modifyGet fun input => input.takeWhile accepts

/-- Take some characters. -/
def take (count : Nat) : Reading (List Code) :=
  modifyGet fun input => (input.preview count, input.skip count)

/-- Take a line break, if there is one. -/
def takeBreak : Reading (List Code) :=
  modifyGet Input.takeBreak

/-- A problem at the next character, within something that began at a mark. -/
def fail (context : Context) (start : Mark) (problem : Problem) : Reading α := do
  throw (.at (some (context, some start)) problem (← mark))

/-- Spaces, a comment and a line break: nothing else may follow on the line. -/
def endLine (context : Context) (start : Mark) : Reading Unit := do
  modify fun input => input.skipSpaces.skipComment
  let c ← next
  unless isLineEnd c do fail context start (.noLineEnd c)
  let _ ← takeBreak

/-- Spaces and line breaks that stand before a text of a given indentation. The
breaks are the result, with the place after the last of them. -/
def takeIndentedBreaks (indent : Nat) : Reading (List Code × Mark) := do
  let rec indentLine : Nat → Input → Input
    | 0, input => input
    | fuel + 1, input =>
        if input.column < indent && input.next = ' ' then
          indentLine fuel input.step
        else input
  let rec loop (breaks : List Code) (stop : Mark) : Nat → Input → List Code × Mark × Input
    | 0, input => (breaks, stop, input)
    | fuel + 1, input =>
        let input := indentLine indent input
        match input.takeBreak with
        | ([], _) => (breaks, stop, input)
        | (found, after) => loop (breaks ++ found) after.mark fuel after
  modifyGet fun input =>
    let (breaks, stop, after) := loop [] input.mark input.fuel input
    ((breaks, stop), after)

end Reading
end Yaml
end KindExpr
