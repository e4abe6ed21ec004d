import KindExpr.Expr.Scan
import KindExpr.Value.Writable

/-!
# Reading a type expression

A dollar sign outside of a literal is a placeholder. It is replaced by the next
placeholder value and the replacement is read in its place; a replacement may not
contain a placeholder of its own.

`scanText` goes over one text and hands over at a placeholder, `scanValues` takes
the placeholder values one after the other. Both are recursions on their data: a
text between two placeholders, and the list of values.
-/

namespace KindExpr

/-- A place in the text that is being read. -/
structure Place where
  /-- The characters before the place, the latest first. -/
  seen : List Code
  /-- How many characters from here on come from the latest placeholder value. -/
  spliced : Nat
  deriving Repr, DecidableEq

namespace Place

/-- The place before the first character of a text. -/
def start : Place := ⟨[], 0⟩

/-- Move past a character. -/
def advance (place : Place) (c : Code) : Place :=
  ⟨c :: place.seen, place.spliced - 1⟩

/-- The number of characters before a place. -/
def position (place : Place) : Nat :=
  place.seen.length

/-- The whole text, of which some is still to be read. -/
def textWith (place : Place) (rest : List Code) : Text :=
  Text.ofList (place.seen.reverse ++ rest)

/-- The error of a fault at a place. -/
def error (place : Place) (rest : List Code) (fault : ParseFault) : ParseError :=
  ⟨fault, place.position, place.textWith rest⟩

end Place

/-- A type expression that was read, and its text with all placeholders replaced. -/
structure Parsed where
  alternatives : List Alternative
  text : Text
  deriving Repr

/-- The text a placeholder value stands for, if it can stand in an expression. -/
def Value.replacement? : Value → Option Text
  | .text value => some value
  | .derivedText value => some value
  | .pattern compiled => some (Literal.ofPattern compiled).source
  | _ => none

/-- Go over a text up to its end or to a placeholder, which is handed
over with the text after it. -/
def scanText
    (onPlaceholder : List Code → Place → Scan → Except ParseError Parsed) :
    List Code → Place → Scan → Except ParseError Parsed
  | [], place, scan =>
      match scan.finish with
      | .ok alternatives => .ok ⟨alternatives, place.textWith []⟩
      | .error (fault, distance) =>
          .error ⟨fault, place.position - distance, place.textWith []⟩
  | c :: rest, place, scan =>
      let settled := scan.settle c
      if c = '$' ∧ settled.mode = .plain then onPlaceholder rest place settled
      else
        match scan.step c with
        | .ok next => scanText onPlaceholder rest (place.advance c) next
        | .error fault => .error (place.error (c :: rest) fault)

/-- Go on at a placeholder with the values that are left. -/
def scanValues : List Value → List Code → Place → Scan → Except ParseError Parsed
  | [], rest, place, _ =>
      .error (place.error ('$' :: rest)
        (if place.spliced > 0 then .nestedPlaceholder else .missingValue))
  | value :: values, rest, place, scan =>
      if place.spliced > 0 then .error (place.error ('$' :: rest) .nestedPlaceholder)
      else
        match value.replacement? with
        | none =>
            let fault :=
              match value.display? with
              | some shown => ParseFault.unsupportedValue shown
              | none => .unwritableValue
            .error (place.error ('$' :: rest) fault)
        | some replacement =>
            if replacement.isEmpty then .error (place.error ('$' :: rest) .emptyValue)
            else
              scanText (scanValues values) (replacement.toList ++ rest)
                { place with spliced := replacement.length } scan

/-- Read a type expression with its placeholder values. -/
def parse (expression : Text) (placeholders : List Value) : Except ParseError Parsed :=
  scanText (scanValues placeholders) expression.toList .start .start

end KindExpr
