import KindExpr.Yaml.Token.Reading
import KindExpr.Text.Digit

/-!
# Quoted scalars of YAML

A scalar between single quotation marks writes a mark by two of them. Between
double quotation marks a backslash starts an escape. In both a line break is
folded into a space, and the line breaks after it are kept.
-/

namespace KindExpr
namespace Yaml

/-- The character that an escape of one letter stands for. -/
def escaped? (letter : Code) : Option Code :=
  match letter with
  | .char '0' => some '\x00'
  | .char 'a' => some '\x07'
  | .char 'b' => some '\x08'
  | .char 't' => some '\t'
  | .char '\t' => some '\t'
  | .char 'n' => some '\n'
  | .char 'v' => some '\x0b'
  | .char 'f' => some '\x0c'
  | .char 'r' => some '\r'
  | .char 'e' => some '\x1b'
  | .char ' ' => some ' '
  | .char '"' => some '"'
  | .char '\\' => some '\\'
  | .char '/' => some '/'
  | .char 'N' => some '\u0085'
  | .char '_' => some '\u00a0'
  | .char 'L' => some '\u2028'
  | .char 'P' => some '\u2029'
  | _ => none

/-- The number of digits of an escape that writes a code point. -/
def escapeWidth? (letter : Code) : Option Nat :=
  match letter with
  | .char 'x' => some 2
  | .char 'u' => some 4
  | .char 'U' => some 8
  | _ => none

namespace Reading

/-- The line breaks that follow a folded one, with the blanks before them. -/
def quotedBreaks (start : Mark) : Nat → List Code → Reading (List Code)
  | 0, breaks => return breaks
  | fuel + 1, breaks => do
      if (← get).atDocumentIndicator then fail .quoted start .documentInScalar
      let _ ← takeWhile fun c => c = ' ' || c = '\t'
      match ← takeBreak with
      | [] => return breaks
      | found => quotedBreaks start fuel (breaks ++ found)

/-- All line breaks that follow a folded one. -/
def allQuotedBreaks (start : Mark) : Reading (List Code) := do
  quotedBreaks start (← get).fuel []

/-- A code point in hexadecimal digits. -/
def escapedCode (start : Mark) (width : Nat) : Reading (List Code) := do
  let digits := (← get).preview width
  match digits.find? fun c => !Text.isHexDigit c with
  | some c => fail .doubleQuoted start (.noEscapeDigits width c)
  | none =>
      if digits.length < width then
        fail .doubleQuoted start (.noEscapeDigits width endChar)
      let code := Text.digitsToNat 16 digits
      if code ≥ 0x80000000 then throw (.value .codeTooLarge)
      if code ≥ 0x110000 then throw (.value .noCharacter)
      skip width
      return [Code.ofNat code]

/-- An escape, after its backslash. -/
def escape (start : Mark) : Reading (List Code) := do
  let c ← next
  match escaped? c with
  | some replacement =>
      skip 1
      return [replacement]
  | none =>
      match escapeWidth? c with
      | some width =>
          skip 1
          escapedCode start width
      | none =>
          if isBreak c then
            let _ ← takeBreak
            allQuotedBreaks start
          else fail .doubleQuoted start (.unknownEscape c)

/-- The characters of a quoted scalar up to a blank or the end, the latest first. -/
def quotedWords (double : Bool) (start : Mark) : Nat → List Code → Reading (List Code)
  | 0, text => return text
  | fuel + 1, text => do
      let word ← takeWhile fun c => !(isBlankOrEnd c || c = '\'' || c = '"' || c = '\\')
      let text := word.reverse ++ text
      let c ← next
      if !double && c = '\'' && (← peek 1) = '\'' then
        skip 2
        quotedWords double start fuel ('\'' :: text)
      else if (double && c = '\'') || (!double && (c = '"' || c = '\\')) then
        skip 1
        quotedWords double start fuel (c :: text)
      else if double && c = '\\' then
        skip 1
        let replaced ← escape start
        quotedWords double start fuel (replaced.reverse ++ text)
      else return text

/-- The blanks and line breaks between two words of a quoted scalar. -/
def quotedBlanks (start : Mark) : Reading (List Code) := do
  let blanks ← takeWhile fun c => c = ' ' || c = '\t'
  let c ← next
  if c = endChar then fail .quoted start .endInScalar
  if isBreak c then
    let lineBreak ← takeBreak
    let breaks ← allQuotedBreaks start
    let kept :=
      if lineBreak ≠ [.char '\n'] then lineBreak else if breaks.isEmpty then [' '] else []
    return kept ++ breaks
  else return blanks

/-- The rest of a quoted scalar after some words, the latest character first. -/
def quotedRest (double : Bool) (quote : Code) (start : Mark) :
    Nat → List Code → Reading (List Code)
  | 0, text => return text
  | fuel + 1, text => do
      if (← next) = quote then
        skip 1
        return text
      else
        let blanks ← quotedBlanks start
        let text ← quotedWords double start (← get).fuel (blanks.reverse ++ text)
        quotedRest double quote start fuel text

/-- A quoted scalar. -/
def quotedScalar (double : Bool) : Reading Text := do
  let start ← mark
  let quote ← next
  skip 1
  let fuel := (← get).fuel
  let words ← quotedWords double start fuel []
  return Text.ofList (← quotedRest double quote start fuel words).reverse

end Reading
end Yaml
end KindExpr
