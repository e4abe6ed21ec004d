import KindExpr.Yaml.Token.Reading

/-!
# Plain scalars of YAML

A plain scalar is written without marks. It ends before a comment, before a colon
that a blank follows, at a character that closes what it stands in, and at a line
that is not indented deeper than what it stands in.
-/

namespace KindExpr
namespace Yaml
namespace Reading

/-- The characters that end a plain scalar between brackets. -/
def isFlowMark (c : Code) : Bool :=
  c = ',' || c = '?' || c = '[' || c = ']' || c = '\x7b' || c = '\x7d'

/-- Whether a plain scalar ends at the first of some characters. -/
def endsPlain (inFlow : Bool) (c following : Code) : Bool :=
  isBlankOrEnd c ||
    (c = ':' && (isBlankOrEnd following ||
      (inFlow && isFlowMark following && following ≠ '?'))) ||
    (inFlow && isFlowMark c)

/-- The characters that a plain scalar takes from a text without a blank. -/
def plainWord (inFlow : Bool) : List Code → List Code
  | [] => []
  | c :: rest =>
      if endsPlain inFlow c (rest.head?.getD endChar) then []
      else c :: plainWord inFlow rest

/-- The line breaks and spaces that follow a line break in a plain scalar, unless
a document indicator stands at the start of a line. -/
def plainBreaks : Nat → List Code → Reading (Option (List Code))
  | 0, breaks => return some breaks
  | fuel + 1, breaks => do
      skipSpaces
      match ← takeBreak with
      | [] => return some breaks
      | found =>
          if (← get).atDocumentIndicator then return none
          else plainBreaks fuel (breaks ++ found)

/-- What stands between two words of a plain scalar, and whether there was a line
break. Nothing stands there when the scalar ends. -/
def plainBlanks : Reading (List Code × Bool) := do
  let blanks ← takeWhile (· = ' ')
  if isBreak (← next) then
    let lineBreak ← takeBreak
    if (← get).atDocumentIndicator then return ([], true)
    match ← plainBreaks (← get).fuel [] with
    | none => return ([], true)
    | some breaks =>
        let folded :=
          if lineBreak ≠ [.char '\n'] then lineBreak
          else if breaks.isEmpty then [' '] else []
        return (folded ++ breaks, true)
  else return (blanks, false)

/-- The words of a plain scalar: the text with the latest character first, the place
where it stops and whether the scalar was ended by a line break. -/
def plainWords (inFlow : Bool) (indent : Int) :
    Nat → List Code → List Code → Mark → Bool → Reading (List Code × Mark × Bool)
  | 0, text, _, stop, broken => return (text, stop, broken)
  | fuel + 1, text, blanks, stop, broken => do
      let input ← get
      let word := plainWord inFlow input.rest
      if input.next = '#' || word.isEmpty then return (text, stop, broken)
      skip word.length
      let text := word.reverse ++ (blanks.reverse ++ text)
      let stop ← mark
      let (blanks, broken) ← plainBlanks
      let after ← get
      if blanks.isEmpty || after.next = '#' ||
        (!inFlow && Int.ofNat after.column < indent) then
        return (text, stop, broken)
      else plainWords inFlow indent fuel text blanks stop broken

/-- A plain scalar within something of a given indentation: its text, the place
where it stops and whether a line break was read after it. -/
def plainScalar (inFlow : Bool) (outer : Int) : Reading (Text × Mark × Bool) := do
  let start ← mark
  let (text, stop, broken) ←
    plainWords inFlow (outer + 1) (← get).fuel [] [] start false
  return (Text.ofList text.reverse, stop, broken)

end Reading
end Yaml
end KindExpr
