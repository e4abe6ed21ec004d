import KindExpr.Expr.Alternative
import KindExpr.Expr.Fault
import KindExpr.Text.Basic
import KindExpr.Text.Digit

/-!
# Reading one character of a type expression

The scan goes over an expression once, character by character. It is inside a
list of alternatives, of which the last one is still being written; around this
list stand the lists whose last alternative it belongs to.

`Scan.step` reads one character. It knows nothing of placeholders, which are
replaced before a character is read.
-/

namespace KindExpr

/-- A list of alternatives that is being written. -/
structure OpenList where
  /-- The finished alternatives, the latest first. -/
  finished : List Alternative
  /-- The alternative being written. -/
  current : Alternative
  deriving Repr

namespace OpenList

/-- A list in which nothing is written yet. -/
def start : OpenList := ⟨[], .blank⟩

/-- The alternatives of a list in the order they were written. -/
def alternatives (list : OpenList) : List Alternative :=
  list.finished.reverse ++ [list.current]

/-- Finish the current alternative and start the next one. -/
def next (list : OpenList) : OpenList :=
  ⟨list.current :: list.finished, .blank⟩

/-- Change the current alternative. -/
def update (list : OpenList) (change : Alternative → Alternative) : OpenList :=
  { list with current := change list.current }

end OpenList

/-- What the next character belongs to. The characters of a literal are
kept with the latest first. -/
inductive ScanMode where
  | plain
  /-- The body of a literal. -/
  | body (text : List Code)
  /-- The body of a literal, after a backslash. -/
  | escaped (text : List Code)
  /-- The flags of a literal. -/
  | flags (text letters : List Code)
  deriving Repr, DecidableEq

/-- The state of the scan. -/
structure Scan where
  mode : ScanMode
  list : OpenList
  /-- The lists around this one, the innermost first. -/
  outer : List OpenList
  deriving Repr

namespace Scan

/-- The scan of an expression before its first character. -/
def start : Scan := ⟨.plain, .start, []⟩

/-- The alternative being written. -/
def current (scan : Scan) : Alternative := scan.list.current

/-- Change the alternative being written. -/
def update (scan : Scan) (change : Alternative → Alternative) : Scan :=
  { scan with list := scan.list.update change }

/-- Whether a character can stand in a type name. -/
def isNameChar (c : Code) : Bool :=
  ('a' ≤ c && c ≤ 'z') || Text.isAsciiDigit c

/-- The literal that was written with the latest character first. -/
def literalOf (text letters : List Code) : Literal :=
  ⟨Text.ofList text.reverse, Text.ofList letters.reverse⟩

/-- End the flags of a literal, if they are being read. -/
def endFlags (scan : Scan) : Scan :=
  match scan.mode with
  | .flags text letters =>
      { scan.update fun node =>
        { node with literal := some (literalOf text letters) } with
        mode := .plain }
  | _ => scan

/-- End the flags of a literal before a character that is no letter. -/
def settle (scan : Scan) (c : Code) : Scan :=
  if Text.isAsciiLetter c then scan else scan.endFlags

/-- Declare what the current alternative holds so far to be the key. -/
def declareKey (node : Alternative) : Alternative :=
  { node with
    key := some node.name
    keyLiteral := node.literal
    keyNegated := node.negated
    name := ""
    literal := none
    negated := false }

/-- Read one of the characters that may stand only after a type name or a literal. -/
def stepAfterContent (scan : Scan) (c : Code) : Except ParseFault Scan :=
  let node := scan.current
  match c with
  | .char '<' =>
      if !node.members.isEmpty then .error (.secondMembers c)
      else .ok ⟨.plain, .start, scan.list :: scan.outer⟩
  | .char '>' =>
      match scan.outer with
      | [] => .error (.closeAtRoot c)
      | parent :: outer =>
          let members := scan.list.alternatives
          .ok ⟨.plain, parent.update fun node => { node with members := members }, outer⟩
  | .char '|' => .ok { scan with list := scan.list.next }
  | .char ':' =>
      if scan.outer.isEmpty then .error (.keyAtRoot c)
      else if node.hasKey then .error (.secondKey c)
      else if !node.members.isEmpty then .error (.keyAfterMembers c)
      else .ok (scan.update declareKey)
  | _ => .error (.unknown (Text.singleton c))

/-- Read a character outside of a literal. -/
def stepPlain (scan : Scan) (c : Code) : Except ParseFault Scan :=
  let node := scan.current
  if Text.isBlank c then .ok scan
  else if c = '/' then
    if node.hasContent || !node.members.isEmpty then .error (.lateLiteral c)
    else .ok { scan with mode := .body [] }
  else if c = '!' then
    if node.hasContent then .error (.lateNegation c)
    else .ok (scan.update fun node => { node with negated := !node.negated })
  else if isNameChar c then
    if node.literal.isSome then .error (.nameAfterLiteral c)
    else if !node.members.isEmpty then .error (.nameAfterMembers c)
    else .ok (scan.update fun node => { node with name := node.name.push c })
  else if !node.hasContent then .error (.early (Text.singleton c))
  else scan.stepAfterContent c

/-- Read one character. -/
def step (scan : Scan) (c : Code) : Except ParseFault Scan :=
  match scan.mode with
  | .plain => scan.stepPlain c
  | .body text =>
      if c = '\\' then .ok { scan with mode := .escaped (c :: text) }
      else if c = '/' then .ok { scan with mode := .flags text [] }
      else .ok { scan with mode := .body (c :: text) }
  | .escaped text => .ok { scan with mode := .body (c :: text) }
  | .flags text letters =>
      if Text.isAsciiLetter c then .ok { scan with mode := .flags text (c :: letters) }
      else scan.endFlags.stepPlain c

/-- End the scan. A fault comes with its distance from the end of the text. -/
def finish (scan : Scan) : Except (ParseFault × Nat) (List Alternative) :=
  match scan.mode with
  | .body _ => .error (.unterminatedLiteral, 0)
  | .escaped _ => .error (.unterminatedLiteral, 1)
  | _ =>
      let last := scan.endFlags
      if !last.outer.isEmpty then .error (.missingClose, 0)
      else if !last.current.hasContent then .error (.unexpectedEnd, 0)
      else .ok last.list.alternatives

end Scan
end KindExpr
