import KindExpr.Expr.Alternative
import KindExpr.Text.Digit
import KindExpr.Yaml.Input
import KindExpr.Yaml.Node.Plain

/-!
# Writing YAML

Data is written in blocks: every field and every item has a line of its own. The
items of a list in a field are not indented. A text is written plain if it then
reads back as this text, otherwise between single quotation marks if it has no
characters that need an escape, and otherwise between double ones. Long texts
continue on the next line, at a single space once a line is wider than the width.
-/

namespace KindExpr
namespace Yaml
namespace Printer

/-- The width after which a line is broken. -/
def width : Nat := 80

/-- How much deeper each level of a block is indented. -/
def indentStep : Nat := 2

/-! ## Choice of a style -/

/-- How a text is written. -/
inductive Style where
  | plain
  | single
  | double
  deriving Repr, DecidableEq

/-- Whether a character is written as itself outside of double quotation marks. -/
def isOrdinary (c : Code) : Bool :=
  c = '\n' || (' ' ≤ c && c ≤ '~')

/-- Whether a character at the start of a text makes it a structure. -/
def startsStructure (c : Code) (following : Code) : Bool :=
  ("#,[]\x7b\x7d&*!|>'\"%@" : Text).toList.contains c || c.toNat = 0x60 ||
    ((c = '?' || c = ':' || c = '-') && isBlankOrEnd following)

/-- Whether a text holds a structure after a character: a colon that a blank
follows, or a number sign after a blank. -/
def holdsStructure (previous : Code) : List Code → Bool
  | [] => false
  | c :: rest =>
      (c = ':' && isBlankOrEnd (rest.head?.getD endChar)) ||
        (c = '#' && isBlankOrEnd previous) || holdsStructure c rest

/-- Whether a plain text would be taken for a structure. -/
def isStructure (text : List Code) : Bool :=
  ("---" : Text).toList.isPrefixOf text || ("..." : Text).toList.isPrefixOf text ||
    match text with
    | [] => false
    | c :: rest => startsStructure c (rest.head?.getD endChar) || holdsStructure c rest

/-- Whether one character directly follows another one somewhere in a text. -/
def holdsPair (first second : Code) : List Code → Bool
  | c :: next :: rest =>
      (c = first && next = second) || holdsPair first second (next :: rest)
  | _ => false

/-- The style of a text. -/
def styleOf (text : List Code) : Style :=
  let edges := text.head?.toList ++ text.getLast?.toList
  let edged := edges.any fun c => c = ' ' || c = '\n'
  if !text.all isOrdinary || holdsPair ' ' '\n' text then .double
  else if holdsPair '\n' ' ' text then .double
  else if text.isEmpty || edged || text.contains '\n' || isStructure text ||
      Plain.tagOf text ≠ .text then .single
  else .plain

/-! ## Writing texts -/

/-- What was written so far, the latest character first, and the column behind it. -/
structure Writer where
  written : List Code
  column : Nat
  deriving Repr

namespace Writer

/-- Write characters that do not break the line. -/
def write (writer : Writer) (text : List Code) : Writer :=
  ⟨text.reverse ++ writer.written, writer.column + text.length⟩

/-- Break the line. -/
def breakLine (writer : Writer) : Writer :=
  ⟨'\n' :: writer.written, 0⟩

/-- Go on at a column of the next line. -/
def indentLine (writer : Writer) (indent : Nat) : Writer :=
  writer.breakLine.write (List.replicate indent ' ')

end Writer

/-- A run of characters, all spaces, all line breaks or neither. -/
inductive Run where
  | word (text : List Code)
  | spaces (count : Nat)
  | breaks (count : Nat)
  deriving Repr, DecidableEq

/-- Put a character in front of some runs. -/
def addToRuns (c : Code) (runs : List Run) : List Run :=
  match c, runs with
  | .char ' ', .spaces count :: rest => .spaces (count + 1) :: rest
  | .char ' ', rest => .spaces 1 :: rest
  | .char '\n', .breaks count :: rest => .breaks (count + 1) :: rest
  | .char '\n', rest => .breaks 1 :: rest
  | _, .word text :: rest => .word (c :: text) :: rest
  | _, rest => .word [c] :: rest

/-- The runs of a text in order. -/
def runsOf (text : List Code) : List Run :=
  text.foldr addToRuns []

/-- Write some spaces, or break the line at a single one if the line is full. -/
def writeSpaces (indent count : Nat) (mayBreak : Bool) (writer : Writer) : Writer :=
  if count = 1 && mayBreak && writer.column > width then writer.indentLine indent
  else writer.write (List.replicate count ' ')

/-- Write some line breaks within quotation marks, where a single
one would stand for a space. -/
def writeBreaks (indent count : Nat) (writer : Writer) : Writer :=
  let broken := (List.range (count + 1)).foldl (fun writer _ => writer.breakLine) writer
  broken.write (List.replicate indent ' ')

/-- Write the runs of a text that is plain or stands between single quotation
marks, which are doubled. -/
def writeRuns (indent : Nat) (isFirst : Bool) : List Run → Writer → Writer
  | [], writer => writer
  | run :: rest, writer =>
      let next :=
        match run with
        | .word text =>
            writer.write (text.flatMap fun (c : Code) => if c = '\'' then [c, c] else [c])
        | .spaces count => writeSpaces indent count (!isFirst && !rest.isEmpty) writer
        | .breaks count => writeBreaks indent count writer
      writeRuns indent false rest next

/-- Write the runs of a plain text. -/
def writePlain (indent : Nat) : List Run → Writer → Writer
  | [], writer => writer
  | .word text :: rest, writer => writePlain indent rest (writer.write text)
  | .spaces count :: rest, writer =>
      writePlain indent rest (writeSpaces indent count true writer)
  | .breaks count :: rest, writer =>
      writePlain indent rest (writeBreaks indent count writer)

/-- The letter of an escape, for the characters that have one. -/
def escapeLetter? (c : Code) : Option Code :=
  match c with
  | .char '\x00' => some '0'
  | .char '\x07' => some 'a'
  | .char '\x08' => some 'b'
  | .char '\t' => some 't'
  | .char '\n' => some 'n'
  | .char '\x0b' => some 'v'
  | .char '\x0c' => some 'f'
  | .char '\r' => some 'r'
  | .char '\x1b' => some 'e'
  | .char '"' => some '"'
  | .char '\\' => some '\\'
  | .char '\u0085' => some 'N'
  | .char '\u00a0' => some '_'
  | .char '\u2028' => some 'L'
  | .char '\u2029' => some 'P'
  | _ => none

/-- A character as an escape. -/
def escape (c : Code) : List Code :=
  match escapeLetter? c with
  | some letter => ['\\', letter]
  | none =>
      let code := c.toNat
      if code < 0x100 then ("\\x" ++ Text.hexDigitsUpper 2 code : Text).toList
      else if code < 0x10000 then ("\\u" ++ Text.hexDigitsUpper 4 code : Text).toList
      else ("\\U" ++ Text.hexDigitsUpper 8 code : Text).toList

/-- Whether a character is written as itself between double quotation marks. -/
def isUnescaped (c : Code) : Bool :=
  ' ' ≤ c && c ≤ '~' && c ≠ '"' && c ≠ '\\'

/-- End the line behind a backslash. A space that comes next is escaped, because
blanks at the start of a line have no meaning. -/
def foldDouble (indent : Nat) (pending : List Code) (following : Option Code)
    (writer : Writer) :
    Writer :=
  let next := (writer.write (pending ++ [.char '\\'])).indentLine indent
  if following = some ' ' then next.write ['\\'] else next

/-- Write a text between double quotation marks from a position on. The
pending characters stand before the position and were not written yet. The
line may end before a space, behind an escape and before what follows an
escape, but not at the ends of the text. -/
def writeDouble (indent size : Nat) : Nat → List Code → List Code → Writer → Writer
  | _, pending, [], writer => writer.write pending
  | position, pending, c :: rest, writer =>
      let isInside := 0 < position && position + 1 < size
      if isUnescaped c then
        let isFull := writer.column + pending.length > width
        if isInside && (c = ' ' || pending.isEmpty) && isFull then
          writeDouble indent size (position + 1) [c] rest
            (foldDouble indent pending (some c) writer)
        else writeDouble indent size (position + 1) (pending ++ [c]) rest writer
      else
        let next := writer.write (pending ++ escape c)
        let isFull := next.column > width + 1
        writeDouble indent size (position + 1) [] rest
          (if isInside && isFull then foldDouble indent [] rest.head? next else next)

/-- Write a text whose continuation lines are indented. -/
def writeText (indent : Nat) (text : Text) (writer : Writer) : Writer :=
  let chars := text.toList
  match styleOf chars with
  | .plain => writePlain indent (runsOf chars) writer
  | .single => (writeRuns indent true (runsOf chars) (writer.write ['\''])).write ['\'']
  | .double =>
      (writeDouble indent chars.length 0 [] chars (writer.write ['"'])).write ['"']

/-! ## Writing data -/

mutual

/-- Write data behind an indicator or a name, in a block of some indentation. -/
def writeData (indent : Nat) : Data → Writer → Writer
  | .boolean value, writer =>
      writer.write (if value then "true" else "false" : Text).toList
  | .text value, writer => writeText (indent + indentStep) value writer
  | .list [], writer => writer.write ['[', ']']
  | .list (first :: rest), writer =>
      writeItems indent rest
        (writeData (indent + indentStep) first (writer.write ['-', ' ']))
  | .record [], writer => writer.write ['\x7b', '\x7d']
  | .record (field :: rest), writer =>
      writeFields indent rest (writeField indent field writer)

/-- Write the items of a list, each on a new line. -/
def writeItems (indent : Nat) : List Data → Writer → Writer
  | [], writer => writer
  | item :: rest, writer =>
      writeItems indent rest
        (writeData (indent + indentStep) item
          ((writer.indentLine indent).write ['-', ' ']))

/-- Write the fields of a record, each on a new line. -/
def writeFields (indent : Nat) : List (String × Data) → Writer → Writer
  | [], writer => writer
  | field :: rest, writer =>
      writeFields indent rest (writeField indent field (writer.indentLine indent))

/-- Write a field. Its name is a plain word. -/
def writeField (indent : Nat) : String × Data → Writer → Writer
  | (name, value), writer =>
      let named := writer.write (name ++ ":" : Text).toList
      match value with
      | .list (first :: rest) =>
          writeItems indent (first :: rest) named
      | .record (field :: rest) =>
          writeFields (indent + indentStep) (field :: rest) named
      | .list [] => named.write (" []" : Text).toList
      | .record [] => named.write [' ', '\x7b', '\x7d']
      | .boolean value => named.write (if value then " true" else " false" : Text).toList
      | .text value => writeText (indent + indentStep) value (named.write [' '])

end

end Printer

/-- The YAML text of data, without a line break at its end. -/
def print (data : Data) : Text :=
  Text.ofList (Printer.writeData 0 data ⟨[], 0⟩).written.reverse

end Yaml
end KindExpr
