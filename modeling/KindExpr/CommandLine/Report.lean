import KindExpr.Error
import KindExpr.Json.Fault

/-!
# What a run of the program reports

Lines for the two outputs, an exit code, and the failure that ended the run before
its time, if there was one. Sequences that control a terminal are taken out of
everything that is written.

The outputs are encoded. A surrogate has no encoding: the output for errors shows it
as an escape, and a text with one ends the run when it is written to the other.
-/

namespace KindExpr

/-- What can end a run before its time. -/
inductive Failure where
  | error (error : Error)
  | json (fault : Json.Fault)
  /-- What was to be written to the output holds a surrogate. -/
  | unencodable

/-- The report of a run. -/
structure Report where
  output : String
  errors : String
  exitCode : Nat
  failure : Option Failure

namespace Report

/-- The report at the start of a run that ends well. -/
def start : Report := ⟨"", "", 0, none⟩

/-- Leave out the parameters of a control sequence and the character that ends it.
Nothing is left out if the sequence does not end. -/
def dropSequence? (text : List Code) : Option (List Code) :=
  let isParameter (c : Code) : Bool := '0' ≤ c && c ≤ '?'
  let isIntermediate (c : Code) : Bool := ' ' ≤ c && c ≤ '/'
  match (text.dropWhile isParameter).dropWhile isIntermediate with
  | c :: rest => if '@' ≤ c && c ≤ '~' then some rest else none
  | [] => none

/-- A text without control sequences, of which there may be so many characters. -/
def plainText : Nat → List Code → List Code
  | 0, text => text
  | _ + 1, [] => []
  | fuel + 1, c :: rest =>
      match c, rest with
      | .char '\x1b', .char '[' :: inner =>
          match dropSequence? inner with
          | some after => plainText fuel after
          | none => c :: plainText fuel rest
      | _, _ => c :: plainText fuel rest

/-- A text without control sequences. -/
def written (text : Text) : Text :=
  Text.ofList (plainText (text.length + 1) text.toList)

/-- A line without control sequences. -/
def lineText (text : Text) : Text :=
  written text ++ "\n"

/-- A text as the output for errors shows it. -/
def shown (text : Text) : String :=
  String.ofList <| text.toList.flatMap fun
    | .char c => [c]
    | code => ("\\u" ++ Text.hexDigits 4 code.toNat).toList

/-- End a run by a failure. -/
def fail (report : Report) (failure : Failure) : Report :=
  { report with exitCode := 1, failure := some failure }

/-- Add characters to the output. -/
def append (report : Report) (characters : String) : Report :=
  { report with output := report.output ++ characters }

/-- Write a text to the output. -/
def write (report : Report) (text : Text) : Report :=
  match text.string? with
  | some characters => report.append characters
  | none => report.fail .unencodable

/-- Write a line to the output. -/
def print (report : Report) (text : Text) : Report :=
  report.write (lineText text)

/-- Write a text to the output for errors. -/
def warn (report : Report) (text : Text) : Report :=
  { report with errors := report.errors ++ shown text }

/-- Write a line to the output for errors. -/
def complain (report : Report) (text : Text) : Report :=
  report.warn (lineText text)

/-- End a run with an exit code, unless a failure has ended it. -/
def exit (report : Report) (code : Nat) : Report :=
  if report.failure.isSome then report else { report with exitCode := code }

end Report
end KindExpr
