import KindExpr.CommandLine.Run

/-!
# The program

Reads the files that the arguments name, runs the program and writes its report.
-/

namespace KindExpr

/-- The text of a file under its path in normal form, if it can be read. -/
def readNamed (path : String) : IO (Option (Text × String)) := do
  try
    let text ← IO.FS.readFile path
    return some (FilePath.normalize path, text)
  catch _ => return none

/-- The line for the failure that ended a run. -/
def Failure.line : Failure → Text
  | .error cause => cause.message ++ "\n"
  | .json fault => fault.message [] ++ "\n"
  | .unencodable => "surrogates not allowed\n"

end KindExpr

open KindExpr in
/-- Run the program with some arguments. -/
def main (arguments : List String) : IO UInt32 := do
  let arguments := arguments.map Text.ofString
  let files ← ((CommandLine.paths arguments).filterMap Text.string?).filterMapM readNamed
  let report := CommandLine.run ⟨files⟩ arguments
  (← IO.getStdout).putStr report.output
  (← IO.getStderr).putStr 
    (report.errors ++ ((report.failure.map (Report.shown ∘ Failure.line)).getD ""))
  return report.exitCode.toUInt32
