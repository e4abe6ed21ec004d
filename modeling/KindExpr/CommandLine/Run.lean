import KindExpr.Cache.Basic
import KindExpr.CommandLine.Arguments
import KindExpr.CommandLine.Report
import KindExpr.Json.Reader
import KindExpr.Yaml.Printer

/-!
# Running the program

`CommandLine.run` reports what the program does with some arguments
in a directory with some files.
-/

namespace KindExpr
namespace CommandLine

/-- The exit code after a value or an expression was rejected. -/
def rejectedCode : Nat := 1

/-- The exit code after something could not be understood. -/
def misuseCode : Nat := 2

/-- The report of a fault in the arguments. -/
def misuse (command : Option Command) (fault : UsageFault) : Report :=
  (Report.start.warn (Report.written (fault.text command))).exit misuseCode

/-- Print the alternatives of an expression. -/
def runParse (expression : Text) (placeholders : List Text) : Report :=
  match parse expression (placeholders.map Value.text) with
  | .error error => (Report.start.complain error.message).exit rejectedCode
  | .ok parsed =>
      Report.start.print
        (Yaml.print (.list (parsed.alternatives.map Alternative.outline)))

/-- Check the value that a JSON text writes. -/
def runCheck (expression value : Text) (placeholders : List Text)
    (name : Text) : Report :=
  match Json.read value.toList with
  | .error (.tooManyDigits count) => Report.start.fail (.json (.tooManyDigits count))
  | .error fault =>
      (Report.start.complain
        ("Invalid JSON value: " ++ fault.message value.toList)).exit misuseCode
  | .ok data =>
      let cache := CheckCache.empty .standard none
      match (cache.getText expression (placeholders.map Value.text)).1 with
      | .error error =>
          if error.isOfExpression then
            (Report.start.complain error.message).exit misuseCode
          else Report.start.fail (.error error)
      | .ok compiled =>
          match compiled.check.apply data name with
          | .error fault => Report.start.fail (.error (.run fault))
          | .ok (some message) => (Report.start.print message).exit rejectedCode
          | .ok none => Report.start.print "OK"

/-- List the type names with their kinds. -/
def runAliases : Report :=
  let table := AliasTable.standard.sorted
  table.foldl
    (fun report entry =>
      report.print ("  " ++ Usage.padded (Usage.widest table) entry.1 ++ "  " ++ entry.2))
    Report.start

/-- Register an entry, with a line for it. Whether it failed is told,
unless the run ends with it. -/
def registerEntry (cache : CheckCache) (entry : PreloadEntry) (report : Report) :
    CheckCache × Bool × Report :=
  match cache.register (.text entry.expression) (entry.placeholders.map Value.text) with
  | (.ok _, after) => (after, false, report.print ("  ✓ " ++ entry.expression))
  | (.error error, after) =>
      if error.isOfExpression then
        (after, true, report.print ("  ✗ " ++ entry.expression ++ ": " ++ error.message))
      else (after, false, report.fail (.error error))

/-- Register entries one after the other, with a line for each. The number of those
that failed is told, unless the run ended before. -/
def registerEach : List PreloadEntry → CheckCache → Nat → Report → Report × Nat
  | [], _, failures, report => (report, failures)
  | entry :: rest, cache, failures, report =>
      match registerEntry cache entry report with
      | (after, failed, report) =>
          if report.failure.isSome then (report, failures)
          else registerEach rest after (failures + failed.toNat) report

/-- Compile the expressions of a file. -/
def runPreload (files : Files) (path : Text) : Report :=
  match PreloadEntry.ofFile files path with
  | .error fault =>
      if fault.isReadFault then
        (Report.start.complain
          ("Cannot read " ++ FilePath.normalize path ++ ": " ++ fault.message)).exit
            rejectedCode
      else Report.start.fail (.error (.preload fault))
  | .ok entries =>
      let (report, failures) :=
        registerEach entries (.empty .standard none) 0 Report.start
      if report.failure.isSome then report
      else if failures > 0 then
        (report.print
          ("\n" ++ toString failures ++ " expression(s) failed to compile")).exit
          rejectedCode
      else report.print ("\n" ++ toString entries.length ++ " expression(s) compiled.")

/-- Check that a path leads to a file. -/
def checkPath (files : Files) (path : Text) : Except UsageFault Unit :=
  match files.status path with
  | .file _ => .ok ()
  | .directory => .error (.directoryFile "PATH" path)
  | _ => .error (.missingFile "PATH" path)

/-- The path that the arguments of a command name, if it takes one. -/
def path? (command : Command) (arguments : Arguments) : Option Text :=
  if command = .preload then arguments.others.head? else none

/-- Check the arguments of a command. -/
def checkArguments (files : Files) (command : Command) (arguments : Arguments) :
    Except UsageFault Unit := do
  if let some name := arguments.missing? command then throw (.missingArgument name)
  if let some path := path? command arguments then checkPath files path
  if command.remaining.isNone && !(arguments.further command).isEmpty then
    throw (.unexpected (arguments.further command))

/-- Run a command whose arguments are in order. -/
def runChecked (files : Files) (command : Command) (arguments : Arguments) : Report :=
  let argument (index : Nat) : Text := (arguments.others[index]?).getD ""
  match command with
  | .aliases => runAliases
  | .check =>
      runCheck (argument 0) (argument 1) (arguments.further command)
        (arguments.value Command.nameOption)
  | .parse => runParse (argument 0) (arguments.further command)
  | .preload => runPreload files (argument 0)

/-- Run a command. A path that cannot be looked for at all ends the run. -/
def runCommand (files : Files) (command : Command) (arguments : Arguments) : Report :=
  match (path? command arguments).bind Files.pathFault? with
  | some fault => Report.start.fail (.error (.preload (.file fault)))
  | none =>
      match checkArguments files command arguments with
      | .error fault => misuse (some command) fault
      | .ok () => runChecked files command arguments

/-- The report of a page of help that was asked for. -/
def help (command : Option Command) : Report :=
  Report.start.write (Usage.page command)

/-- The report for a name that is no command. A name that looks
like an option is read as one. -/
def unknownCommand (name : Text) (rest : List Text) : Report :=
  let fault := UsageFault.noSuchCommand name
    (Suggestion.suggestions name (Command.all.map Command.name))
  if name.toList.head? = some '-' then
    match Arguments.ofProgram (name :: rest) with
    | .error fault => misuse none fault
    | .ok arguments => if arguments.help then help none else misuse none fault
  else misuse none fault

/-- What the program does with some arguments. Without any it shows
the page of help as a misuse. -/
def run (files : Files) (arguments : List Text) : Report :=
  if arguments.isEmpty then
    (Report.start.warn (Usage.page none)).exit misuseCode
  else
    match Arguments.ofProgram arguments with
    | .error fault => misuse none fault
    | .ok found =>
        if found.help then help none
        else
          match found.others with
          | [] => misuse none .missingCommand
          | name :: rest =>
              match Command.ofName? name with
              | none => unknownCommand name rest
              | some command =>
                  match Arguments.ofCommand command rest with
                  | .error fault => misuse (some command) fault
                  | .ok given =>
                      if given.help then help (some command)
                      else runCommand files command given

/-- The paths of the files that some arguments name. -/
def paths (arguments : List Text) : List Text :=
  match Arguments.ofProgram arguments with
  | .error _ => []
  | .ok found =>
      match found.others with
      | name :: rest =>
          match Command.ofName? name, Arguments.ofCommand .preload rest with
          | some .preload, .ok given => given.others
          | _, _ => []
      | [] => []

end CommandLine
end KindExpr
