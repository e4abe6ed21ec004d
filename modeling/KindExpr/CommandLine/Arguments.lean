import KindExpr.CommandLine.Command
import KindExpr.CommandLine.Suggestion
import KindExpr.Text.Quoted

/-!
# Arguments of the command line

Arguments are split into options and the others. An option starts with a dash. A
double dash alone ends the options, and everything behind it is taken as it is.
-/

namespace KindExpr

/-- What is wrong with the arguments. -/
inductive UsageFault where
  | noSuchOption (flag : Text) (alike : List Text)
  | needsValue (flag : Text)
  | takesNoValue (flag : Text)
  | missingCommand
  | noSuchCommand (name : Text) (alike : List Text)
  | missingArgument (name : Text)
  | unexpected (arguments : List Text)
  | missingFile (argument path : Text)
  | directoryFile (argument path : Text)
  deriving Repr, DecidableEq

namespace UsageFault

/-- A question for the words that may be meant. -/
def suggestion (alike : List Text) : Text :=
  let sorted := alike.mergeSort fun left right => left ≤ right
  match sorted with
  | [] => ""
  | [word] => " Did you mean " ++ Text.quote word ++ "?"
  | words =>
      " (Did you mean one of: " ++ Text.intercalate ", " (words.map Text.quote) ++ "?)"

/-- The message of a fault. -/
def message : UsageFault → Text
  | noSuchOption flag alike =>
      "No such option " ++ Text.quote flag ++ "." ++ suggestion alike
  | needsValue flag => "Option " ++ Text.quote flag ++ " requires an argument."
  | takesNoValue flag => "Option " ++ Text.quote flag ++ " does not take a value."
  | missingCommand => "Missing command."
  | noSuchCommand name alike =>
      "No such command " ++ Text.quote name ++ "." ++ suggestion alike
  | missingArgument name => "Missing argument '" ++ name ++ "'."
  | unexpected arguments =>
      let noun := if arguments.length = 1 then "argument" else "arguments"
      "Got unexpected extra " ++ noun ++ " (" ++ Text.intercalate " " arguments ++ ")"
  | missingFile argument path =>
      "Invalid value for '" ++ argument ++ "': File " ++ Text.quote path ++
        " does not exist."
  | directoryFile argument path =>
      "Invalid value for '" ++ argument ++ "': File " ++ Text.quote path ++
        " is a directory."

/-- Whether the usage is shown with a fault. -/
def showsUsage : UsageFault → Bool
  | needsValue _ => false
  | takesNoValue _ => false
  | _ => true

/-- What is written for a fault in the arguments of the program or a command. -/
def text (fault : UsageFault) (command : Option Command) : Text :=
  let usage :=
    if fault.showsUsage then
      Usage.line command ++ "Try '" ++ Usage.path command ++ " " ++ Usage.helpFlag ++
        "' for help.\n\n"
    else ""
  usage ++ "Error: " ++ fault.message ++ "\n"

end UsageFault

/-- Arguments after options were taken out. -/
structure Arguments where
  /-- Whether help was asked for. -/
  help : Bool
  /-- The values of options in the order they were given. -/
  values : List (Text × Text)
  others : List Text
  deriving Repr

namespace Arguments

/-- No arguments. -/
def none : Arguments := ⟨false, [], []⟩

/-- Split a text at its first equals sign. -/
def splitValue (argument : Text) : Text × Option Text :=
  let chars := argument.toList
  let flag := chars.takeWhile fun (c : Code) => c ≠ '='
  match chars.drop flag.length with
  | [] => (argument, Option.none)
  | _ :: value => (Text.ofList flag, some (Text.ofList value))

/-- The fault of an option that is not known. An option of a single dash is known
by its first letter. -/
def unknownOption (flags : List Text) (argument flag : Text) : UsageFault :=
  match argument.toList with
  | .char '-' :: .char '-' :: _ => .noSuchOption flag (Suggestion.suggestions flag flags)
  | .char '-' :: letter :: _ => .noSuchOption (Text.ofList ['-', letter]) []
  | _ => .noSuchOption flag []

/-- Whether an argument is an option. -/
def isOption (argument : Text) : Bool :=
  match argument.toList with
  | .char '-' :: _ :: _ => true
  | _ => false

/-- Note the value of an option. -/
def give (found : Arguments) (flag value : Text) : Arguments :=
  { found with values := found.values ++ [(flag, value)] }

/-- Take the options out of the arguments. One option may wait for its value, which
is the next argument whatever it looks like. Options after the first other argument
count only if they may be mixed with the others. -/
def split (flags : List Text) (mixed : Bool) :
    Option Text → List Text → Arguments → Except UsageFault Arguments
  | Option.none, [], found => .ok found
  | some flag, [], _ => .error (.needsValue flag)
  | some flag, value :: rest, found =>
      split flags mixed Option.none rest (found.give flag value)
  | Option.none, argument :: rest, found =>
      if argument = "--" then .ok { found with others := found.others ++ rest }
      else if isOption argument then
        match splitValue argument with
        | (flag, value) =>
            if flag = Usage.helpFlag then
              if value.isSome then .error (.takesNoValue flag)
              else split flags mixed Option.none rest { found with help := true }
            else if flags.contains flag then
              match value with
              | some given => split flags mixed Option.none rest (found.give flag given)
              | Option.none => split flags mixed (some flag) rest found
            else .error (unknownOption (flags ++ [Usage.helpFlag]) argument flag)
      else if mixed then
        split flags mixed Option.none rest
          { found with others := found.others ++ [argument] }
      else .ok { found with others := found.others ++ argument :: rest }

/-- The arguments of the program, up to the command. -/
def ofProgram (arguments : List Text) : Except UsageFault Arguments :=
  split [] false Option.none arguments none

/-- The arguments of a command. -/
def ofCommand (command : Command) (arguments : List Text) : Except UsageFault Arguments :=
  split (command.options.map ValueOption.flag) true Option.none arguments none

/-- The value of an option: the last one that was given, or the standard one. -/
def value (arguments : Arguments) (option : ValueOption) : Text :=
  (arguments.values.reverse.lookup option.flag).getD option.standard

/-- The first required argument that is missing. -/
def missing? (arguments : Arguments) (command : Command) : Option Text :=
  (command.required.drop arguments.others.length).head?

/-- The arguments behind the required ones. -/
def further (arguments : Arguments) (command : Command) : List Text :=
  arguments.others.drop command.required.length

end Arguments
end KindExpr
