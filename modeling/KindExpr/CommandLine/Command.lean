import KindExpr.Text.Basic

/-!
# The commands of the command line

Each command has arguments, and options with a value; one argument may take all
that is left. Pages of help list them.
-/

namespace KindExpr

/-- A command. -/
inductive Command where
  | aliases
  | check
  | parse
  | preload
  deriving Repr, DecidableEq

/-- An option that takes a value. -/
structure ValueOption where
  flag : Text
  standard : Text
  description : Text
  deriving Repr, DecidableEq

namespace Command

/-- All commands in the order in which they are listed. -/
def all : List Command := [aliases, check, parse, preload]

/-- The name of a command. -/
def name : Command → Text
  | aliases => "aliases"
  | check => "check"
  | parse => "parse"
  | preload => "preload"

/-- The command of a name. -/
def ofName? (name : Text) : Option Command :=
  all.find? fun command => command.name = name

/-- What a command does. -/
def description : Command → Text
  | aliases => "List type names and the kinds they resolve to."
  | check => "Check a JSON VALUE against EXPRESSION."
  | parse => "Print the parsed alternatives of EXPRESSION as YAML."
  | preload => "Compile every expression listed in a preload YAML file."

/-- The arguments that must be given. -/
def required : Command → List Text
  | aliases => []
  | check => ["EXPRESSION", "VALUE"]
  | parse => ["EXPRESSION"]
  | preload => ["PATH"]

/-- The argument that takes all that is left, if there is one. -/
def remaining : Command → Option Text
  | check => some "PLACEHOLDERS"
  | parse => some "PLACEHOLDERS"
  | _ => none

/-- The option for the name of the checked value. -/
def nameOption : ValueOption := ⟨"--name", "value", "Name used in error paths."⟩

/-- The options with a value. -/
def options : Command → List ValueOption
  | check => [nameOption]
  | _ => []

end Command

namespace Usage

/-- The name of the program. -/
def program : Text := "cli"

/-- The option for a page of help. -/
def helpFlag : Text := "--help"

/-- What the program is called with, with or without a command. -/
def path : Option Command → Text
  | none => program
  | some command => program ++ " " ++ command.name

/-- How the program or a command is called. -/
def line (command : Option Command) : Text :=
  let parts : List Text :=
    match command with
    | none => ["COMMAND", "[ARGS]..."]
    | some command =>
        command.required ++
          (command.remaining.toList.map fun name => ("[" ++ name ++ "]..." : Text))
  "Usage: " ++ Text.intercalate " " (path command :: "[OPTIONS]" :: parts) ++ "\n"

/-- Fill a text up with spaces. -/
def padded (wide : Nat) (text : Text) : Text :=
  text ++ Text.ofList (List.replicate (wide - text.length) (.char ' '))

/-- The length of the longest term. -/
def widest (entries : List (Text × Text)) : Nat :=
  entries.foldl (fun wide entry => max wide entry.1.length) 0

/-- Terms with their descriptions in two columns. -/
def columns (entries : List (Text × Text)) : Text :=
  Text.join (entries.map fun entry =>
    "  " ++ padded (widest entries) entry.1 ++ "  " ++ entry.2 ++ "\n")

/-- What the program or a command is for. -/
def purpose : Option Command → Text
  | none => "typexpr — type expression parser and checker."
  | some command => command.description

/-- The options of the program or a command. -/
def optionEntries (command : Option Command) : List (Text × Text) :=
  let own : List (Text × Text) :=
    match command with
    | none => []
    | some command =>
        command.options.map fun option =>
          (option.flag ++ " TEXT", option.description ++ "  [default: " ++
            option.standard ++ "]")
  own ++ [(helpFlag, ("Show this message and exit." : Text))]

/-- The page of help for the program or a command. -/
def page (command : Option Command) : Text :=
  let commands :=
    match command with
    | none =>
        "\nCommands:\n" ++
          columns (Command.all.map fun command => (command.name, command.description))
    | some _ => ""
  line command ++ "\n  " ++ purpose command ++ "\n\nOptions:\n" ++
    columns (optionEntries command) ++ commands

end Usage
end KindExpr
