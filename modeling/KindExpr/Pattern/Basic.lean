import KindExpr.Pattern.Match
import KindExpr.Pattern.Reader

/-!
# Compiled patterns

A compiled pattern keeps the text it was compiled from, the flags in force, those the
pattern sets for itself included, and the program that matches it.
-/

namespace KindExpr

/-- A pattern for text. -/
structure Pattern where
  source : Text
  flags : Pattern.Flags
  program : Pattern.Program
  /-- The number of groups. -/
  groups : Nat
  /-- The length of the shortest match. -/
  shortest : Nat
  /-- How many of the last places, counted back from the end of the text, are too late
  for a match to start. -/
  reserved : Nat
  deriving Repr, DecidableEq

/-- A pattern for bytes. It is shown and compared, but never matched. -/
structure BytePattern where
  source : List UInt8
  flags : Pattern.Flags
  deriving Repr, DecidableEq

namespace Pattern

/-- How many of the last places are too late for a match to start. One place more than
the length of a match allows is tried, unless the first character is looked up before
matching starts; several literal characters are looked up at all places. -/
def reservedPlaces (tree : Node) (flags : Flags) : Nat :=
  match tree.width.low, (Program.literalStart flags tree).1 with
  | 0, _ => 0
  | _, _ + 2 => 0
  | shortest + 1, 1 => shortest + 1
  | shortest + 1, 0 => if Program.startsInSet flags tree then shortest + 1 else shortest

/-- Compile the text of a pattern. -/
def compile (source : Text) (flags : Flags) : Except Failure Pattern :=
  match read true source.toList flags with
  | .ok reading =>
      .ok
        { source := source
          flags := reading.flags
          program := .ofNode reading.flags reading.tree .finish
          groups := reading.groups
          shortest := reading.tree.width.low
          reserved := reservedPlaces reading.tree reading.flags }
  | .error failure => .error failure

/-- Why the outcome of a search cannot be told. -/
inductive SearchFault where
  /-- A group of the match ends before it starts. -/
  | reversedGroup
  deriving Repr, DecidableEq

/-- The message of a fault. -/
def SearchFault.message : SearchFault → Text
  | reversedGroup =>
      "The span of capturing group is wrong, please report a bug for the re module."

/-- Whether a pattern matches somewhere in a text. -/
def search (pattern : Pattern) (text : Text) : Except SearchFault Bool :=
  let subject := text.toList.toArray
  if subject.size < pattern.shortest then .ok false
  else
    let tries := subject.size + 1 - pattern.reserved
    match pattern.program.matchFrom? pattern.groups subject tries 0 with
    | none => .ok false
    | some found =>
        if found.isSound pattern.groups then .ok true else .error .reversedGroup

/-- The quoted source of a pattern is shown up to this many characters. -/
def shownLength : Nat := 200

/-- A pattern as it is shown, from its quoted source and its flags. -/
def shown (quoted : Text) (flags : Flags) : Text :=
  let cut := Text.ofList (quoted.toList.take shownLength)
  match flags.names with
  | [] => "re.compile(" ++ cut ++ ")"
  | names => "re.compile(" ++ cut ++ ", " ++ "|".intercalate names ++ ")"

/-- A pattern as it is shown. The usual classification of
characters goes without saying. -/
def display (pattern : Pattern) : Text :=
  let usual := pattern.flags.inter .classification = { Flags.none with unicode := true }
  let flags := if usual then { pattern.flags with unicode := false } else pattern.flags
  shown (Text.quote pattern.source) flags

end Pattern

namespace BytePattern

/-- Compile the bytes of a pattern. -/
def compile (source : List UInt8) (flags : Pattern.Flags) :
    Except Pattern.Failure BytePattern :=
  match Pattern.read false (source.map fun byte => Code.ofNat byte.toNat) flags with
  | .ok reading => .ok ⟨source, reading.flags⟩
  | .error failure => .error failure

/-- A byte pattern as it is shown. -/
def display (pattern : BytePattern) : Text :=
  Pattern.shown (Text.quoteBytes pattern.source) pattern.flags

end BytePattern
end KindExpr
