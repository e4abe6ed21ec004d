import KindExpr.Yaml.Token.Stream

/-!
# Nodes of YAML

A document is made of scalars, sequences and mappings, each with a tag that says
what it stands for. Nodes are told apart by their numbers, and a collection names
its nodes by them. So an alias is the node that it names, which may stand in
several places, also within itself.

A tag that is not given depends on the form of the node, and
for a plain scalar on its text.
-/

namespace KindExpr
namespace Yaml

/-- What a node stands for. -/
inductive Tag where
  | null
  | boolean
  | integer
  | float
  | text
  | bytes
  | timestamp
  | sequence
  | mapping
  | set
  | orderedMap
  | pairs
  /-- The key that merges another mapping. -/
  | merge
  /-- The key of the plain value of a mapping. -/
  | plainValue
  | other (name : Text)
  deriving Repr, DecidableEq

/-- The common start of the names of the tags that have a meaning. -/
def Tag.domain : Text := "tag:yaml.org,2002:"

/-- The tags that have a meaning, with the ends of their names. -/
def Tag.known : List (Tag × Text) :=
  [(null, "null"), (boolean, "bool"), (integer, "int"), (float, "float"), (text, "str"),
    (bytes, "binary"), (timestamp, "timestamp"), (sequence, "seq"), (mapping, "map"),
    (set, "set"), (orderedMap, "omap"), (pairs, "pairs"), (merge, "merge"),
    (plainValue, "value")]

/-- The name of a tag. -/
def Tag.name (tag : Tag) : Text :=
  match tag with
  | other name => name
  | _ => domain ++ ((known.lookup tag).getD "")

/-- The tag of a name. -/
def Tag.ofName (name : Text) : Tag :=
  match known.find? fun entry => domain ++ entry.2 = name with
  | some (tag, _) => tag
  | none => other name

/-- The forms of a node. -/
inductive NodeForm where
  | scalar
  | sequence
  | mapping
  deriving Repr, DecidableEq

/-- The name of a form in messages. -/
def NodeForm.display : NodeForm → Text
  | scalar => "scalar"
  | sequence => "sequence"
  | mapping => "mapping"

/-- The number of a node in its document. -/
abbrev NodeIndex := Nat

/-- What a node holds. -/
inductive NodeContent where
  | scalar (text : Text)
  | sequence (items : List NodeIndex)
  | mapping (entries : List (NodeIndex × NodeIndex))
  deriving Repr, DecidableEq

/-- A node of a document, with the place where it starts. -/
structure Node where
  tag : Tag
  content : NodeContent
  start : Mark
  deriving Repr, DecidableEq

namespace Node

instance : Inhabited Node := ⟨⟨.null, .scalar "", ⟨0, 0⟩⟩⟩

/-- The form of a node. -/
def form (node : Node) : NodeForm :=
  match node.content with
  | .scalar _ => .scalar
  | .sequence _ => .sequence
  | .mapping _ => .mapping

/-- The items of a sequence. -/
def items (node : Node) : List NodeIndex :=
  match node.content with
  | .sequence items => items
  | _ => []

/-- The entries of a mapping. -/
def entries (node : Node) : List (NodeIndex × NodeIndex) :=
  match node.content with
  | .mapping entries => entries
  | _ => []

end Node

/-- A document: its nodes by their numbers, and the number of the outermost one. -/
structure Document where
  nodes : Array Node
  root : NodeIndex
  deriving Repr

end Yaml
end KindExpr
