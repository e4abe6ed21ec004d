import KindExpr.Yaml.Datum
import KindExpr.Yaml.Node.Reader

/-!
# The evaluation of a YAML document

Evaluating a document finds the first fault of its nodes, and what they stand for. It
goes level by level: a scalar is evaluated where it is met, and a collection after
everything that was met on its level. A node that stands in several places is
evaluated where it is met first.

A mapping that merges others is changed by this: the entries of the others come in
front of its own, and a key for the plain value becomes a text. Whoever looks at the
mapping later sees it changed.
-/

namespace KindExpr
namespace Yaml

/-- The state of an evaluation. -/
structure Evaluation where
  /-- The nodes by their numbers, with the mappings that were changed so far. -/
  nodes : Array Node
  /-- What the scalars stand for that were met. -/
  scalars : Array (Option Datum)
  /-- Whether a collection was met. -/
  met : Array Bool
  /-- The collections that were met on this level, the latest first. -/
  pending : List NodeIndex

/-- A step of an evaluation that gives a result. -/
abbrev Evaluating := StateT Evaluation (Except Fault)

namespace Evaluation

/-- The evaluation of a document before its first step. -/
def start (document : Document) : Evaluation where
  nodes := document.nodes
  scalars := Array.replicate document.nodes.size none
  met := Array.replicate document.nodes.size false
  pending := []

/-- A node by its number. -/
def node (evaluation : Evaluation) (index : NodeIndex) : Node :=
  evaluation.nodes[index]?.getD default

/-- Change a node. -/
def update (evaluation : Evaluation) (index : NodeIndex) (change : Node → Node) :
    Evaluation :=
  { evaluation with nodes := evaluation.nodes.modify index change }

/-- Change the entries of a mapping. -/
def setEntries (evaluation : Evaluation) (index : NodeIndex)
    (entries : List (NodeIndex × NodeIndex)) : Evaluation :=
  evaluation.update index fun node => { node with content := .mapping entries }

end Evaluation

namespace Evaluating

/-- A node by its number. -/
def node (index : NodeIndex) : Evaluating Node :=
  return (← get).node index

/-- The form of a node. -/
def form (index : NodeIndex) : Evaluating NodeForm :=
  return (← node index).form

/-- Find a problem at a node. -/
def fail (context : Option (Context × Option Mark)) (problem : Problem)
    (index : NodeIndex) :
    Evaluating α := do
  throw (.at context problem (← node index).start)

/-! ## Scalars -/

/-- The text of a node that stands for a scalar. A mapping does so by the value
under the key for its plain value. -/
def scalarText : Nat → NodeIndex → Evaluating Text
  | 0, _ => throw (.value .endless)
  | fuel + 1, index => do
      match (← node index).content with
      | .scalar text => return text
      | .sequence _ => fail none (.wrongNode "scalar" "sequence") index
      | .mapping entries =>
          match ← entries.findM? fun entry =>
            return (← node entry.1).tag = .plainValue with
          | some (_, value) => scalarText fuel value
          | none => fail none (.wrongNode "scalar" "mapping") index

/-- What a node stands for whose tag is not that of a collection. A tag without a
meaning is found before the node is looked at. -/
def scalarValue (index : NodeIndex) : Evaluating Datum := do
  let found ← node index
  match found.tag with
  | .merge => scalarDatum found.tag "" found.start
  | .plainValue => scalarDatum found.tag "" found.start
  | .other _ => scalarDatum found.tag "" found.start
  | .timestamp => do
      let text ← scalarText ((← get).nodes.size + 1) index
      if found.form = .mapping then throw (.value .timestampOfMapping)
      scalarDatum found.tag text found.start
  | _ => do
      let text ← scalarText ((← get).nodes.size + 1) index
      scalarDatum found.tag text found.start

/-- Evaluate a node where it is met. -/
def meet (index : NodeIndex) : Evaluating Unit := do
  let evaluation ← get
  if (evaluation.node index).tag.isCollection then
    unless evaluation.met[index]?.getD true do
      set { evaluation with
        met := evaluation.met.setIfInBounds index true
        pending := index :: evaluation.pending }
  else
    if (evaluation.scalars[index]?.getD none).isNone then
      let value ← scalarValue index
      modify fun evaluation =>
        { evaluation with scalars := evaluation.scalars.setIfInBounds index (some value) }

/-! ## Merged mappings -/

/-- The entries that a node gives to a mapping that it is merged into, once
the mappings that it names are flattened. A list of mappings gives the
entries of the last one first. -/
def mergedFrom (flattenOther : NodeIndex → Evaluating Unit) (index value : NodeIndex) :
    Evaluating (List (NodeIndex × NodeIndex)) := do
  let context := some (Context.mapping, some (← node index).start)
  match (← node value).content with
  | .scalar _ => fail context (.noMerge "scalar") value
  | .mapping _ =>
      flattenOther value
      return (← node value).entries
  | .sequence items => do
      let groups ← items.mapM fun item => do
        let form ← form item
        unless form = .mapping do fail context (.noMergeItem form.display) item
        flattenOther item
        return (← node item).entries
      return groups.reverse.flatten

/-- Go through the entries of a mapping from a position on, at most so many. Those that
merge other mappings are taken out, and what they merge is the result; a key for the
plain value becomes a text. -/
def takeMerged (flattenOther : NodeIndex → Evaluating Unit) (index : NodeIndex) :
    Nat → Nat → Evaluating (List (NodeIndex × NodeIndex))
  | 0, _ => return []
  | count + 1, position => do
      let found ← node index
      match found.entries[position]? with
      | none => return []
      | some (key, value) =>
          match (← node key).tag with
          | .merge =>
              modify fun evaluation => evaluation.setEntries index
                (found.entries.eraseIdx position)
              let merged ← mergedFrom flattenOther index value
              return merged ++ (← takeMerged flattenOther index count position)
          | .plainValue =>
              modify fun evaluation => evaluation.update key fun node =>
                { node with tag := .text }
              takeMerged flattenOther index count (position + 1)
          | _ => takeMerged flattenOther index count (position + 1)

/-- Put the entries of the mappings that a mapping merges in front of its own. Each
mapping that is flattened for this has one entry less to merge, so there are never more
within each other than entries in the document. -/
def flatten : Nat → NodeIndex → Evaluating Unit
  | 0, _ => return ()
  | fuel + 1, index => do
      let merged ← takeMerged (flatten fuel) index (← node index).entries.length 0
      unless merged.isEmpty do
        modify fun evaluation =>
          evaluation.setEntries index (merged ++ (evaluation.node index).entries)

/-! ## Collections -/

/-- Evaluate what stands directly in a sequence. -/
def meetItems (index : NodeIndex) : Evaluating Unit := do
  let found ← node index
  unless found.form = .sequence do
    fail none (.wrongNode "sequence" found.form.display) index
  found.items.forM meet

/-- Evaluate what stands directly in an ordered list of pairs,
each a mapping of one entry. -/
def meetPairs (context : Context) (index : NodeIndex) : Evaluating Unit := do
  let found ← node index
  let place := some (context, some found.start)
  unless found.form = .sequence do fail place (.noSequence found.form.display) index
  found.items.forM fun item => do
    let inner ← node item
    unless inner.form = .mapping do fail place (.noPair inner.form.display) item
    match inner.entries with
    | [(key, value)] =>
        meet key
        meet value
    | entries => fail place (.wrongPairSize entries.length) item

/-- Evaluate what stands directly in a mapping. No key is a collection. -/
def meetEntries (fuel : Nat) (index : NodeIndex) : Evaluating Unit := do
  let found ← node index
  unless found.form = .mapping do
    fail none (.wrongNode "mapping" found.form.display) index
  flatten fuel index
  (← node index).entries.forM fun (key, value) => do
    meet key
    if (← node key).tag.isCollection then
      fail (some (.mapping, some found.start)) .unhashableKey key
    meet value

/-- Evaluate what stands directly in a collection. -/
def meetContent (fuel : Nat) (index : NodeIndex) : Evaluating Unit := do
  match (← node index).tag with
  | .sequence => meetItems index
  | .orderedMap => meetPairs .orderedMap index
  | .pairs => meetPairs .pairs index
  | _ => meetEntries fuel index

/-- Evaluate the collections that were met, level by level. Each level has a collection
that was not met before. -/
def levels (mergeBound : Nat) : Nat → Evaluating Unit
  | 0 => return ()
  | fuel + 1 => do
      let level := (← get).pending.reverse
      unless level.isEmpty do
        modify fun evaluation => { evaluation with pending := [] }
        level.forM (meetContent mergeBound)
        levels mergeBound fuel

/-- Evaluate a whole document. -/
def document (document : Document) : Evaluating Unit := do
  let entryCount := document.nodes.foldl (fun total node => total + node.entries.length) 0
  meet document.root
  levels (entryCount + 1) (document.nodes.size + 1)

end Evaluating

namespace Evaluation

/-- What all nodes stand for, read down to a depth. The data of a depth is made of the
data of the depth before, so that a node that stands in several places is read once. -/
def data (evaluation : Evaluation) : Nat → Array Datum
  | 0 => evaluation.scalars.map fun value => value.getD .unread
  | depth + 1 =>
      let inner := evaluation.data depth
      let read (index : NodeIndex) : Datum := inner[index]?.getD .unread
      let pair (item : NodeIndex) : Datum :=
        .list ((evaluation.node item).entries.flatMap fun entry =>
          [read entry.1, read entry.2])
      (Array.range evaluation.nodes.size).map fun index =>
        let node := evaluation.node index
        match node.tag with
        | .sequence => .list (node.items.map read)
        | .orderedMap => .list (node.items.map pair)
        | .pairs => .list (node.items.map pair)
        | .mapping =>
            .mapping (node.entries.map fun entry => (read entry.1, read entry.2))
        | .set => .set (node.entries.map fun entry => read entry.1)
        | _ => read index

end Evaluation

/-- The data of a document, read down to a depth. -/
def Document.datum (document : Document) (depth : Nat) : Except Fault Datum := do
  let (_, evaluation) ← (Evaluating.document document).run (.start document)
  return (evaluation.data depth)[document.root]?.getD .unread

/-- The data of a text, read down to a depth. A text without a document is null. -/
def Datum.ofText? (text : Text) (depth : Nat) : Except Fault Datum := do
  match ← Document.ofText? text with
  | none => return .null
  | some document => document.datum depth

end Yaml
end KindExpr
