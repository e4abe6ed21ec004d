import KindExpr.Settings.Files
import KindExpr.Yaml.Evaluation

/-!
# Lists of expressions in files

A file can list expressions that are to be compiled: a YAML list of texts, or of
mappings with an expression and the texts of its placeholders.
-/

namespace KindExpr

/-- An expression of a list, with the texts for its placeholders. -/
structure PreloadEntry where
  expression : Text
  placeholders : List Text
  deriving Repr, DecidableEq

/-- Why a document is no list of expressions. -/
inductive ShapeFault where
  | notList
  /-- The item at an index has no expression. -/
  | noExpression (index : Nat)
  /-- The placeholders of the item at an index are no texts. -/
  | badPlaceholders (index : Nat)
  deriving Repr, DecidableEq

/-- The message of a fault. -/
def ShapeFault.message : ShapeFault → Text
  | notList => "expected a list of type expressions"
  | noExpression index =>
      "item " ++ toString index ++ " must be a string or have an 'expression' string"
  | badPlaceholders index =>
      "item " ++ toString index ++ " placeholders must be a list of strings"

/-- Why a file gives no list of expressions. -/
inductive PreloadFault where
  | file (fault : FileFault)
  /-- The text of the file with this path is no YAML document. -/
  | yaml (path : Text) (fault : Yaml.Fault)
  /-- The document of the file with this path has another shape. -/
  | shape (path : Text) (fault : ShapeFault)
  deriving Repr, DecidableEq

/-- The message of a fault. -/
def PreloadFault.message : PreloadFault → Text
  | file fault => fault.message
  | yaml path fault => fault.message path
  | shape path fault => path ++ ": " ++ fault.message

namespace PreloadEntry

/-- The texts of a list of data, if all of them are texts. -/
def texts? (items : List Yaml.Datum) : Option (List Text) :=
  items.mapM Yaml.Datum.text?

/-- The texts that stand for the placeholders of an item. What
counts as false stands for none. -/
def placeholders? (given : Option Yaml.Datum) : Option (List Text) :=
  match given with
  | none => some []
  | some (.list items) => texts? items
  | some other => if other.truth then none else some []

/-- The entry that an item of a list is. -/
def ofItem (index : Nat) (item : Yaml.Datum) : Except ShapeFault PreloadEntry :=
  match item with
  | .text expression => .ok ⟨expression, []⟩
  | .mapping entries =>
      match (Yaml.Datum.find? entries "expression").bind Yaml.Datum.text? with
      | none => .error (.noExpression index)
      | some expression =>
          match placeholders? (Yaml.Datum.find? entries "placeholders") with
          | none => .error (.badPlaceholders index)
          | some placeholders => .ok ⟨expression, placeholders⟩
  | _ => .error (.noExpression index)

/-- The entries of a list from an index on. -/
def ofItems (index : Nat) : List Yaml.Datum → Except ShapeFault (List PreloadEntry)
  | [] => .ok []
  | item :: rest => do
      let entry ← ofItem index item
      return entry :: (← ofItems (index + 1) rest)

/-- The entries of a document. An empty document has none. -/
def ofDatum (datum : Yaml.Datum) : Except ShapeFault (List PreloadEntry) :=
  match datum with
  | .null => .ok []
  | .list items => ofItems 0 items
  | _ => .error .notList

/-- How deep a document is read: a list of mappings whose values may be lists of texts. -/
def depth : Nat := 4

/-- The entries of the file that a path leads to. -/
def ofFile (files : Files) (path : Text) : Except PreloadFault (List PreloadEntry) := do
  let text ← (files.read path).mapError .file
  let name := FilePath.normalize path
  let datum ← (Yaml.Datum.ofText? text depth).mapError (.yaml name)
  (ofDatum datum).mapError (.shape name)

end PreloadEntry
end KindExpr
