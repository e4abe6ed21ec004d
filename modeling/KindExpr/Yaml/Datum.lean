import KindExpr.Yaml.Node
import KindExpr.Yaml.Node.Scalar

/-!
# The data of a YAML document

Plain data: what the nodes of a document stand for. Numbers are told apart only
by whether they are zero, and points in time not at all, because nothing that is
read from a document depends on more.
-/

namespace KindExpr
namespace Yaml

/-- A plain value. -/
inductive Datum where
  | null
  | boolean (value : Bool)
  | number (isZero : Bool)
  | text (value : Text)
  | bytes (size : Nat)
  | timestamp
  | list (items : List Datum)
  | mapping (entries : List (Datum × Datum))
  | set (items : List Datum)
  /-- A collection deeper down than the data is read. -/
  | unread
  deriving Repr

namespace Datum

instance : Inhabited Datum := ⟨.null⟩

/-- Whether a datum counts as true. -/
def truth : Datum → Bool
  | .null => false
  | .boolean value => value
  | .number isZero => !isZero
  | .text value => !value.isEmpty
  | .bytes size => size ≠ 0
  | .timestamp => true
  | .list items => !items.isEmpty
  | .mapping entries => !entries.isEmpty
  | .set items => !items.isEmpty
  | .unread => true

/-- The text of a datum. -/
def text? : Datum → Option Text
  | .text value => some value
  | _ => none

/-- The value of the last entry under a text key. -/
def find? (entries : List (Datum × Datum)) (key : Text) : Option Datum :=
  (entries.reverse.find? fun entry => entry.1.text? = some key).map Prod.snd

end Datum

/-- Whether a tag says that a node is a collection. -/
def Tag.isCollection : Tag → Bool
  | sequence => true
  | mapping => true
  | set => true
  | orderedMap => true
  | pairs => true
  | _ => false

/-- What a scalar with a tag stands for. -/
def scalarDatum (tag : Tag) (text : Text) (start : Mark) : Except Fault Datum :=
  let chars := text.toList
  match tag with
  | .null => .ok .null
  | .boolean =>
      let word := Text.ofList (Text.lower chars)
      match ScalarText.truth? word with
      | some value => .ok (.boolean value)
      | none => .error (.value (.noBoolean word))
  | .integer => (ScalarText.integerIsZero chars).map .number
  | .float => (ScalarText.floatIsZero chars).map .number
  | .text => .ok (.text text)
  | .bytes => (ScalarText.byteCount chars start).map .bytes
  | .timestamp => (ScalarText.checkTime chars).map fun _ => .timestamp
  | other => .error (.at none (.unknownTag other.name) start)

end Yaml
end KindExpr
