import KindExpr.Value.Basic

/-!
# Kinds of values

Every value has exactly one kind, and every kind has a tag. Dictionaries are
objects with named fields; ordered dictionaries and all other mappings are maps.
-/

namespace KindExpr

/-- The kinds of values. -/
inductive Kind where
  | null
  | boolean
  | number
  | string
  | buffer
  | array
  | object
  | map
  | set
  | regexp
  | date
  | error
  | cls
  | function
  | generator
  | inst
  deriving Repr, DecidableEq

namespace Kind

/-- The tag of a kind. -/
def tag : Kind → Text
  | null => "null"
  | boolean => "boolean"
  | number => "number"
  | string => "string"
  | buffer => "buffer"
  | array => "array"
  | object => "object"
  | map => "map"
  | set => "set"
  | regexp => "regexp"
  | date => "date"
  | error => "error"
  | cls => "class"
  | function => "function"
  | generator => "generator"
  | inst => "instance"

end Kind

/-- The kind of a mapping. -/
def MappingForm.kind : MappingForm → Kind
  | .plain => .object
  | .defaulting => .object
  | .ordered => .map
  | .readOnly => .map
  | .chained => .map
  | .wrapped => .map

/-- The kind of a container. -/
def Container.kind {κ α : Type} : Container κ α → Kind
  | .list _ => .array
  | .tuple _ => .array
  | .set _ _ => .set
  | .mapping form _ => form.kind
  | .record _ => .inst

/-- The kind of a value. -/
def Value.kind (value : Value) : Kind :=
  match value.container?, value with
  | some container, _ => container.kind
  | none, .null => .null
  | none, .boolean _ => .boolean
  | none, .integer _ => .number
  | none, .derivedInteger _ => .number
  | none, .float _ => .number
  | none, .decimal _ => .number
  | none, .fraction _ => .number
  | none, .complex _ => .number
  | none, .text _ => .string
  | none, .derivedText _ => .string
  | none, .bytes _ _ => .buffer
  | none, .point _ _ => .array
  | none, .pattern _ => .regexp
  | none, .bytePattern _ => .regexp
  | none, .moment _ => .date
  | none, .error _ _ => .error
  | none, .cls _ => .cls
  | none, .function _ => .function
  | none, .builtin _ => .function
  | none, .callable => .function
  | none, .generator => .generator
  | none, _ => .inst

theorem Value.kind_of_container? {value : Value} {container : Container Value Value}
    (isContainer : value.container? = some container) : value.kind = container.kind := by
  cases value <;> first | cases isContainer; rfl | cases isContainer

end KindExpr
