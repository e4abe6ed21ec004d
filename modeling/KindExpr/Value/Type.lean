import KindExpr.Value.Basic

/-!
# Types of values

The name of the type of a value, and which classes a value is an instance of.
-/

namespace KindExpr

/-- The type name of bytes. -/
def BytesForm.typeName : BytesForm → String
  | .fixed => "bytes"
  | .mutable => "bytearray"
  | .view => "memoryview"

/-- The type name of a set. -/
def SetForm.typeName : SetForm → String
  | .mutable => "set"
  | .frozen => "frozenset"

/-- The type name of a mapping. -/
def MappingForm.typeName : MappingForm → String
  | .plain => "dict"
  | .defaulting => "defaultdict"
  | .ordered => "OrderedDict"
  | .readOnly => "mappingproxy"
  | .chained => "ChainMap"
  | .wrapped => "UserDict"

/-- The type name of a moment. -/
def Moment.typeName : Moment → String
  | .date _ _ _ => "date"
  | .dateTime _ _ _ _ _ _ _ => "datetime"
  | .time _ _ _ _ => "time"

namespace Container

variable {κ κ' α β : Type}

/-- The type name of a container. -/
def typeName : Container κ α → String
  | list _ => "list"
  | tuple _ => "tuple"
  | set form _ => form.typeName
  | mapping form _ => form.typeName
  | record _ => "SimpleNamespace"

/-- The type name of a container with the module that stands
in front of it, if one does. -/
def typePath (container : Container κ α) : String :=
  match container with
  | mapping .defaulting _ => "collections." ++ container.typeName
  | mapping .ordered _ => "collections." ++ container.typeName
  | record _ => "types." ++ container.typeName
  | _ => container.typeName

/-- Whether a container is an instance of a class. -/
def isInstance (container : Container κ α) (cls : Class) : Bool :=
  match cls, container with
  | .object, _ => true
  | .list, list _ => true
  | .tuple, tuple _ => true
  | .dictionary, mapping form _ => form.isDictionary
  | .orderedDictionary, mapping .ordered _ => true
  | .mapping, mapping _ _ => true
  | .set, set .mutable _ => true
  | .frozenSet, set .frozen _ => true
  | _, _ => false

end Container

namespace Value

/-- The name of the type of a value. -/
def typeName (value : Value) : String :=
  match value.container?, value with
  | some container, _ => container.typeName
  | none, .null => "NoneType"
  | none, .boolean _ => "bool"
  | none, .integer _ => "int"
  | none, .derivedInteger _ => "IntSub"
  | none, .float _ => "float"
  | none, .decimal _ => "Decimal"
  | none, .fraction _ => "Fraction"
  | none, .complex _ => "complex"
  | none, .text _ => "str"
  | none, .derivedText _ => "TextSub"
  | none, .bytes form _ => form.typeName
  | none, .point _ _ => "Point"
  | none, .pattern _ => "Pattern"
  | none, .bytePattern _ => "Pattern"
  | none, .moment instant => instant.typeName
  | none, .error className _ => className
  | none, .cls value => value.typeName
  | none, .function _ => "function"
  | none, .builtin _ => "builtin_function_or_method"
  | none, .callable => "CallableObject"
  | none, .generator => "generator"
  | none, _ => "object"

/-- The name of the type of a value in the messages of operations that the value
does not support. It has a module in front for some types. -/
def typePath (value : Value) : String :=
  match value.container?, value with
  | some container, _ => container.typePath
  | none, .decimal _ => "decimal." ++ value.typeName
  | none, .pattern _ => "re." ++ value.typeName
  | none, .bytePattern _ => "re." ++ value.typeName
  | none, .moment _ => "datetime." ++ value.typeName
  | none, other => other.typeName

/-- Whether a value that is no container is an instance of a class. -/
def isSimpleInstance (value : Value) (cls : Class) : Bool :=
  match cls, value with
  | .object, _ => true
  | .integer, .boolean _ => true
  | .integer, .integer _ => true
  | .integer, .derivedInteger _ => true
  | .boolean, .boolean _ => true
  | .text, value => value.text?.isSome
  | .float, .float _ => true
  | .complex, .complex _ => true
  | .decimal, .decimal _ => true
  | .number, .boolean _ => true
  | .number, .integer _ => true
  | .number, .derivedInteger _ => true
  | .number, .float _ => true
  | .number, .decimal _ => true
  | .number, .fraction _ => true
  | .number, .complex _ => true
  | .bytes, .bytes .fixed _ => true
  | .tuple, .point _ _ => true
  | .metaclass, .cls _ => true
  | .date, .moment (.date _ _ _) => true
  | .date, .moment (.dateTime _ _ _ _ _ _ _) => true
  | .dateTime, .moment (.dateTime _ _ _ _ _ _ _) => true
  | .time, .moment (.time _ _ _ _) => true
  | .null, .null => true
  | .error name, .error className _ => (Class.errorAncestors className).contains name
  | _, _ => false

/-- Whether a value is an instance of a class. -/
def isInstance (value : Value) (cls : Class) : Bool :=
  match value.container? with
  | some container => container.isInstance cls
  | none => value.isSimpleInstance cls

end Value
end KindExpr
