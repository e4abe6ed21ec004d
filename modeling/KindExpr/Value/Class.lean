/-!
# Classes

The classes that values are instances of and that can be values themselves.
Error classes are known by name, with the classes they extend.
-/

namespace KindExpr

/-- A class that can be a value. -/
inductive Class where
  | integer
  | text
  | boolean
  | float
  | complex
  | bytes
  | list
  | tuple
  | dictionary
  | set
  | frozenSet
  | object
  | metaclass
  | orderedDictionary
  | mapping
  | number
  | date
  | dateTime
  | time
  | decimal
  | null
  /-- An error class, by name. -/
  | error (name : String)
  deriving Repr, DecidableEq

namespace Class

/-- The plain name of a class. -/
def name : Class → String
  | integer => "int"
  | text => "str"
  | boolean => "bool"
  | float => "float"
  | complex => "complex"
  | bytes => "bytes"
  | list => "list"
  | tuple => "tuple"
  | dictionary => "dict"
  | set => "set"
  | frozenSet => "frozenset"
  | object => "object"
  | metaclass => "type"
  | orderedDictionary => "OrderedDict"
  | mapping => "Mapping"
  | number => "Number"
  | date => "date"
  | dateTime => "datetime"
  | time => "time"
  | decimal => "Decimal"
  | null => "NoneType"
  | error name => name

/-- The module that a class is shown with, if it is shown with one. -/
def module? : Class → Option String
  | orderedDictionary => some "collections"
  | mapping => some "collections.abc"
  | number => some "numbers"
  | date => some "datetime"
  | dateTime => some "datetime"
  | time => some "datetime"
  | decimal => some "decimal"
  | _ => none

/-- A class as it is shown. -/
def display (cls : Class) : String :=
  match cls.module? with
  | some module => "<class '" ++ module ++ "." ++ cls.name ++ "'>"
  | none => "<class '" ++ cls.name ++ "'>"

/-- The name of a class in the messages of operations that it does not support. -/
def path (cls : Class) : String :=
  match cls with
  | date => "datetime." ++ cls.name
  | dateTime => "datetime." ++ cls.name
  | time => "datetime." ++ cls.name
  | decimal => "decimal." ++ cls.name
  | _ => cls.name

/-- The class that an abstract class is an instance of
differs from that of the others. -/
def typeName : Class → String
  | mapping => "ABCMeta"
  | number => "ABCMeta"
  | _ => "type"

/-- The error classes that an error class directly or indirectly extends, itself
first. A class that is not listed extends the general one. -/
def errorAncestors (name : String) : List String :=
  let general := ["Exception", "BaseException"]
  match name with
  | "BaseException" => ["BaseException"]
  | "Exception" => general
  | "KeyboardInterrupt" => ["KeyboardInterrupt", "BaseException"]
  | "SystemExit" => ["SystemExit", "BaseException"]
  | "GeneratorExit" => ["GeneratorExit", "BaseException"]
  | "KeyError" => "KeyError" :: "LookupError" :: general
  | "IndexError" => "IndexError" :: "LookupError" :: general
  | "ZeroDivisionError" => "ZeroDivisionError" :: "ArithmeticError" :: general
  | "OverflowError" => "OverflowError" :: "ArithmeticError" :: general
  | "NotImplementedError" => "NotImplementedError" :: "RuntimeError" :: general
  | "RecursionError" => "RecursionError" :: "RuntimeError" :: general
  | "FileNotFoundError" => "FileNotFoundError" :: "OSError" :: general
  | "UnicodeError" => "UnicodeError" :: "ValueError" :: general
  | other => other :: general

end Class
end KindExpr
