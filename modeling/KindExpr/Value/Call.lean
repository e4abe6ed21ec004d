import KindExpr.Value.Display
import KindExpr.Value.Type

/-!
# Truth and calls

Which values count as true, which have a length and what the values that are
functions answer. A class makes a fresh instance when it is called without arguments.
-/

namespace KindExpr

/-- What a value that is called raises. -/
inductive CallFault where
  | noLength (typePath : Text)
  | raised
  | notCallable (typePath : Text)
  /-- A function is called without its argument. -/
  | missingArgument (name : Text)
  /-- A built-in function is called without its argument. -/
  | missingBuiltinArgument (name : Text)
  /-- The class of classes makes no class without a name. -/
  | namelessClass
  /-- The class of mappings has no instances of its own. -/
  | abstractMapping
  /-- A date needs a year. -/
  | missingYear
  /-- An error of a function that is known by its name only. -/
  | thrown (className : String) (message : Text)
  deriving Repr, DecidableEq

/-- The message of a fault. -/
def CallFault.message : CallFault → Text
  | noLength typePath => "object of type '" ++ typePath ++ "' has no len()"
  | raised => "predicate failed"
  | notCallable typePath => "'" ++ typePath ++ "' object is not callable"
  | missingArgument name => name ++ "() missing 1 required positional argument: 'value'"
  | missingBuiltinArgument name => name ++ "() takes exactly one argument (0 given)"
  | namelessClass => "type() takes 1 or 3 arguments"
  | abstractMapping =>
      "Can't instantiate abstract class Mapping with abstract methods " ++
        "__getitem__, __iter__, __len__"
  | missingYear => "function missing required argument 'year' (pos 1)"
  | thrown _ message => message

/-- The length of a container, if it has one. -/
def Container.length? {κ α : Type} : Container κ α → Option Nat
  | list items => some items.length
  | tuple items => some items.length
  | set _ items => some items.length
  | mapping _ entries => some entries.length
  | record _ => none

namespace Value

/-- The length of a value, if it has one. -/
def length? : Value → Option Nat
  | .text value => some value.length
  | .derivedText value => some value.length
  | .bytes _ content => some content.length
  | .point _ _ => some 2
  | value => value.container?.bind Container.length?

/-- Whether a number is zero, for the values that are numbers. -/
def zero? : Value → Option Bool
  | .boolean value => some (!value)
  | .integer value => some (value = 0)
  | .derivedInteger value => some (value = 0)
  | .float value => some value.isZero
  | .decimal (.finite _ digits _) => some (digits = 0)
  | .fraction value => some (value.numerator = 0)
  | .complex value => some (value.re.isZero && value.im.isZero)
  | _ => none

/-- Whether a value counts as true: null, zero and what is empty do not. -/
def truth (value : Value) : Bool :=
  match value with
  | .null => false
  | _ =>
      match value.zero?, value.length? with
      | some isZero, _ => !isZero
      | none, some length => length ≠ 0
      | none, none => true

/-- Whether a value can be called. -/
def isCallable : Value → Bool
  | .cls _ => true
  | .function _ => true
  | .builtin _ => true
  | .callable => true
  | _ => false

/-- Whether a value is a text, a list, a tuple or a dictionary of three items. -/
def hasThreeItems (value : Value) : Bool :=
  let counts :=
    value.text?.isSome || value.items?.isSome || value.isInstance .dictionary
  counts && value.length? = some 3

end Value

/-- What the functions answer that are known by their names
only: anything, or an error. -/
abbrev Functions := String → Value → Except CallFault Bool

/-- What a function answers for a value, as far as it counts as true. -/
def Function.holds (functions : Functions) (function : Function) (value : Value) :
    Except CallFault Bool :=
  match function with
  | .named name => functions name value
  | .identity => .ok value.truth
  | .notNull =>
      match value with
      | .null => .ok false
      | _ => .ok true
  | .alwaysNull => .ok false
  | .alwaysZero => .ok false
  | .alwaysText => .ok true
  | .emptyList => .ok false
  | .isText => .ok value.text?.isSome
  | .lengthThree => .ok value.hasThreeItems
  | .raising => .error .raised

/-- What a built-in function answers for a value, as far as it counts as true. -/
def Builtin.holds (builtin : Builtin) (value : Value) : Except CallFault Bool :=
  match builtin with
  | .callable => .ok value.isCallable
  | .length =>
      match value.length? with
      | some count => .ok (count ≠ 0)
      | none => .error (.noLength value.typePath)

/-! ## Calls without arguments -/

/-- What a call without arguments gives. -/
inductive Fresh where
  /-- A text or a container without items. -/
  | empty
  /-- A value of some type that has no items, and whether it counts as true. -/
  | single (typePath : Text) (truth : Bool)
  deriving Repr, DecidableEq

/-- Whether a fresh value counts as true. -/
def Fresh.truth : Fresh → Bool
  | empty => false
  | single _ truth => truth

/-- The fresh instance of a class. -/
def Class.make : Class → Except CallFault Fresh
  | text => .ok .empty
  | bytes => .ok .empty
  | list => .ok .empty
  | tuple => .ok .empty
  | dictionary => .ok .empty
  | set => .ok .empty
  | frozenSet => .ok .empty
  | orderedDictionary => .ok .empty
  | integer => .ok (.single integer.path false)
  | boolean => .ok (.single boolean.path false)
  | float => .ok (.single float.path false)
  | complex => .ok (.single complex.path false)
  | decimal => .ok (.single decimal.path false)
  | null => .ok (.single null.path false)
  | object => .ok (.single object.path true)
  | number => .ok (.single number.path true)
  | time => .ok (.single time.path true)
  | error name => .ok (.single name true)
  | metaclass => .error .namelessClass
  | mapping => .error .abstractMapping
  | date => .error .missingYear
  | dateTime => .error .missingYear

/-- Call a value without arguments. Every function needs one. -/
def Value.make : Value → Except CallFault Fresh
  | .cls given => given.make
  | .function given => .error (.missingArgument given.name)
  | .builtin given => .error (.missingBuiltinArgument given.name)
  | .callable => .error (.missingArgument "CallableObject.__call__")
  | other => .error (.notCallable other.typePath)

end KindExpr
