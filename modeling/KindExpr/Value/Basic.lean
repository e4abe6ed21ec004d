import KindExpr.Number.Exact
import KindExpr.Pattern.Basic
import KindExpr.Value.Class
import KindExpr.Value.Container

/-!
# Values

The values that type expressions speak about. Containers that contain themselves, or
each other, are places of a web, so that every value is a finite tree: what is at a
place holds other places of the same web, and `Value.container?` gives it on demand.
-/

namespace KindExpr

/-- The forms of a sequence of bytes. -/
inductive BytesForm where
  | fixed
  | mutable
  | view
  deriving Repr, DecidableEq

/-- A point in time: a calendar date, a date with a time, or a time of day. -/
inductive Moment where
  | date (year month day : Nat)
  | dateTime (year month day hour minute second microsecond : Nat)
  | time (hour minute second microsecond : Nat)
  deriving Repr, DecidableEq

/-- The functions of one argument that can be values. -/
inductive Function where
  /-- A function that is known by its name only. What it answers is told by a session. -/
  | named (name : String)
  | identity
  | notNull
  | alwaysNull
  | alwaysZero
  | alwaysText
  | emptyList
  | isText
  | lengthThree
  | raising
  deriving Repr, DecidableEq

/-- The functions that are built in. -/
inductive Builtin where
  | length
  | callable
  deriving Repr, DecidableEq

/-- A value. -/
inductive Value where
  | null
  | boolean (value : Bool)
  | integer (value : Int)
  /-- An instance of a class that extends the integers. -/
  | derivedInteger (value : Int)
  | float (value : Binary64)
  | decimal (value : Decimal)
  | fraction (value : Fraction)
  | complex (value : Complex)
  | text (value : Text)
  /-- An instance of a class that extends the texts. -/
  | derivedText (value : Text)
  | bytes (form : BytesForm) (content : List UInt8)
  | list (items : List Value)
  | tuple (items : List Value)
  /-- A tuple whose two items have the names `x` and `y`. -/
  | point (x y : Value)
  | set (form : SetForm) (items : List Value)
  | mapping (form : MappingForm) (entries : List (Value × Value))
  | pattern (pattern : Pattern)
  | bytePattern (pattern : BytePattern)
  | moment (moment : Moment)
  | error (className : String) (arguments : List Value)
  | cls (cls : Class)
  | function (function : Function)
  | builtin (builtin : Builtin)
  /-- An object that can be called: true of everything but null. -/
  | callable
  | generator
  | object
  /-- An object with named fields. -/
  | record (fields : List (Text × Value))
  /-- The container at a place of a web, which holds some values from outside of it. -/
  | linked (outside : List Value) (web : Web) (place : Nat)

namespace Value

instance : Inhabited Value := ⟨null⟩

/-- The text a value is, if it is one. -/
def text? : Value → Option Text
  | .text value => some value
  | .derivedText value => some value
  | _ => none

/-- The value with an index among those from outside of a web: null beyond them. -/
def outer (outside : List Value) (index : Nat) : Value :=
  outside.getD index .null

/-- The value that a part of a container in a web is. -/
def ofLink (outside : List Value) (web : Web) (link : Link) : Value :=
  link.fold (outer outside) (linked outside web) point

/-- What a container holds. -/
def container? : Value → Option (Container Value Value)
  | .list items => some (.list items)
  | .tuple items => some (.tuple items)
  | .set form items => some (.set form items)
  | .mapping form entries => some (.mapping form entries)
  | .record fields => some (.record fields)
  | .linked outside web place =>
      some ((web.container place).map (outer outside) (ofLink outside web))
  | _ => none

/-- The items of a list or tuple. -/
def items? : Value → Option (List Value)
  | .point x y => some [x, y]
  | value => value.container?.bind Container.items?

/-- The entries of a mapping, in order. -/
def entries? (value : Value) : Option (List (Value × Value)) :=
  value.container?.bind Container.entries?

theorem items?_of_container? {value : Value} {container : Container Value Value}
    (isContainer : value.container? = some container) :
    value.items? = container.items? := by
  cases value with
  | point x y => cases isContainer
  | _ => exact congrArg (Option.bind · Container.items?) isContainer

theorem items?_linked (outside : List Value) (web : Web) (place : Nat) :
    (linked outside web place).items? =
      (web.container place).items?.map (List.map (ofLink outside web)) :=
  Container.items?_map _ _ _

theorem entries?_of_container? {value : Value} {container : Container Value Value}
    (isContainer : value.container? = some container) :
    value.entries? = container.entries? := by
  rw [entries?, isContainer]
  rfl

end Value
end KindExpr
