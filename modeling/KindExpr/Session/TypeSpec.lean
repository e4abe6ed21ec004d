import KindExpr.Error
import KindExpr.Value.Call

/-!
# Type arguments

What a value is checked against: an expression with placeholder values, a
condition, a fixed outcome, a class, or several of these that must all hold. A
value is classified once; no value of another kind is a type argument.
-/

namespace KindExpr

/-- A condition on a value. -/
inductive Condition where
  | function (function : Function)
  | builtin (builtin : Builtin)
  | callable
  deriving Repr, DecidableEq

/-- Whether a condition holds of a value. -/
def Condition.holds (functions : Functions) : Condition → Value → Except CallFault Bool
  | .function given, value => given.holds functions value
  | .builtin given, value => given.holds value
  | .callable, value => Function.notNull.holds functions value

/-- The value that a condition is. -/
def Condition.toValue : Condition → Value
  | .function given => .function given
  | .builtin given => .builtin given
  | .callable => .callable

/-- A classified type argument. -/
inductive TypeSpec where
  | expression (text : Text) (placeholders : List Value)
  | condition (condition : Condition)
  | fixed (passes : Bool)
  | inst (cls : Class)
  | all (specs : List TypeSpec)

namespace TypeSpec

/-- Several type arguments that must all hold, if each is one. -/
def ofOutcomes (outcomes : List (Except Error TypeSpec)) : Except Error TypeSpec :=
  (outcomes.mapM id).map all

/-- Why a value is no type argument. -/
def refuse (value : Value) : Except Error TypeSpec :=
  .error (.typeArgument value.tag)

/-- Classify the container at a place of a web, from how the values from outside are
classified. A list inside of itself has no end. -/
def ofWeb (outside : List Value) (web : Web) (outcomes : List (Except Error TypeSpec))
    (place : Nat) : Except Error TypeSpec :=
  web.fold
    { key := fun _ => ()
      outside := fun index => outcomes.getD index (refuse .null)
      point := fun x y => ofOutcomes [x, y]
      container := fun place container =>
        match container.items? with
        | some parts => ofOutcomes parts
        | none => refuse (.linked outside web place)
      again := fun _ => .error .endless }
    place

mutual

/-- Classify a value. Each expression in a list gets the same placeholder values. -/
def ofValue (placeholders : List Value) : Value → Except Error TypeSpec
  | .boolean passes => .ok (.fixed passes)
  | .text text => .ok (.expression text placeholders)
  | .derivedText text => .ok (.expression text placeholders)
  | .pattern compiled =>
      .ok (.expression (Literal.ofPattern compiled).source placeholders)
  | .bytePattern _ => .error (.compile .bytePattern)
  | .list items => ofOutcomes (ofEach placeholders items)
  | .tuple items => ofOutcomes (ofEach placeholders items)
  | .point x y => ofOutcomes [ofValue placeholders x, ofValue placeholders y]
  | .linked outside web place => ofWeb outside web (ofEach placeholders outside) place
  | .cls given => .ok (.inst given)
  | .function given => .ok (.condition (.function given))
  | .builtin given => .ok (.condition (.builtin given))
  | .callable => .ok (.condition .callable)
  | other => refuse other

/-- Classify several values. -/
def ofEach (placeholders : List Value) : List Value → List (Except Error TypeSpec)
  | [] => []
  | value :: rest => ofValue placeholders value :: ofEach placeholders rest

end

theorem ofEach_eq_map (placeholders values : List Value) :
    ofEach placeholders values = values.map (ofValue placeholders) := by
  induction values with
  | nil => rfl
  | cons value rest inductionHypothesis => rw [ofEach, inductionHypothesis]; rfl

end TypeSpec
end KindExpr
