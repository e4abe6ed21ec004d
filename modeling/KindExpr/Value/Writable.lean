import KindExpr.Value.Display

/-!
# Values that can be shown

An integer is written in base ten only up to a limit on its digits. A value is writable
when every number that is shown with it keeps this limit; nothing can be said about any
other value, neither in full nor inside a longer text.
-/

namespace KindExpr

namespace Container

/-- The parts of a container that are shown. A field without a name is left out. -/
def shownParts {κ α : Type} : Container κ α → List α
  | record fields => (fields.filter fun field => !field.1.isEmpty).map Prod.snd
  | container => container.parts

/-- Whether a container can be shown whose keys and parts can be or not. -/
def isWritable (container : Container Bool Bool) : Bool :=
  container.keys.all id && container.shownParts.all id

@[simp] theorem shownParts_map {κ κ' α β : Type} (ofKey : κ → κ') (ofPart : α → β)
    (container : Container κ α) :
    (container.map ofKey ofPart).shownParts = container.shownParts.map ofPart := by
  cases container with
  | record fields => simp [map, shownParts, List.filter_map, Function.comp_def]
  | _ => simp [map, shownParts, parts]

end Container

/-- Whether the container at a place of a web can be shown, if the values
from outside can be or not. -/
def Web.isWritable (web : Web) (outside : List Bool) (place : Nat) : Bool :=
  web.fold
    { key := fun index => outside.getD index true
      outside := fun index => outside.getD index true
      point := fun x y => x && y
      container := fun _ => Container.isWritable
      again := fun _ => true }
    place

namespace Value

mutual

/-- Whether a value can be shown. -/
def isWritable : Value → Bool
  | .integer value => Numeral.isWritable value.natAbs
  | .derivedInteger value => Numeral.isWritable value.natAbs
  | .fraction value =>
      Numeral.isWritable value.numerator.natAbs && Numeral.isWritable value.denominator
  | .list items => Container.isWritable (.list (writableEach items))
  | .tuple items => Container.isWritable (.tuple (writableEach items))
  | .point x y => isWritable x && isWritable y
  | .set form items => Container.isWritable (.set form (writableEach items))
  | .mapping form entries =>
      Container.isWritable (.mapping form (writableEntries entries))
  | .error _ arguments => (writableEach arguments).all id
  | .record fields => Container.isWritable (.record (writableFields fields))
  | .linked outside web place => web.isWritable (writableEach outside) place
  | _ => true

/-- Which of several values can be shown. -/
def writableEach : List Value → List Bool
  | [] => []
  | value :: rest => isWritable value :: writableEach rest

/-- Which keys and values of a mapping can be shown. -/
def writableEntries : List (Value × Value) → List (Bool × Bool)
  | [] => []
  | (key, value) :: rest => (isWritable key, isWritable value) :: writableEntries rest

/-- Which named fields can be shown. -/
def writableFields : List (Text × Value) → List (Text × Bool)
  | [] => []
  | (name, value) :: rest => (name, isWritable value) :: writableFields rest

end

theorem writableEach_eq_map (values : List Value) :
    writableEach values = values.map isWritable := by
  induction values with
  | nil => rfl
  | cons value rest inductionHypothesis => rw [writableEach, inductionHypothesis]; rfl

theorem writableEntries_eq_map (entries : List (Value × Value)) :
    writableEntries entries =
      entries.map fun entry => (entry.1.isWritable, entry.2.isWritable) := by
  induction entries with
  | nil => rfl
  | cons entry rest inductionHypothesis => rw [writableEntries, inductionHypothesis]; rfl

theorem writableFields_eq_map (fields : List (Text × Value)) :
    writableFields fields = fields.map fun field => (field.1, field.2.isWritable) := by
  induction fields with
  | nil => rfl
  | cons field rest inductionHypothesis => rw [writableFields, inductionHypothesis]; rfl

/-- A value shown in full, if it can be shown. -/
def display? (value : Value) : Option Text :=
  if value.isWritable then some value.display else none

/-- A value inside a longer text, if it can be shown. -/
def plain? (value : Value) : Option Text :=
  if value.isWritable then some value.plain else none

end Value
end KindExpr
