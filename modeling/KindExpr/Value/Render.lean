import KindExpr.Value.Display
import KindExpr.Value.Kind
import KindExpr.Value.Writable

/-!
# Values in messages

A value is rendered as JSON. Sets are arrays, and a value JSON has no form for is the
JSON string of how it is shown. Between the quotation marks of a JSON string only the
mark, the backslash and the control characters are escaped.

A value that contains itself, or a dictionary with a key that is no text, number, truth
value or null, has no JSON at all; then the whole value is shown instead. A value that
cannot be shown cannot be rendered either.
-/

namespace KindExpr

namespace Json

/-- A character as it stands in a JSON string. -/
def quotedChar (c : Code) : List Code :=
  if c = '"' then ['\\', '"']
  else if c = '\\' then ['\\', '\\']
  else if c = '\n' then ['\\', 'n']
  else if c = '\r' then ['\\', 'r']
  else if c = '\t' then ['\\', 't']
  else if c = '\x08' then ['\\', 'b']
  else if c = '\x0c' then ['\\', 'f']
  else if c.toNat < 0x20 then '\\' :: 'u' :: (Text.hexDigits 4 c.toNat : Text).toList
  else [c]

/-- A text as a JSON string. -/
def quote (text : Text) : Text :=
  Text.ofList (.char '"' :: text.toList.flatMap quotedChar ++ [.char '"'])

end Json

/-- A floating-point number in JSON, with names for what is not a number. -/
def Binary64.json : Binary64 → String
  | .nan => "NaN"
  | .infinite negative => if negative then "-Infinity" else "Infinity"
  | number => number.text

namespace Value

/-- The JSON text of a key, without its quotation marks. -/
def jsonKey? : Value → Option Text
  | .text value => some value
  | .derivedText value => some value
  | .float value => some value.json
  | .boolean value => some (if value then "true" else "false")
  | .null => some "null"
  | .integer value => some (toString value)
  | .derivedInteger value => some (toString value)
  | _ => none

end Value

/-- A field of a JSON object, if its name and its value have JSON texts. -/
def Json.field? : Option Text × Option Text → Option Text
  | (some name, some text) => some (quote name ++ ": " ++ text)
  | _ => none

/-- The JSON text of an array whose items have these JSON texts, if all have one. -/
def Json.array? (items : List (Option Text)) : Option Text :=
  (items.mapM id).map fun texts => bracketed "[" texts "]"

/-- The JSON text of an object whose fields have these JSON texts, if all have one. -/
def Json.object? (fields : List (Option Text × Option Text)) : Option Text :=
  (fields.mapM field?).map fun texts => bracketed "\x7b" texts "\x7d"

/-- The JSON text of a container, from those of its keys and parts. A container that has
no form in JSON is shown. -/
def Container.json? (value : Value) : Container (Option Text) (Option Text) → Option Text
  | list items => Json.array? items
  | tuple items => Json.array? items
  | set _ items => Json.array? items
  | mapping form entries =>
      if form.isDictionary then Json.object? entries
      else some (Json.quote value.display)
  | record _ => some (Json.quote value.display)

/-- The JSON text of the container at a place of a web, from those of the values from
outside. A container inside of itself has none. -/
def Web.json? (web : Web) (outside : List Value) (texts : List (Option Text))
    (place : Nat) : Option Text :=
  web.fold
    { key := fun index => (Value.outer outside index).jsonKey?
      outside := fun index => texts.getD index (some "null")
      point := fun x y => Json.array? [x, y]
      container := fun place => Container.json? (.linked outside web place)
      again := fun _ => none }
    place

namespace Value

mutual

/-- The JSON text of a value, if it has one. -/
def json? : Value → Option Text
  | .null => some "null"
  | .boolean value => some (if value then "true" else "false")
  | .integer value => some (toString value)
  | .derivedInteger value => some (toString value)
  | .float value => some value.json
  | .text value => some (Json.quote value)
  | .derivedText value => some (Json.quote value)
  | .list items => Container.json? (.list items) (.list (jsonEach items))
  | .tuple items => Container.json? (.tuple items) (.tuple (jsonEach items))
  | .point x y => Json.array? [json? x, json? y]
  | .set form items => Container.json? (.set form items) (.set form (jsonEach items))
  | .mapping form entries =>
      Container.json? (.mapping form entries) (.mapping form (jsonEntries entries))
  | .linked outside web place => web.json? outside (jsonEach outside) place
  | value => some (Json.quote (display value))

/-- The JSON texts of several values, where they have one. -/
def jsonEach : List Value → List (Option Text)
  | [] => []
  | value :: rest => json? value :: jsonEach rest

/-- The JSON texts of the keys and values of a mapping, where they have one. -/
def jsonEntries : List (Value × Value) → List (Option Text × Option Text)
  | [] => []
  | (key, value) :: rest => (jsonKey? key, json? value) :: jsonEntries rest

end

/-- A value as it stands in a message, whatever the length of its numbers. -/
def render (value : Value) : Text :=
  (json? value).getD (display value)

/-- A value as it stands in a message, if it can be shown. -/
def render? (value : Value) : Option Text :=
  if value.isWritable then some value.render else none

end Value

/-- The message for a value that was rejected under a name for a reason. An
empty name is left out. -/
def rejection (value : Value) (name reason : Text) : Text :=
  let subject : Text := if name.isEmpty then "" else " for \"" ++ name ++ "\""
  reason ++ subject ++ ", got " ++ value.render ++ " (" ++ value.kind.tag ++ ")"

/-- The message for a rejected value, if the value can be shown. -/
def rejection? (value : Value) (name reason : Text) : Option Text :=
  if value.isWritable then some (rejection value name reason) else none

/-- The reason given when there is no better one. -/
def generalReason : Text := "Invalid value"

end KindExpr
