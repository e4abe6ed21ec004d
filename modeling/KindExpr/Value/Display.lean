import KindExpr.Value.Basic

/-!
# How values are shown

`Value.display` shows a value in full, with quotation marks around texts.
`Value.plain` is the form of a value inside a longer text, where a text stands
for itself. Values without a written form of their own are shown by their type
with the place in memory masked.
-/

namespace KindExpr

/-- Join shown parts with commas. -/
def commaSeparated (parts : List Text) : Text :=
  Text.intercalate ", " parts

namespace Function

/-- The name of a function. -/
def name : Function → String
  | named name => name
  | identity => "identity"
  | notNull => "not_none"
  | alwaysNull => "always_none"
  | alwaysZero => "always_zero"
  | alwaysText => "always_text"
  | emptyList => "empty_list"
  | isText => "is_string"
  | lengthThree => "len_three"
  | raising => "raises"

end Function

/-- The name of a built-in function. -/
def Builtin.name : Builtin → String
  | .length => "len"
  | .callable => "callable"

namespace Moment

/-- Drop a zero at the end. -/
def dropZero (numbers : List Nat) : List Nat :=
  match numbers.reverse with
  | 0 :: earlier => earlier.reverse
  | _ => numbers

/-- The constructor that builds a moment. Seconds and microseconds are left out
when they and everything after them are zero. -/
def display : Moment → String
  | date year month day => call "date" [year, month, day]
  | dateTime year month day hour minute second microsecond =>
      call "datetime"
        ([year, month, day, hour, minute] ++ fine second microsecond)
  | time hour minute second microsecond =>
      call "time" ([hour, minute] ++ fine second microsecond)
where
  /-- A call of a constructor with numbers. -/
  call (name : String) (arguments : List Nat) : String :=
    "datetime." ++ name ++ "(" ++ ", ".intercalate (arguments.map toString) ++ ")"
  /-- The seconds and microseconds that are shown. -/
  fine (second microsecond : Nat) : List Nat :=
    if microsecond = 0 then dropZero [second] else [second, microsecond]

/-- A time of day with colons. -/
def clock (hour minute second microsecond : Nat) : String :=
  let whole := ":".intercalate ([hour, minute, second].map (Text.paddedDigits 2))
  if microsecond = 0 then whole else whole ++ "." ++ Text.paddedDigits 6 microsecond

/-- A calendar date with hyphens. -/
def calendar (year month day : Nat) : String :=
  Text.paddedDigits 4 year ++ "-" ++ Text.paddedDigits 2 month ++ "-" ++
    Text.paddedDigits 2 day

/-- A moment inside a longer text. -/
def plain : Moment → String
  | date year month day => calendar year month day
  | dateTime year month day hour minute second microsecond =>
      calendar year month day ++ " " ++ clock hour minute second microsecond
  | time hour minute second microsecond => clock hour minute second microsecond

end Moment

/-- Parts between a pair of brackets. -/
def bracketed (opening : Text) (parts : List Text) (closing : Text) : Text :=
  opening ++ commaSeparated parts ++ closing

/-- Shown items of a tuple; a single one is followed by a comma. -/
def tupleDisplay : List Text → Text
  | [item] => "(" ++ item ++ ",)"
  | items => bracketed "(" items ")"

/-- Shown items of a set. -/
def SetForm.display (form : SetForm) (items : List Text) : Text :=
  match form, items with
  | .mutable, [] => "set()"
  | .mutable, _ => bracketed "\x7b" items "\x7d"
  | .frozen, [] => "frozenset()"
  | .frozen, _ => bracketed "frozenset(\x7b" items "\x7d)"

/-- Shown entries of a mapping. -/
def MappingForm.display (form : MappingForm) (entries : List (Text × Text)) : Text :=
  let braces :=
    bracketed "\x7b" (entries.map fun entry => entry.1 ++ ": " ++ entry.2) "\x7d"
  match form with
  | .plain => braces
  | .wrapped => braces
  | .defaulting => "defaultdict(<class 'list'>, " ++ braces ++ ")"
  | .readOnly => "mappingproxy(" ++ braces ++ ")"
  | .chained => "ChainMap(" ++ braces ++ ")"
  | .ordered =>
      if entries.isEmpty then "OrderedDict()"
      else
        let pairs := entries.map fun entry => tupleDisplay [entry.1, entry.2]
        bracketed "OrderedDict([" pairs "])"

/-- What is shown of a mapping inside of itself. -/
def MappingForm.displayAgain : MappingForm → Text
  | .plain => "\x7b...\x7d"
  | .wrapped => "\x7b...\x7d"
  | .defaulting => "defaultdict(<class 'list'>, \x7b...\x7d)"
  | .readOnly => "mappingproxy(\x7b...\x7d)"
  | .chained => "..."
  | .ordered => "..."

namespace Container

/-- A container whose keys and parts are shown. A field without a name is left out. -/
def display : Container Text Text → Text
  | list items => bracketed "[" items "]"
  | tuple items => tupleDisplay items
  | set form items => form.display items
  | mapping form entries => form.display entries
  | record fields =>
      let named := fields.filter fun field => !field.1.isEmpty
      bracketed "namespace(" (named.map fun field => field.1 ++ "=" ++ field.2) ")"

/-- What is shown of a container inside of itself. -/
def displayAgain {κ α : Type} : Container κ α → Text
  | list _ => "[...]"
  | tuple _ => "(...)"
  | set .mutable _ => "set(...)"
  | set .frozen _ => "frozenset(...)"
  | mapping form _ => form.displayAgain
  | record _ => "namespace(...)"

end Container

/-- Null as it is shown. -/
def nullDisplay : Text := "None"

/-- A pair with named items that are shown. -/
def pointDisplay (x y : Text) : Text :=
  "Point(x=" ++ x ++ ", y=" ++ y ++ ")"

/-- The container at a place of a web, if the values from outside are shown so. -/
def Web.display (web : Web) (outside : List Text) (place : Nat) : Text :=
  web.fold
    { key := fun index => outside.getD index nullDisplay
      outside := fun index => outside.getD index nullDisplay
      point := pointDisplay
      container := fun _ => Container.display
      again := fun place => (web.container place).displayAgain }
    place

namespace Value

mutual

/-- A value shown in full. -/
def display : Value → Text
  | .null => nullDisplay
  | .boolean value => if value then "True" else "False"
  | .integer value => toString value
  | .derivedInteger value => toString value
  | .float value => value.text
  | .decimal value => "Decimal('" ++ value.text ++ "')"
  | .fraction value =>
      "Fraction(" ++ toString value.numerator ++ ", " ++ toString value.denominator ++ ")"
  | .complex value => value.text
  | .text value => Text.quote value
  | .derivedText value => Text.quote value
  | .bytes form content =>
      match form with
      | .fixed => Text.quoteBytes content
      | .mutable => "bytearray(" ++ Text.quoteBufferBytes content ++ ")"
      | .view => "<memory at 0x?>"
  | .list items => Container.display (.list (displayAll items))
  | .tuple items => Container.display (.tuple (displayAll items))
  | .point x y => pointDisplay (display x) (display y)
  | .set form items => Container.display (.set form (displayAll items))
  | .mapping form entries => Container.display (.mapping form (displayEntries entries))
  | .pattern compiled => compiled.display
  | .bytePattern compiled => compiled.display
  | .moment instant => instant.display
  | .error className arguments => bracketed (className ++ "(") (displayAll arguments) ")"
  | .cls value => value.display
  | .function value => "<function " ++ value.name ++ " at 0x?>"
  | .builtin value => "<built-in function " ++ value.name ++ ">"
  | .callable => "CallableObject()"
  | .generator => "<generator object gen at 0x?>"
  | .object => "<object object at 0x?>"
  | .record fields => Container.display (.record (displayFields fields))
  | .linked outside web place => web.display (displayAll outside) place

/-- Several values shown in full. -/
def displayAll : List Value → List Text
  | [] => []
  | value :: rest => display value :: displayAll rest

/-- The entries of a mapping shown in full. -/
def displayEntries : List (Value × Value) → List (Text × Text)
  | [] => []
  | (key, value) :: rest => (display key, display value) :: displayEntries rest

/-- Named fields shown in full. -/
def displayFields : List (Text × Value) → List (Text × Text)
  | [] => []
  | (name, value) :: rest => (name, display value) :: displayFields rest

end

/-- A value inside a longer text. -/
def plain : Value → Text
  | .text value => value
  | .derivedText value => value
  | .decimal value => value.text
  | .fraction value =>
      if value.denominator = 1 then toString value.numerator
      else toString value.numerator ++ "/" ++ toString value.denominator
  | .moment instant => instant.plain
  | .error className [argument] =>
      if className = "KeyError" then display argument else plain argument
  | .error _ [] => ""
  | .error _ arguments => tupleDisplay (displayAll arguments)
  | value => display value

end Value
end KindExpr
