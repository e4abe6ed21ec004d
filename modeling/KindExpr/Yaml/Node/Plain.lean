import KindExpr.Yaml.Node
import KindExpr.Text.Digit

/-!
# What plain scalars stand for

A scalar that is written without quotation marks is a number, a truth value, a
point in time or null if it has the form of one, and a text otherwise.
-/

namespace KindExpr
namespace Yaml
namespace Plain

/-- The words for truth values. -/
def truthWords : List Text :=
  ["yes", "Yes", "YES", "no", "No", "NO", "true", "True", "TRUE", "false",
    "False", "FALSE",
    "on", "On", "ON", "off", "Off", "OFF"]

/-- The words for null. -/
def nullWords : List Text :=
  ["~", "null", "Null", "NULL"]

/-- Leave out a sign. -/
def dropSign : List Code → List Code
  | .char '-' :: rest => rest
  | .char '+' :: rest => rest
  | text => text

/-- Leave out the digits and underscores a text starts with. -/
def dropDigits (text : List Code) : List Code :=
  text.dropWhile fun c => Text.isAsciiDigit c || c = '_'

/-- Whether a text is an exponent with its sign and digits. -/
def isExponent : List Code → Bool
  | mark :: sign :: digits =>
      (mark = 'e' || mark = 'E') && (sign = '-' || sign = '+') && !digits.isEmpty &&
        digits.all Text.isAsciiDigit
  | _ => false

/-- Whether a text starts with a digit. -/
def startsWithDigit : List Code → Bool
  | c :: _ => Text.isAsciiDigit c
  | [] => false

/-- Leave out the places of a number to the base sixty after its first one: each
is a colon and a number below sixty. The number of places is told. -/
def dropSixtieths : List Code → Nat × List Code
  | .char ':' :: first :: second :: rest =>
      if '0' ≤ first && first ≤ '5' && Text.isAsciiDigit second then
        let (count, remaining) := dropSixtieths rest
        (count + 1, remaining)
      else if Text.isAsciiDigit first then
        let (count, remaining) := dropSixtieths (second :: rest)
        (count + 1, remaining)
      else (0, ':' :: first :: second :: rest)
  | [.char ':', last] => if Text.isAsciiDigit last then (1, []) else (0, [':', last])
  | text => (0, text)

/-- Whether a text is a number with a point. -/
def isFloat (text : List Code) : Bool :=
  let body := dropSign text
  let ends (rest : List Code) : Bool := rest.isEmpty || isExponent rest
  let positional :=
    startsWithDigit body &&
      match dropDigits body with
      | .char '.' :: rest => ends (dropDigits rest)
      | _ => false
  let fraction :=
    match text with
    | .char '.' :: rest => startsWithDigit rest && ends (dropDigits rest)
    | _ => false
  let sixtieths :=
    startsWithDigit body &&
      match dropSixtieths (dropDigits body) with
      | (_ + 1, .char '.' :: rest) => (dropDigits rest).isEmpty
      | _ => false
  let infinite := body ∈ (([".inf", ".Inf", ".INF"] : List Text).map Text.toList)
  let undefined := text ∈ (([".nan", ".NaN", ".NAN"] : List Text).map Text.toList)
  positional || fraction || sixtieths || infinite || undefined

/-- Whether a text is an integer. -/
def isInteger (text : List Code) : Bool :=
  let isDigitsOf (accepts : Code → Bool) (digits : List Code) : Bool :=
    !digits.isEmpty && digits.all fun c => accepts c || c = '_'
  match dropSign text with
  | [.char '0'] => true
  | .char '0' :: rest =>
      isDigitsOf Text.isOctalDigit rest ||
        match rest with
        | .char 'b' :: digits => isDigitsOf (fun c => c = '0' || c = '1') digits
        | .char 'x' :: digits => isDigitsOf Text.isHexDigit digits
        | _ => false
  | body => startsWithDigit body && (dropSixtieths (dropDigits body)).2.isEmpty

/-- Take some digits, at least and at most so many. -/
def takeDigits? (least most : Nat) (text : List Code) : Option (List Code × List Code) :=
  let digits := (text.take most).takeWhile Text.isAsciiDigit
  if digits.length < least then none else some (digits, text.drop digits.length)

/-- Take digits after a character. -/
def takeField? (mark : Code) (least most : Nat) :
    List Code → Option (List Code × List Code)
  | c :: rest => if c = mark then takeDigits? least most rest else none
  | [] => none

/-- The parts of a point in time as they are written. -/
structure TimeParts where
  year : List Code
  month : List Code
  day : List Code
  /-- Hour, minute and second. -/
  clock : Option (List Code × List Code × List Code)
  fraction : List Code
  /-- The offset: whether it is negative, its hours and its minutes. -/
  offset : Option (Bool × List Code × List Code)
  deriving Repr

/-- The offset of a point in time at the end of a text: absent, zero or given. -/
def offset? (text : List Code) : Option (Option (Bool × List Code × List Code)) := do
  match text.dropWhile fun (c : Code) => c = ' ' || c = '\t' with
  | [] => if text.isEmpty then some none else none
  | [.char 'Z'] => some none
  | sign :: rest =>
      if sign ≠ '-' && sign ≠ '+' then none
      let (hours, rest) ← takeDigits? 1 2 rest
      if rest.isEmpty then some (some (sign = '-', hours, []))
      else
        let (minutes, rest) ← takeField? ':' 2 2 rest
        if rest.isEmpty then some (some (sign = '-', hours, minutes)) else none

/-- The point in time that a text writes. -/
def timeParts? (text : List Code) : Option TimeParts := do
  let (year, rest) ← takeDigits? 4 4 text
  let (month, rest) ← takeField? '-' 1 2 rest
  let (day, rest) ← takeField? '-' 1 2 rest
  let date : TimeParts := ⟨year, month, day, none, [], none⟩
  if rest.isEmpty then some date
  else
    let afterGap ←
      match rest with
      | .char 'T' :: rest => some rest
      | .char 't' :: rest => some rest
      | c :: _ =>
          if c = ' ' || c = '\t' then
            some (rest.dropWhile fun (c : Code) => c = ' ' || c = '\t')
          else none
      | [] => none
    let (hour, rest) ← takeDigits? 1 2 afterGap
    let (minute, rest) ← takeField? ':' 2 2 rest
    let (second, rest) ← takeField? ':' 2 2 rest
    let (fraction, rest) :=
      match rest with
      | .char '.' :: rest =>
          (rest.takeWhile Text.isAsciiDigit, rest.dropWhile Text.isAsciiDigit)
      | _ => ([], rest)
    let offset ← offset? rest
    some { date with clock := some (hour, minute, second), fraction, offset }

/-- Whether a text is a point in time. A date alone has two
digits for its month and its day. -/
def isTimestamp (text : List Code) : Bool :=
  match timeParts? text with
  | some parts => parts.clock.isSome || (parts.month.length = 2 && parts.day.length = 2)
  | none => false

/-- The tag of a plain scalar. A line break at its end is passed over. -/
def tagOf (text : List Code) : Tag :=
  let body := if text.getLast? = some '\n' then text.dropLast else text
  let written := Text.ofList body
  if text.isEmpty then .null
  else if truthWords.contains written then .boolean
  else if isFloat body then .float
  else if isInteger body then .integer
  else if written = "<<" then .merge
  else if nullWords.contains written then .null
  else if isTimestamp body then .timestamp
  else if written = "=" then .plainValue
  else if (["!", "&", "*"] : List Text).contains written then
    .other (Tag.domain ++ "yaml")
  else .text

end Plain
end Yaml
end KindExpr
