import KindExpr.Number.Arithmetic
import KindExpr.Number.Numeral
import KindExpr.Text.Lowered
import KindExpr.Yaml.Node.Plain

/-!
# Scalars that write numbers, truth values, times and bytes

A tag may be given to a scalar whose text has not the form of such a value. Then
it is at fault, each tag in its own way.
-/

namespace KindExpr
namespace Yaml
namespace ScalarText

/-- Leave out underscores. -/
def joined (text : List Code) : List Code :=
  text.filter fun c => c ≠ '_'

/-- Split a text at every colon. -/
def places : List Code → List (List Code)
  | [] => [[]]
  | c :: rest =>
      match places rest with
      | [] => [[c]]
      | first :: others =>
          if c = ':' then [] :: first :: others else (c :: first) :: others

/-- A text without a zero and the mark of a base after it, which is
a small or a capital letter. -/
def dropBaseMark (mark : Code) (text : List Code) : List Code :=
  match text with
  | zero :: c :: rest =>
      if Text.digitValue? zero = some 0 && (c = mark || c = mark.upperAscii) then
        rest
      else text
  | _ => text

/-- Whether a text writes zero with digits of a base that is a power of two, if it
writes a number at all. -/
def zeroIn? (base : Nat) (mark : Code) (text : List Code) : Option Bool :=
  let body := dropBaseMark mark (Numeral.readSign (Numeral.trimmed text)).2
  let digit? (c : Code) : Option Nat :=
    (Text.digitValue? c).or (Text.hexValue? c) |>.filter fun digit => digit < base
  if body.isEmpty then none
  else (body.mapM digit?).map fun digits => digits.all fun digit => digit = 0

/-- The integer of a text in base ten. -/
def integer (text : List Code) : Except Fault Int :=
  match Numeral.integer? text with
  | some number => .ok number
  | none =>
      let digits := (Numeral.readDigits (Numeral.readSign (Numeral.trimmed text)).2)
      if digits.2.isEmpty && digits.1.length > Numeral.maxDigits then
        .error (.value (.tooManyDigits digits.1.length))
      else .error (.value (.noInteger 10 (Text.ofList text)))

/-- Whether a text writes zero in a base. -/
def zeroIn (base : Nat) (mark : Code) (text : List Code) : Except Fault Bool :=
  match zeroIn? base mark text with
  | some isZero => .ok isZero
  | none => .error (.value (.noInteger base (Text.ofList text)))

/-- Whether the number of an integer scalar is zero. -/
def integerIsZero (text : List Code) : Except Fault Bool :=
  match joined text with
  | [] => .error (.value .noDigits)
  | c :: rest =>
      let body := if c = '-' || c = '+' then rest else c :: rest
      match body with
      | [] => .error (.value .noDigits)
      | [.char '0'] => .ok true
      | .char '0' :: .char 'b' :: digits => zeroIn 2 'b' digits
      | .char '0' :: .char 'x' :: digits => zeroIn 16 'x' digits
      | .char '0' :: _ => zeroIn 8 'o' body
      | _ =>
          if body.contains ':' then do
            let numbers ← (places body).mapM integer
            return numbers.foldl (fun total number => total * 60 + number) 0 = 0
          else return (← integer body) = 0

/-- The sum of the places of a number to the base sixty, the last place first. Each
place is multiplied by a power of sixty, which must not be too large, and added to the
sum of those behind it. -/
def sumPlaces : Nat → Binary64 → List Binary64 → Except Fault Binary64
  | _, total, [] => .ok total
  | base, total, place :: rest =>
      match Binary64.ofNat? base with
      | none => .error (.value .floatTooLarge)
      | some factor => sumPlaces (base * 60) (total.add (place.multiply factor)) rest

/-- Whether the number of a floating-point scalar is zero. -/
def floatIsZero (text : List Code) : Except Fault Bool :=
  let read (part : List Code) : Except Fault Binary64 :=
    match Numeral.float? part with
    | some number => .ok number
    | none => .error (.value (.noFloat (Text.ofList part)))
  match Text.lower (joined text) with
  | [] => .error (.value .noDigits)
  | c :: rest => do
      let body := if c = '-' || c = '+' then rest else c :: rest
      if body = (".inf" : Text).toList || body = (".nan" : Text).toList then return false
      else if body.contains ':' then
        let numbers ← (places body).mapM read
        return (← sumPlaces 1 (.zero false) numbers.reverse).isZero
      else return (← read body).isZero

/-- The number of days of a month. -/
def daysIn (year month : Nat) : Nat :=
  let isLeap := year % 4 = 0 && (year % 100 ≠ 0 || year % 400 = 0)
  if month = 2 then if isLeap then 29 else 28
  else if month = 4 || month = 6 || month = 9 || month = 11 then 30
  else 31

/-- Check that a point in time exists. -/
def checkTime (text : List Code) : Except Fault Unit := do
  let body := if text.getLast? = some '\n' then text.dropLast else text
  match Plain.timeParts? body with
  | none => throw (.value .noTimestamp)
  | some parts =>
      let number (digits : List Code) : Nat := Text.digitsToNat 10 digits
      if let some (negative, hours, minutes) := parts.offset then
        let span := Int.ofNat (number hours * 60 + number minutes)
        if span ≥ 1440 then
          throw (.value (.offsetRange (if negative then -span else span)))
      let year := number parts.year
      let month := number parts.month
      let day := number parts.day
      if year = 0 then throw (.value (.yearRange year))
      if month = 0 || month > 12 then throw (.value .monthRange)
      if day = 0 || day > daysIn year month then throw (.value .dayRange)
      if let some (hour, minute, second) := parts.clock then
        if number hour > 23 then throw (.value .hourRange)
        if number minute > 59 then throw (.value .minuteRange)
        if number second > 59 then throw (.value .secondRange)

/-- The number of bytes that a text writes, four letters for three bytes. Other
characters are passed over, and marks that fill up a group end the text. -/
def byteCount (text : List Code) (start : Mark) : Except Fault Nat :=
  let isLetter (c : Code) : Bool :=
    Text.isAsciiLetter c || Text.isAsciiDigit c || c = '+' || c = '/'
  let rec loop (letters pads : Nat) : List Code → Nat × Bool
    | [] => (letters, false)
    | c :: rest =>
        if c = '=' then
          if letters % 4 ≥ 2 && letters % 4 + pads + 1 ≥ 4 then (letters, true)
          else loop letters (pads + 1) rest
        else if isLetter c then loop (letters + 1) 0 rest
        else loop letters pads rest
  if text.any fun c => c.toNat ≥ 128 then .error (.at none (.notAscii text) start)
  else
    let (letters, complete) := loop 0 0 text
    if complete || letters % 4 = 0 then .ok (letters * 3 / 4)
    else if letters % 4 = 1 then .error (.at none (.badSize letters) start)
    else .error (.at none .badPadding start)

/-- The words that are true, and those that are false. -/
def truth? (word : Text) : Option Bool :=
  if (["yes", "true", "on"] : List Text).contains word then some true
  else if (["no", "false", "off"] : List Text).contains word then some false
  else none

end ScalarText
end Yaml
end KindExpr
