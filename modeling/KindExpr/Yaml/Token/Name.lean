import KindExpr.Yaml.Token
import KindExpr.Yaml.Token.Reading
import KindExpr.Text.Digit

/-!
# Anchors, tags and directives of YAML

The tokens that name something: a node by an anchor, its type by a tag, and the
handles of tags by a directive.
-/

namespace KindExpr
namespace Yaml

/-- Whether a character can stand in the name of an anchor, a handle or a directive. -/
def isNameChar (c : Code) : Bool :=
  Text.isAsciiDigit c || Text.isAsciiLetter c || c = '-' || c = '_'

/-- Whether a character can stand in the address of a tag. -/
def isAddressChar (c : Code) : Bool :=
  Text.isAsciiDigit c || Text.isAsciiLetter c ||
    ("-;/?:@&=+$,_.!~*'()[]%" : Text).toList.contains c

/-- Whether the name of an anchor may end before a character. -/
def endsAnchor (c : Code) : Bool :=
  isBlankOrEnd c || ("?:,]\x7d%@" : Text).toList.contains c || c.toNat = 0x60

namespace Reading

/-- A name of at least one character. -/
def nameText (context : Context) (start : Mark) : Reading Text := do
  let name := ((← get).takeWhile isNameChar).1
  if name.isEmpty then fail context start (.noName (← next))
  skip name.length
  return Text.ofList name

/-- The name after an anchor or alias indicator. -/
def anchorName (context : Context) : Reading Text := do
  let start ← mark
  skip 1
  let name ← nameText context start
  let c ← next
  unless endsAnchor c do fail context start (.noName c)
  return name

/-- Bytes that are written by percent signs and hexadecimal digits. -/
def addressBytes (context : Context) (start : Mark) :
    Nat → List UInt8 → Reading (List UInt8)
  | 0, bytes => return bytes
  | fuel + 1, bytes => do
      if (← next) = '%' then
        skip 1
        let first ← next
        unless Text.isHexDigit first do fail context start (.noAddressDigits first)
        let second ← peek 1
        unless Text.isHexDigit second do fail context start (.noAddressDigits second)
        skip 2
        addressBytes context start fuel
          (bytes ++ [UInt8.ofNat (Text.digitsToNat 16 [first, second])])
      else return bytes

/-- The text that bytes write in an address. -/
def addressEscape (context : Context) (start : Mark) : Reading (List Code) := do
  let place ← mark
  let bytes ← addressBytes context start (← get).fuel []
  match String.fromUTF8? ⟨bytes.toArray⟩ with
  | some text => return (text : Text).toList
  | none => throw (.at (some (context, some start)) (.badAddress bytes) place)

/-- The pieces of an address. -/
def addressText (context : Context) (start : Mark) : Nat → List Code → Reading (List Code)
  | 0, text => return text
  | fuel + 1, text => do
      let plain ← takeWhile fun c => isAddressChar c && c ≠ '%'
      if (← next) = '%' then
        let found ← addressEscape context start
        addressText context start fuel (text ++ plain ++ found)
      else return text ++ plain

/-- An address of at least one character. Two contexts are named in messages: one
for a missing address and one for a faulty escape. -/
def address (missing context : Context) (start : Mark) : Reading Text := do
  let c ← next
  unless isAddressChar c do fail missing start (.noAddress c)
  let text ← addressText context start (← get).fuel []
  return Text.ofList text

/-- The handle of a tag, with its exclamation marks. -/
def tagHandle (context : Context) (start : Mark) : Reading Text := do
  let c ← next
  if c ≠ '!' then fail context start (.noCharacter '!' c)
  if (← peek 1) = ' ' then
    skip 1
    return "!"
  else
    let name := ((← get).step.takeWhile isNameChar).1
    let stop ← peek (name.length + 1)
    if stop ≠ '!' then
      skip (name.length + 1)
      fail context start (.noCharacter '!' stop)
    skip (name.length + 2)
    return Text.ofList (.char '!' :: name ++ [.char '!'])

/-- The handle and the rest of a tag that does not start with an angle bracket. -/
def shortTag (start : Mark) : Reading (Option Text × Text) := do
  let word := (← get).step.rest.takeWhile fun c => !isSpaceOrEnd c
  let handle ←
    if word.contains '!' then tagHandle .tag start
    else do
      skip 1
      pure "!"
  return (some handle, ← address .tagName .tag start)

/-- A tag: its handle, if it has one, and the rest. -/
def tag : Reading (Option Text × Text) := do
  let start ← mark
  let second ← peek 1
  let found ←
    if second = '<' then do
      skip 2
      let suffix ← address .tagName .tag start
      let c ← next
      if c ≠ '>' then fail .tagName start (.noCharacter '>' c)
      skip 1
      pure (none, suffix)
    else if isBlankOrEnd second then do
      skip 1
      pure (none, "!")
    else shortTag start
  let c ← next
  unless isSpaceOrEnd c do fail .tag start (.noCharacter ' ' c)
  return found

/-- A number in a version. -/
def versionNumber (start : Mark) : Reading Nat := do
  let c ← next
  unless Text.isAsciiDigit c do fail .directive start (.noVersionDigit c)
  let input ← get
  let digits ← takeWhile Text.isAsciiDigit
  if digits.length > Numeral.maxDigits then
    set input
    throw (.value (.tooManyDigits digits.length))
  return Text.digitsToNat 10 digits

/-- The version of the language. -/
def versionDirective (start : Mark) : Reading Directive := do
  skipSpaces
  let major ← versionNumber start
  let c ← next
  if c ≠ '.' then fail .directive start (.noVersionPoint c)
  skip 1
  let _ ← versionNumber start
  let c ← next
  unless isSpaceOrEnd c do fail .directive start (.noVersionEnd c)
  return .version major

/-- A handle and what it stands for. -/
def handleDirective (start : Mark) : Reading Directive := do
  skipSpaces
  let handle ← tagHandle .directive start
  let c ← next
  if c ≠ ' ' then fail .directive start (.noCharacter ' ' c)
  skipSpaces
  let meaning ← address .directiveName .directive start
  let c ← next
  unless isSpaceOrEnd c do fail .directive start (.noCharacter ' ' c)
  return .handle handle meaning

/-- A directive and the place where it stops. -/
def directive : Reading (Directive × Mark) := do
  let start ← mark
  skip 1
  let name ← nameText .directive start
  let c ← next
  unless isSpaceOrEnd c do fail .directive start (.noName c)
  let found ←
    if name = "YAML" then versionDirective start
    else if name = "TAG" then handleDirective start
    else pure .other
  let stop ← mark
  if found = .other then
    let _ ← takeWhile fun c => !isLineEnd c
  endLine .directive start
  return (found, stop)

end Reading
end Yaml
end KindExpr
