import KindExpr.Text.Quoted

/-!
# Encoded text

Where a sequence of bytes stops being UTF-8, and where a text stops being ASCII.
A faulty stretch is the longest start of a character that is well formed so far,
or the single byte that no character starts with.
-/

namespace KindExpr
namespace Text

/-- Why bytes are no text. -/
inductive ByteProblem where
  | invalidStart
  | invalidContinuation
  | unexpectedEnd
  deriving Repr, DecidableEq

/-- The text of a problem. -/
def ByteProblem.text : ByteProblem → Text
  | invalidStart => "invalid start byte"
  | invalidContinuation => "invalid continuation byte"
  | unexpectedEnd => "unexpected end of data"

/-- The number of bytes of a character that starts with a byte, and
the range of its second byte. -/
def characterForm? (first : Nat) : Option (Nat × Nat × Nat) :=
  if first < 0x80 then some (1, 0, 0)
  else if first < 0xc2 then none
  else if first < 0xe0 then some (2, 0x80, 0xbf)
  else if first = 0xe0 then some (3, 0xa0, 0xbf)
  else if first = 0xed then some (3, 0x80, 0x9f)
  else if first < 0xf0 then some (3, 0x80, 0xbf)
  else if first = 0xf0 then some (4, 0x90, 0xbf)
  else if first < 0xf4 then some (4, 0x80, 0xbf)
  else if first = 0xf4 then some (4, 0x80, 0x8f)
  else none

/-- Check the bytes of a character after its first one: the size of the faulty
stretch, or nothing when the character is complete. -/
def continuationFault? (low high : Nat) :
    Nat → Nat → List UInt8 → Option (Nat × ByteProblem)
  | _, 0, _ => none
  | size, _ + 1, [] => some (size, .unexpectedEnd)
  | size, missing + 1, byte :: rest =>
      if low ≤ byte.toNat ∧ byte.toNat ≤ high then
        continuationFault? 0x80 0xbf (size + 1) missing rest
      else some (size, .invalidContinuation)

/-- The first faulty stretch of some bytes: its position, its bytes and its problem. -/
def byteFault? (position : Nat) :
    Nat → List UInt8 → Option (Nat × List UInt8 × ByteProblem)
  | 0, _ => none
  | _ + 1, [] => none
  | fuel + 1, first :: rest =>
      match characterForm? first.toNat with
      | none => some (position, [first], .invalidStart)
      | some (size, low, high) =>
          match continuationFault? low high 1 (size - 1) rest with
          | some (length, problem) =>
              some (position, (first :: rest).take length, problem)
          | none => byteFault? (position + size) fuel (rest.drop (size - 1))

/-- The message for bytes that are not UTF-8. -/
def utf8Message (bytes : List UInt8) : Text :=
  match byteFault? 0 (bytes.length + 1) bytes with
  | none => ""
  | some (position, stretch, problem) =>
      let place : Text :=
        match stretch with
        | [byte] =>
            "byte 0x" ++ hexDigits 2 byte.toNat ++ " in position " ++ toString position
        | _ =>
            "bytes in position " ++ toString position ++ "-" ++
              toString (position + stretch.length - 1)
      "'utf-8' codec can't decode " ++ place ++ ": " ++ problem.text

/-- The message for a stretch of a text at a position that a codec has no bytes for. -/
def encodingMessage
    (codec : Text)
    (position : Nat)
    (stretch : List Code)
    (reason : Text) : Text :=
  let place : Text :=
    match stretch with
    | [c] => "character " ++ escapedCharacter c ++ " in position " ++ toString position
    | _ =>
        "characters in position " ++ toString position ++ "-" ++
          toString (position + stretch.length - 1)
  "'" ++ codec ++ "' codec can't encode " ++ place ++ ": " ++ reason
where
  /-- A code point beyond ASCII as an escape between quotation marks. -/
  escapedCharacter (c : Code) : Text :=
    let code := c.toNat
    if code < 0x100 then "'\\x" ++ hexDigits 2 code ++ "'"
    else if code < 0x10000 then "'\\u" ++ hexDigits 4 code ++ "'"
    else "'\\U" ++ hexDigits 8 code ++ "'"

/-- The message for a text that is not ASCII. -/
def asciiMessage (text : List Code) : Text :=
  let isAscii (c : Code) : Bool := c.toNat < 128
  let position := (text.takeWhile isAscii).length
  let stretch := (text.drop position).takeWhile fun c => !isAscii c
  encodingMessage "ascii" position stretch "ordinal not in range(128)"

end Text
end KindExpr
