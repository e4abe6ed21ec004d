import KindExpr.Expr.Parse
import KindExpr.Value.Call
import KindExpr.Value.Equal

/-!
# Expressions that are no texts

A value that is no text is read as an expression too, its items taking the place of
characters: an item that is a text of one character is read like this character, and of
the other items those that can tell whether they are blank.

`Value.itemAt` takes an item by its position, `Scan.stepItem` reads one outside of a
literal, and `Value.readExpression` goes through all of them.
-/

namespace KindExpr

/-- Why a value that is no text cannot be read as an expression,
or be the key of its check. -/
inductive SourceFault where
  /-- A value without a length. -/
  | noLength (typePath : Text)
  /-- A value whose items cannot be told by position. -/
  | noPositions (typePath : Text)
  /-- A mapping has nothing under a position. -/
  | noItem (position : Nat)
  /-- An item cannot tell whether it is blank. -/
  | noBlankTest (typePath : Text)
  /-- A class cannot tell whether it is blank. -/
  | noBlankTestOfClass (cls : Class)
  /-- A class can tell only of one of its instances whether it is blank. -/
  | blankTestOfInstance (cls : Class)
  /-- The field by which a record tells whether it is blank cannot be called. -/
  | call (fault : CallFault)
  /-- A value that is no key. -/
  | noKey (typePath : Text)
  /-- A number that is no key, because it must not be compared. -/
  | signalingKey
  /-- The items around a placeholder form no text. -/
  | noSplice (typeName : Text)
  /-- An item after a backslash is no text. -/
  | noEscape (typePath : Text)
  /-- A part of the body of a literal is no text. -/
  | noBodyPart (index : Nat) (typePath : Text)
  /-- The items form no expression. -/
  | malformed (fault : ParseFault) (position : Nat) (source : Value)
  /-- A value that a message tells of cannot be shown. -/
  | unwritable
  /-- A mapping grows with each item that is taken. -/
  | endless

namespace SourceFault

/-- The fault of items that form no expression, which are shown for it. -/
def located (source : Value) (position : Nat) (fault : ParseFault) : SourceFault :=
  if source.isWritable then .malformed fault position source else .unwritable

/-- The message of a fault. -/
def message : SourceFault → Text
  | noLength typePath => "object of type '" ++ typePath ++ "' has no len()"
  | noPositions typePath => "'" ++ typePath ++ "' object is not subscriptable"
  | noItem position => toString position
  | noBlankTest typePath => "'" ++ typePath ++ "' object has no attribute 'isspace'"
  | noBlankTestOfClass cls =>
      "type object '" ++ cls.path ++ "' has no attribute 'isspace'"
  | blankTestOfInstance cls =>
      "unbound method " ++ cls.name ++ ".isspace() needs an argument"
  | call fault => fault.message
  | noKey typePath => "unhashable type: '" ++ typePath ++ "'"
  | signalingKey => "Cannot hash a signaling NaN value"
  | noSplice typeName =>
      "can only concatenate " ++ typeName ++ " (not \"str\") to " ++ typeName
  | noEscape typePath => "can only concatenate str (not \"" ++ typePath ++ "\") to str"
  | noBodyPart index typePath =>
      "sequence item " ++ toString index ++ ": expected str instance, " ++
        typePath ++ " found"
  | malformed fault position source => (ParseError.mk fault position source.plain).message
  | unwritable => Numeral.tooLongToWrite
  | endless => ""

end SourceFault

namespace Value

/-! ## Items by position -/

/-- What a mapping holds under a position. -/
def entryAt? (entries : List (Value × Value)) (position : Nat) : Option Value :=
  (entries.find? fun entry =>
    sameKey entry.1 (.integer (Int.ofNat position))).map Prod.snd

/-- Whether a value is a mapping with a default. -/
def isDefaulting (value : Value) : Bool :=
  value.container?.any fun
    | .mapping .defaulting _ => true
    | _ => false

/-- A mapping with a further entry at its end. -/
def withEntry (key item : Value) : Value → Value
  | .mapping form entries => .mapping form (entries ++ [(key, item)])
  | .linked outside web place =>
      match web.container place with
      | .mapping form entries =>
          let entry := (outside.length, Link.outside (outside.length + 1))
          .linked (outside ++ [key, item])
            (web.set place (.mapping form (entries ++ [entry]))) place
      | _ => .linked outside web place
  | other => other

/-- The item of a value at a position, with the value afterwards. A mapping with a
default holds an empty list from then on where it had nothing. -/
def itemAt (source : Value) (position : Nat) : Except SourceFault (Value × Value) :=
  let found : Option Value → Except SourceFault (Value × Value)
    | some item => .ok (item, source)
    | none => .error (.noItem position)
  match source with
  | .bytes _ content =>
      found (content[position]?.map fun byte => .integer (Int.ofNat byte.toNat))
  | _ =>
      match source.items?, source.entries? with
      | some items, _ => found items[position]?
      | none, some entries =>
          let item := entryAt? entries position
          if item.isNone && source.isDefaulting then
            .ok (.list [], source.withEntry (.integer (Int.ofNat position)) (.list []))
          else found item
      | none, none => .error (.noPositions source.typePath)

/-! ## Blanks and keys -/

/-- The field of a record that is called to tell whether it is blank. -/
def blankField : Text := "isspace"

/-- Whether a byte stands for a blank character. -/
def isBlankByte (byte : UInt8) : Bool :=
  byte = 32 || (9 ≤ byte && byte ≤ 13)

/-- Whether an item is blank. A text and a sequence of bytes are blank
when they hold blanks only. -/
def blankTest (item : Value) : Except SourceFault Bool :=
  match item with
  | .text content => .ok (!content.isEmpty && content.toList.all Text.isBlank)
  | .derivedText content => .ok (!content.isEmpty && content.toList.all Text.isBlank)
  | .bytes .fixed content => .ok (!content.isEmpty && content.all isBlankByte)
  | .bytes .mutable content => .ok (!content.isEmpty && content.all isBlankByte)
  | .cls .text => .error (.blankTestOfInstance .text)
  | .cls .bytes => .error (.blankTestOfInstance .bytes)
  | .cls other => .error (.noBlankTestOfClass other)
  | _ =>
      match item.container? with
      | some (.record fields) =>
          match fields.lookup blankField with
          | some field => (field.make.map Fresh.truth).mapError .call
          | none => .error (.noBlankTest item.typePath)
      | _ => .error (.noBlankTest item.typePath)

end Value

/-- Why a container is no key, if it is none. What can change is no key, and neither is a
tuple with an item that is none. -/
def Container.keyFault? (container : Container Unit (Option SourceFault)) :
    Option SourceFault :=
  match container with
  | tuple items => items.findSome? id
  | set .frozen _ => none
  | _ => some (.noKey container.typePath)

/-- Why the container at a place of a web is no key, if it is none. -/
def Web.keyFault? (web : Web) (outside : List (Option SourceFault)) (place : Nat) :
    Option SourceFault :=
  web.fold
    { key := fun _ => ()
      outside := fun index => outside.getD index none
      point := Option.or
      container := fun _ => Container.keyFault?
      again := fun _ => none }
    place

namespace Value

mutual

/-- Why a value is no key, if it is none. -/
def keyFault? : Value → Option SourceFault
  | .tuple items => Container.keyFault? (.tuple (keyFaultEach items))
  | .point x y => (keyFault? x).or (keyFault? y)
  | .decimal (.nan _ true _) => some .signalingKey
  | .bytes .mutable _ => some (.noKey BytesForm.mutable.typeName)
  | .linked outside web place => web.keyFault? (keyFaultEach outside) place
  | value => (value.container?.map (Container.map (fun _ => ()) fun _ => none)).bind
      Container.keyFault?

/-- Why several values are no keys, those of them that are none. -/
def keyFaultEach : List Value → List (Option SourceFault)
  | [] => []
  | value :: rest => keyFault? value :: keyFaultEach rest

end

/-- Why a value cannot be looked for in a set, if it cannot.
It has to be a key, or a set. -/
def lookupFault? (value : Value) : Option SourceFault :=
  match value.container? with
  | some (.set _ _) => none
  | _ => value.keyFault?

end Value

/-! ## Reading items -/

/-- Read an item outside of a literal. -/
def Scan.stepItem (scan : Scan) (source : Value) (position : Nat) (item : Value) :
    Except SourceFault Scan :=
  match item.text?.map Text.toList with
  | some [c] => (scan.stepPlain c).mapError (.located source position)
  | _ => do
      if ← item.blankTest then return scan
      match item.lookupFault? with
      | some fault => throw fault
      | none =>
          let token := item.plain
          throw (.located source position
            (if scan.current.hasContent then .unknown token else .early token))

/-- What the next item belongs to. The parts of the body of a literal and its flag
letters are kept with the latest first. -/
inductive ItemMode where
  | plain
  | body (parts : List Value)
  | flags (parts : List Value) (letters : List Code)

/-- The text that some parts make, the first of which has an index. -/
def joinParts : Nat → List Value → Except SourceFault Text
  | _, [] => .ok ""
  | index, part :: rest =>
      match part.text? with
      | none => .error (.noBodyPart index part.typePath)
      | some text => (joinParts (index + 1) rest).map (text ++ ·)

/-- End a literal with the parts of its body and its flag letters. -/
def Scan.endLiteral (scan : Scan) (parts : List Value) (letters : List Code) :
    Except SourceFault Scan :=
  (joinParts 0 parts.reverse).map fun body =>
    scan.update fun node =>
      { node with literal := some ⟨body, Text.ofList letters.reverse⟩ }

/-- The fault of a placeholder, for which items have no place. -/
def placeholderFault (source : Value) (position : Nat) (placeholders : List Value) :
    SourceFault :=
  match placeholders with
  | [] => .located source position .missingValue
  | value :: _ =>
      match value.replacement? with
      | none =>
          if value.isWritable then
            .located source position (.unsupportedValue value.display)
          else .unwritable
      | some replacement =>
          if replacement.isEmpty then .located source position .emptyValue
          else
            match source.container?, source with
            | some (.list _), _ => .noSplice "list"
            | some (.tuple _), _ => .noSplice "tuple"
            | none, .point _ _ => .noSplice "tuple"
            | _, _ => .noKey "slice"

/-- The state of reading a value item by item. -/
structure ItemScan where
  /-- The value, which may have grown. -/
  source : Value
  position : Nat
  mode : ItemMode
  scan : Scan

namespace ItemScan

/-- Go on after some items. -/
def advance (state : ItemScan) (count : Nat) (mode : ItemMode) : ItemScan :=
  { state with position := state.position + count, mode }

/-- Read an item outside of a literal, or a placeholder. A
literal starts with an empty body. -/
def stepPlain (state : ItemScan) (placeholders : List Value) (item : Value) :
    Except SourceFault ItemScan :=
  if item.text? = some "$" then
    .error (placeholderFault state.source state.position placeholders)
  else do
    let next ← state.scan.stepItem state.source state.position item
    match next.mode with
    | .plain => return { state.advance 1 .plain with scan := next }
    | _ => return { state.advance 1 (.body []) with scan := { next with mode := .plain } }

/-- Read an item of the body of a literal. A backslash takes the next item along. -/
def stepBody (state : ItemScan) (parts : List Value) (length : Nat) (item : Value) :
    Except SourceFault ItemScan :=
  if item.text? = some (Text.singleton Literal.escape) then do
    if state.position + 1 ≥ length then
      throw (.located state.source state.position .unterminatedLiteral)
    let (next, source) ← state.source.itemAt (state.position + 1)
    match next.text? with
    | some text =>
        let part := Value.text (Text.singleton Literal.escape ++ text)
        return { state.advance 2 (.body (part :: parts)) with source }
    | none => throw (.noEscape next.typePath)
  else if item.text? = some (Text.singleton Literal.delimiter) then
    .ok (state.advance 1 (.flags parts []))
  else .ok (state.advance 1 (.body (item :: parts)))

/-- Read an item after the body of a literal: a flag letter,
or what follows the literal. -/
def stepFlags (state : ItemScan) (placeholders parts : List Value) (letters : List Code)
    (item : Value) : Except SourceFault ItemScan :=
  let afterLiteral : Except SourceFault ItemScan :=
    match item.lookupFault? with
    | some fault => .error fault
    | none => do
        let ended ← state.scan.endLiteral parts letters
        { state with mode := .plain, scan := ended }.stepPlain placeholders item
  match item.text?.map Text.toList with
  | some [c] =>
      if Text.isAsciiLetter c then .ok (state.advance 1 (.flags parts (c :: letters)))
      else afterLiteral
  | _ => afterLiteral

/-- End the reading after the last item. -/
def finish (state : ItemScan) : Except SourceFault (List Alternative) :=
  let ended (scan : Scan) : Except SourceFault (List Alternative) :=
    scan.finish.mapError fun fault => .located state.source state.position fault.1
  match state.mode with
  | .plain => ended state.scan
  | .body _ => .error (.located state.source state.position .unterminatedLiteral)
  | .flags parts letters => (state.scan.endLiteral parts letters).bind ended

/-- Read all items from a state on, of which there may be so many. -/
def run (placeholders : List Value) :
    Nat → ItemScan → Except SourceFault (List Alternative)
  | 0, _ => .error .endless
  | bound + 1, state =>
      match state.source.length? with
      | none => .error (.noLength state.source.typePath)
      | some length =>
          if state.position < length then do
            let (item, source) ← state.source.itemAt state.position
            let current := { state with source }
            let next ←
              match current.mode with
              | .plain => current.stepPlain placeholders item
              | .body parts => current.stepBody parts (source.length?.getD length) item
              | .flags parts letters => current.stepFlags placeholders parts letters item
            run placeholders bound next
          else state.finish

end ItemScan

/-- How many items a mapping with a default may grow by while it is read. -/
def growthBound : Nat := 10000

/-- Read a value that is no text as an expression with placeholder values. -/
def Value.readExpression (source : Value) (placeholders : List Value) :
    Except SourceFault (List Alternative) :=
  ItemScan.run placeholders (source.length?.getD 0 + growthBound)
    ⟨source, 0, .plain, .start⟩

end KindExpr
