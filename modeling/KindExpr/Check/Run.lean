import KindExpr.Check.Basic
import KindExpr.Value.Call
import KindExpr.Value.Render

/-!
# Running a check

A check looks at a value under a name and either accepts it or says which
value under which name it rejects for which reason. Alternatives are tried in
order and the rejection of the last one counts; members are examined in order
and the first rejection counts.

The tags of values come from a resolver. With the kinds of the values themselves a run
fails only if a search in a text has no outcome, or if a value that is rejected or that
names a member cannot be shown; a resolver that calls a value a container that it is not
makes the run fail too, because the value has no members to go through.
-/

namespace KindExpr

/-- The value that was rejected, the name it was reached under and the reason. -/
structure Rejection where
  value : Value
  name : Text
  reason : Text

/-- The message of a rejection. -/
def Rejection.message (rejected : Rejection) : Text :=
  rejection rejected.value rejected.name rejected.reason

/-- Why a check cannot go through a value. -/
inductive RunFault where
  | notIterable (typePath : Text)
  | noEntries (typePath : Text)
  /-- A class has no entries. -/
  | noEntriesOfClass (cls : Class)
  /-- A class of mappings has entries only for one of its instances. -/
  | entriesOfInstance (cls : Class)
  /-- The field that stands for the entries of a record cannot be called for them. -/
  | call (fault : CallFault)
  | notText (typePath : Text)
  | bytesForText
  /-- A value that is rejected, or that names a member, cannot be shown. -/
  | unwritable
  /-- A search has no outcome. -/
  | search (fault : Pattern.SearchFault)
  deriving Repr, DecidableEq

/-- The message of a fault. -/
def RunFault.message : RunFault → Text
  | notIterable typePath => "'" ++ typePath ++ "' object is not iterable"
  | noEntries typePath => "'" ++ typePath ++ "' object has no attribute 'items'"
  | noEntriesOfClass cls => "type object '" ++ cls.path ++ "' has no attribute 'items'"
  | entriesOfInstance .mapping =>
      "Mapping.items() missing 1 required positional argument: 'self'"
  | entriesOfInstance cls => "unbound method " ++ cls.name ++ ".items() needs an argument"
  | call fault => fault.message
  | unwritable => Numeral.tooLongToWrite
  | notText typePath => "expected string or bytes-like object, got '" ++ typePath ++ "'"
  | search fault => fault.message
  | bytesForText => "cannot use a string pattern on a bytes-like object"

/-- The tag of a value's own kind. -/
def Value.tag (value : Value) : Text :=
  value.kind.tag

/-! ## Names of members -/

/-- The name of an item or of a value in a map. -/
def itemName (name : Text) (index : Nat) : Text :=
  if name.isEmpty then toString index else name ++ "[" ++ toString index ++ "]"

/-- The name of a value in an object, if its key can be shown. -/
def fieldName? (name : Text) (key : Value) : Option Text :=
  key.plain?.map fun field => if name.isEmpty then field else name ++ "." ++ field

/-- The name of a key. -/
def keyName (name : Text) (index : Nat) : Text :=
  if name.isEmpty then "key " ++ toString index
  else "key " ++ toString index ++ " in " ++ name

/-! ## Members of values -/

/-- What one meets when going through a container: its items, or its keys. -/
def Container.elements? {α : Type} : Container α α → Option (List α)
  | list items => some items
  | tuple items => some items
  | set _ items => some items
  | mapping _ entries => some (entries.map Prod.fst)
  | record _ => none

/-- The items one meets when going through a value. -/
def Value.elements? : Value → Option (List Value)
  | .text value => some (value.toList.map fun c => .text (Text.singleton c))
  | .derivedText value => some (value.toList.map fun c => .text (Text.singleton c))
  | .bytes _ content => some (content.map fun byte => .integer (Int.ofNat byte.toNat))
  | .generator => some [.integer 1]
  | .point x y => some [x, y]
  | value => value.container?.bind Container.elements?

/-- The field of a record that is called for its entries. -/
def entriesField : Text := "items"

/-- The entries one meets when going through a value, or why there are none. A record
has those that a field of it gives; none of the values that can be called gives any. -/
def Value.entries (value : Value) : Except RunFault (List (Value × Value)) :=
  match value.container?, value with
  | some (.mapping _ entries), _ => .ok entries
  | some (.record fields), _ =>
      match fields.lookup entriesField with
      | none => .error (.noEntries value.typePath)
      | some field =>
          match field.make with
          | .ok .empty => .ok []
          | .ok (.single typePath _) => .error (.notIterable typePath)
          | .error fault => .error (.call fault)
  | none, .cls .dictionary => .error (.entriesOfInstance .dictionary)
  | none, .cls .orderedDictionary => .error (.entriesOfInstance .orderedDictionary)
  | none, .cls .mapping => .error (.entriesOfInstance .mapping)
  | none, .cls other => .error (.noEntriesOfClass other)
  | _, _ => .error (.noEntries value.typePath)

/-- One member of a container: a key to look at first, if there is one,
and a value, each with its name. A value that is named by a key has no
name if the key cannot be shown. -/
structure Member where
  key : Option (Value × Text)
  value : Value
  name : Option Text

/-- The members of an array with some items. -/
def itemMembers (name : Text) (items : List Value) : List Member :=
  items.mapIdx fun index item => ⟨none, item, some (itemName name index)⟩

/-- The members of an object with some entries. -/
def fieldMembers (name : Text) (entries : List (Value × Value)) : List Member :=
  entries.mapIdx fun index entry =>
    ⟨some (entry.1, keyName name index), entry.2, fieldName? name entry.1⟩

/-- The members of a map with some entries. -/
def entryMembers (name : Text) (entries : List (Value × Value)) : List Member :=
  entries.mapIdx fun index entry =>
    ⟨some (entry.1, keyName name index), entry.2, some (itemName name index)⟩

/-- The members of a value taken as a container of a shape. -/
def Shape.members (shape : Shape) (value : Value) (name : Text) :
    Except RunFault (List Member) :=
  match shape with
  | .array =>
      match value.elements? with
      | some items => .ok (itemMembers name items)
      | none => .error (.notIterable value.typePath)
  | .object => value.entries.map (fieldMembers name)
  | .map => value.entries.map (entryMembers name)

namespace Check

/-- What a check finds: nothing, or a rejection. -/
abbrev Outcome := Except RunFault (Option Rejection)

/-- The reason a kind test gives. -/
def kindReason (tag : Text) (negated : Bool) : Text :=
  if negated then "Expected anything other than " ++ tag else "Expected " ++ tag

/-- The reason a format test gives. -/
def formatReason (literal : Literal) : Text :=
  "Expected string of format " ++ literal.source

/-- Reject a value, which is shown for it. -/
def reject (value : Value) (name reason : Text) : Outcome :=
  if value.isWritable then .ok (some ⟨value, name, reason⟩) else .error .unwritable

/-- Test the kind of a value. -/
def testKind (tagOf : Value → Text) (tag : Text) (negated : Bool) (value : Value)
    (name : Text) : Outcome :=
  if (tagOf value = tag) ≠ negated then .ok none
  else reject value name (kindReason tag negated)

/-- Test the format of a value. -/
def testFormat (tagOf : Value → Text) (literal : Literal) (pattern : Pattern)
    (value : Value)
    (name : Text) : Outcome :=
  if tagOf value = Kind.string.tag then
    match value.text? with
    | some text =>
        match pattern.search text with
        | .ok true => .ok none
        | .ok false => reject value name (formatReason literal)
        | .error fault => .error (.search fault)
    | none =>
        match value with
        | .bytes _ _ => .error .bytesForText
        | _ => .error (.notText value.typePath)
  else reject value name (formatReason literal)

/-- The first rejection among some members, each key before its value. -/
def firstRejection (keyTest : Value → Text → Outcome) (test : Value → Text → Outcome) :
    List Member → Outcome
  | [] => .ok none
  | member :: rest => do
      let ofKey ←
        match member.key with
        | some (key, name) => keyTest key name
        | none => .ok none
      match ofKey with
      | some rejected => .ok (some rejected)
      | none =>
          match member.name with
          | none => .error .unwritable
          | some name =>
              match ← test member.value name with
              | some rejected => .ok (some rejected)
              | none => firstRejection keyTest test rest

mutual

/-- Run a check on a value under a name. -/
def run (tagOf : Value → Text) : Check → Value → Text → Outcome
  | .any checks, value, name => runAny tagOf checks value name
  | .kind tag negated, value, name => testKind tagOf tag negated value name
  | .format literal pattern, value, name => testFormat tagOf literal pattern value name
  | .container own shape member none, value, name => do
      match ← run tagOf own value name with
      | some rejected => .ok (some rejected)
      | none =>
          firstRejection (fun _ _ => .ok none)
            (fun item path => run tagOf member item path)
            (← shape.members value name)
  | .container own shape member (some key), value, name => do
      match ← run tagOf own value name with
      | some rejected => .ok (some rejected)
      | none =>
          firstRejection (fun item path => run tagOf key item path)
            (fun item path => run tagOf member item path) (← shape.members value name)

/-- Run the checks of a group until one passes. -/
def runAny (tagOf : Value → Text) : List Check → Value → Text → Outcome
  | [], _, _ => .ok none
  | [check], value, name => run tagOf check value name
  | check :: next :: rest, value, name => do
      match ← run tagOf check value name with
      | none => .ok none
      | some _ => runAny tagOf (next :: rest) value name

end

/-- Run a check with the kinds of the values themselves, and give
the message of the rejection. -/
def apply (check : Check) (value : Value) (name : Text) : Except RunFault (Option Text) :=
  (check.run Value.tag value name).map fun rejected => rejected.map Rejection.message

end Check
end KindExpr
