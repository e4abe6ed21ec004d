import KindExpr.Proofs.Outcome
import KindExpr.Proofs.Value.Web
import KindExpr.Value.Render

/-!
# Values in messages are JSON or shown as they are

`IsJson` says which text a value has in JSON, by the parts that rendering enters: the
items of lists, tuples and sets and the values of dictionaries. Everything else that is
no scalar is opaque, and its text is that of how it is shown. `HasNoJson` says why a
value has no text: rendering comes upon a dictionary with a key that has no name, or
upon a container that contains itself, however long the way is on which it does.

Every value has either one text in JSON or such a reason. In a message it stands as that
text, and otherwise as it is shown in full, with nothing left of the JSON of its parts.
-/

namespace KindExpr
namespace Value

/-! ## Parts -/

/-- The JSON text of null, a truth value, an integer, a
floating-point number or a text. -/
def scalarJson? : Value → Option Text
  | .null => some "null"
  | .boolean value => some (if value then "true" else "false")
  | .integer value => some (toString value)
  | .derivedInteger value => some (toString value)
  | .float value => some value.json
  | value => value.text?.map Json.quote

/-- The items of a value that is an array in JSON: a list, a tuple or a set. -/
def arrayItems? (value : Value) : Option (List Value) :=
  match value.container? with
  | some (.set _ items) => some items
  | _ => value.items?

/-- The entries of a value that is an object in JSON: a dictionary. -/
def objectEntries? (value : Value) : Option (List (Value × Value)) :=
  match value.container? with
  | some (.mapping form entries) => if form.isDictionary then some entries else none
  | _ => none

/-- Whether rendering a value as JSON enters another one. -/
inductive IsPart (whole part : Value) : Prop
  | item {items : List Value}
      (hasItems : whole.arrayItems? = some items)
      (isItem : part ∈ items)
  | field {entries : List (Value × Value)} {key : Value}
      (hasEntries : whole.objectEntries? = some entries)
      (isEntry : (key, part) ∈ entries)

/-- Whether a dictionary has a key that is no text, number, truth value or null. -/
def HasNamelessKey (value : Value) : Prop :=
  ∃ entries, value.objectEntries? = some entries ∧
    ∃ entry ∈ entries, entry.1.scalarJson? = none

/-- Whether a value has no JSON: there is a dictionary in it, as far as rendering enters
it, with a key that has no name, or a container that contains itself. -/
def HasNoJson (value : Value) : Prop :=
  ∃ container, Relation.ReflTransGen IsPart value container ∧
    (container.HasNamelessKey ∨ Relation.TransGen IsPart container container)

/-- A value has no JSON if one of its parts has none. -/
theorem HasNoJson.ofPart {whole part : Value} (noJson : part.HasNoJson)
    (isPart : IsPart whole part) : whole.HasNoJson := by
  obtain ⟨container, reaches, reason⟩ := noJson
  exact ⟨container, .head isPart reaches, reason⟩

/-- A value without JSON has a nameless key, or a part without JSON. -/
theorem HasNoJson.cases {value : Value} (noJson : value.HasNoJson) :
    value.HasNamelessKey ∨ ∃ part, IsPart value part ∧ part.HasNoJson := by
  obtain ⟨container, reaches, reason⟩ := noJson
  rcases Relation.ReflTransGen.cases_head reaches with rfl | ⟨part, isPart, reachesOn⟩
  · refine reason.imp_right fun containsItself => ?_
    -- The part on the way back to the value contains itself as well.
    obtain ⟨part, isPart, returns⟩ := Relation.TransGen.head'_iff.mp containsItself
    exact ⟨part, isPart, part, .refl, .inr (.tail' returns isPart)⟩
  · exact .inr ⟨part, isPart, container, reachesOn, reason⟩

/-! ## Texts -/

/-- Whether a key has a name in JSON. A text is its own name, and the name of any other
scalar is its JSON text. -/
inductive IsNamed (key : Value) (name : Text) : Prop
  | text (isText : key.text? = some name)
  | scalar (noText : key.text? = none) (isScalar : key.scalarJson? = some name)

mutual

/-- Whether a value has a text in JSON. -/
inductive IsJson : Value → Text → Prop
  | scalar {value : Value} {text : Text}
      (isScalar : value.scalarJson? = some text) :
      IsJson value text
  | array {value : Value} {items : List Value} {texts : List Text}
      (hasItems : value.arrayItems? = some items)
      (areJson : AreJson items texts) :
      IsJson value ("[" ++ Text.intercalate ", " texts ++ "]")
  | object {value : Value} {entries : List (Value × Value)} {fields : List Text}
      (hasEntries : value.objectEntries? = some entries)
      (areFields : AreFields entries fields) :
      IsJson value ("\x7b" ++ Text.intercalate ", " fields ++ "\x7d")
  | other {value : Value}
      (noScalar : value.scalarJson? = none)
      (noItems : value.arrayItems? = none)
      (noEntries : value.objectEntries? = none) :
      IsJson value (Json.quote value.display)

/-- Whether several values have texts in JSON, in order. -/
inductive AreJson : List Value → List Text → Prop
  | nil : AreJson [] []
  | cons {value : Value} {rest : List Value} {text : Text} {texts : List Text}
      (isJson : IsJson value text)
      (areJson : AreJson rest texts) :
      AreJson (value :: rest) (text :: texts)

/-- Whether the entries of a dictionary are fields in JSON, in order. -/
inductive AreFields : List (Value × Value) → List Text → Prop
  | nil : AreFields [] []
  | cons {key value : Value} {rest : List (Value × Value)} {name text : Text}
      {fields : List Text}
      (isNamed : key.IsNamed name)
      (isJson : IsJson value text)
      (areFields : AreFields rest fields) :
      AreFields ((key, value) :: rest) ((Json.quote name ++ ": " ++ text) :: fields)

end

/-! ## One text at most -/

section

variable {value : Value}

/-- A scalar holds nothing. -/
theorem noItems_of_scalarJson? {text : Text} (isScalar : value.scalarJson? = some text) :
    value.arrayItems? = none ∧ value.objectEntries? = none := by
  cases value with
  | null | boolean _ | integer _ | derivedInteger _ | float _ | text _ | derivedText _ =>
      exact ⟨rfl, rfl⟩
  | _ => cases isScalar

/-- An object is no array. -/
theorem arrayItems?_of_objectEntries? {entries : List (Value × Value)}
    (hasEntries : value.objectEntries? = some entries) : value.arrayItems? = none := by
  unfold objectEntries? at hasEntries
  split at hasEntries
  · rename_i isMapping
    cases value with
    | point x y => cases isMapping
    | _ => simp [arrayItems?, items?, isMapping, Container.items?]
  · cases hasEntries

theorem IsNamed.unique {key : Value} {name other : Text} (isNamed : key.IsNamed name)
    (isNamedToo : key.IsNamed other) : name = other := by
  cases isNamed with
  | text isText =>
      cases isNamedToo with
      | text isTextToo => exact Option.some.inj (isText.symm.trans isTextToo)
      | scalar noText => cases isText.symm.trans noText
  | scalar noText isScalar =>
      cases isNamedToo with
      | text isText => cases noText.symm.trans isText
      | scalar _ isScalarToo => exact Option.some.inj (isScalar.symm.trans isScalarToo)

end

mutual

/-- A value has no more than one text in JSON. -/
theorem IsJson.unique {value : Value} {text other : Text} (isJson : IsJson value text)
    (isJsonToo : IsJson value other) : text = other := by
  match isJson, isJsonToo with
  | .scalar isScalar, .scalar isScalarToo =>
      exact Option.some.inj (isScalar.symm.trans isScalarToo)
  | .array hasItems areJson, .array hasItemsToo areJsonToo =>
      cases hasItems.symm.trans hasItemsToo
      rw [areJson.unique areJsonToo]
  | .object hasEntries areFields, .object hasEntriesToo areFieldsToo =>
      cases hasEntries.symm.trans hasEntriesToo
      rw [areFields.unique areFieldsToo]
  | .other _ _ _, .other _ _ _ => rfl
  | .scalar isScalar, .array hasItems _ =>
      cases (noItems_of_scalarJson? isScalar).1.symm.trans hasItems
  | .scalar isScalar, .object hasEntries _ =>
      cases (noItems_of_scalarJson? isScalar).2.symm.trans hasEntries
  | .scalar isScalar, .other noScalar _ _ => cases isScalar.symm.trans noScalar
  | .array hasItems _, .scalar isScalar =>
      cases (noItems_of_scalarJson? isScalar).1.symm.trans hasItems
  | .array hasItems _, .object hasEntries _ =>
      cases (arrayItems?_of_objectEntries? hasEntries).symm.trans hasItems
  | .array hasItems _, .other _ noItems _ => cases hasItems.symm.trans noItems
  | .object hasEntries _, .scalar isScalar =>
      cases (noItems_of_scalarJson? isScalar).2.symm.trans hasEntries
  | .object hasEntries _, .array hasItems _ =>
      cases (arrayItems?_of_objectEntries? hasEntries).symm.trans hasItems
  | .object hasEntries _, .other _ _ noEntries => cases hasEntries.symm.trans noEntries
  | .other noScalar _ _, .scalar isScalar => cases isScalar.symm.trans noScalar
  | .other _ noItems _, .array hasItems _ => cases hasItems.symm.trans noItems
  | .other _ _ noEntries, .object hasEntries _ => cases hasEntries.symm.trans noEntries

theorem AreJson.unique {items : List Value} {texts others : List Text}
    (areJson : AreJson items texts) (areJsonToo : AreJson items others) :
    texts = others := by
  match areJson, areJsonToo with
  | .nil, .nil => rfl
  | .cons isJson later, .cons isJsonToo laterToo =>
      rw [isJson.unique isJsonToo, later.unique laterToo]

theorem AreFields.unique {entries : List (Value × Value)} {fields others : List Text}
    (areFields : AreFields entries fields) (areFieldsToo : AreFields entries others) :
    fields = others := by
  match areFields, areFieldsToo with
  | .nil, .nil => rfl
  | .cons isNamed isJson later, .cons isNamedToo isJsonToo laterToo =>
      rw [isNamed.unique isNamedToo, isJson.unique isJsonToo, later.unique laterToo]

end

/-! ## No reason against a text -/

/-- A value has no reason to have no JSON if its items and its entries have none. -/
theorem not_hasNoJson_of {value : Value}
    (ofItems : ∀ items, value.arrayItems? = some items →
      ∀ item ∈ items, ¬ item.HasNoJson)
    (ofEntries : ∀ entries, value.objectEntries? = some entries →
      ∀ entry ∈ entries, entry.1.scalarJson? ≠ none ∧ ¬ entry.2.HasNoJson) :
    ¬ value.HasNoJson := by
  intro noJson
  rcases noJson.cases with ⟨entries, hasEntries, entry, isEntry, noName⟩ |
    ⟨part, isPart, noJson⟩
  · exact (ofEntries entries hasEntries entry isEntry).1 noName
  · cases isPart with
    | item hasItems isItem => exact ofItems _ hasItems part isItem noJson
    | field hasEntries isEntry => exact (ofEntries _ hasEntries _ isEntry).2 noJson

theorem IsNamed.scalarJson?_ne_none {key : Value} {name : Text}
    (isNamed : key.IsNamed name) :
    key.scalarJson? ≠ none := by
  cases isNamed with
  | text isText =>
      cases key with
      | text _ | derivedText _ => nofun
      | _ => cases isText
  | scalar _ isScalar =>
      rw [isScalar]
      nofun

mutual

/-- A value with a text in JSON has no reason to have none. -/
theorem IsJson.not_hasNoJson {value : Value} {text : Text} (isJson : IsJson value text) :
    ¬ value.HasNoJson := by
  match isJson with
  | .scalar isScalar =>
      have ⟨noItems, noEntries⟩ := noItems_of_scalarJson? isScalar
      refine not_hasNoJson_of (fun items hasItems => ?_) fun entries hasEntries => ?_
      · cases noItems.symm.trans hasItems
      · cases noEntries.symm.trans hasEntries
  | .array hasItems areJson =>
      refine not_hasNoJson_of (fun items hasItemsToo => ?_) fun entries hasEntries => ?_
      · cases hasItems.symm.trans hasItemsToo
        exact areJson.not_hasNoJson
      · cases hasItems.symm.trans (arrayItems?_of_objectEntries? hasEntries)
  | .object hasEntries areFields =>
      refine not_hasNoJson_of (fun items hasItems => ?_) fun entries hasEntriesToo => ?_
      · cases hasItems.symm.trans (arrayItems?_of_objectEntries? hasEntries)
      · cases hasEntries.symm.trans hasEntriesToo
        exact areFields.not_hasNoJson
  | .other _ noItems noEntries =>
      refine not_hasNoJson_of (fun items hasItems => ?_) fun entries hasEntries => ?_
      · cases noItems.symm.trans hasItems
      · cases noEntries.symm.trans hasEntries

theorem AreJson.not_hasNoJson {items : List Value} {texts : List Text}
    (areJson : AreJson items texts) : ∀ item ∈ items, ¬ item.HasNoJson := by
  match areJson with
  | .nil => exact List.forall_mem_nil _
  | .cons isJson later =>
      exact List.forall_mem_cons.mpr ⟨isJson.not_hasNoJson, later.not_hasNoJson⟩

/-- The keys of a dictionary with a text have names, and its values have texts. -/
theorem AreFields.not_hasNoJson {entries : List (Value × Value)} {fields : List Text}
    (areFields : AreFields entries fields) :
    ∀ entry ∈ entries, entry.1.scalarJson? ≠ none ∧ ¬ entry.2.HasNoJson := by
  match areFields with
  | .nil => exact List.forall_mem_nil _
  | .cons isNamed isJson later =>
      exact List.forall_mem_cons.mpr
        ⟨⟨isNamed.scalarJson?_ne_none, isJson.not_hasNoJson⟩, later.not_hasNoJson⟩

end

/-! ## Rendering a container -/

theorem jsonKey?_eq_none_iff {key : Value} :
    key.jsonKey? = none ↔ key.scalarJson? = none := by
  cases key <;> simp [jsonKey?, scalarJson?, text?]

theorem isNamed_of_jsonKey? {key : Value} {name : Text}
    (hasName : key.jsonKey? = some name) :
    key.IsNamed name := by
  cases key with
  | text _ | derivedText _ => exact .text hasName
  | null | boolean _ | integer _ | derivedInteger _ | float _ => exact .scalar rfl hasName
  | _ => cases hasName

section

variable {κ π : Type} {ofKey : κ → Value} {ofPart : π → Value} {found : π → Option Text}

/-- Items are rendered as an array if each of them is rendered. -/
theorem exists_areJson {items : List π} {text : Text}
    (areJson : ∀ item ∈ items, ∀ text, found item = some text → IsJson (ofPart item) text)
    (hasText : Json.array? (items.map found) = some text) :
    ∃ texts, AreJson (items.map ofPart) texts ∧
      text = "[" ++ Text.intercalate ", " texts ++ "]" := by
  obtain ⟨texts, areFound, rfl⟩ := Option.map_eq_some_iff.mp hasText
  refine ⟨texts, ?_, rfl⟩
  clear hasText
  induction items generalizing texts with
  | nil =>
      cases areFound
      exact .nil
  | cons item rest inductionHypothesis =>
      obtain ⟨isJson, areLater⟩ := List.forall_mem_cons.mp areJson
      rw [List.map_cons, List.mapM_cons, id, Option.bind_eq_bind,
        Option.bind_eq_some_iff] at areFound
      obtain ⟨text, isFound, areFound⟩ := areFound
      obtain ⟨others, areOthers, isAll⟩ := Option.bind_eq_some_iff.mp areFound
      cases isAll
      exact .cons (isJson text isFound) (inductionHypothesis areLater others areOthers)

/-- Entries are rendered as an object if each key has a name
and each value is rendered. -/
theorem exists_areFields {entries : List (κ × π)} {text : Text}
    (areJson : ∀ entry ∈ entries, ∀ text, found entry.2 = some text →
      IsJson (ofPart entry.2) text)
    (hasText : Json.object?
      (entries.map fun entry => ((ofKey entry.1).jsonKey?, found entry.2)) = some text) :
    ∃ fields, AreFields (entries.map fun entry =>
      (ofKey entry.1, ofPart entry.2)) fields ∧
      text = "\x7b" ++ Text.intercalate ", " fields ++ "\x7d" := by
  obtain ⟨fields, areFound, rfl⟩ := Option.map_eq_some_iff.mp hasText
  refine ⟨fields, ?_, rfl⟩
  clear hasText
  induction entries generalizing fields with
  | nil =>
      cases areFound
      exact .nil
  | cons entry rest inductionHypothesis =>
      obtain ⟨isJson, areLater⟩ := List.forall_mem_cons.mp areJson
      rw [List.map_cons, List.mapM_cons, Option.bind_eq_bind,
        Option.bind_eq_some_iff] at areFound
      obtain ⟨field, isField, areFound⟩ := areFound
      obtain ⟨others, areOthers, isAll⟩ := Option.bind_eq_some_iff.mp areFound
      cases isAll
      cases hasName : (ofKey entry.1).jsonKey? with
      | none =>
          rw [hasName] at isField
          cases isField
      | some name =>
          cases isFound : found entry.2 with
          | none =>
              rw [hasName, isFound] at isField
              cases isField
          | some text =>
              rw [hasName, isFound] at isField
              cases isField
              exact .cons (isNamed_of_jsonKey? hasName) (isJson text isFound)
                (inductionHypothesis areLater others areOthers)

variable {container : Container κ π} {value : Value}

/-- A container that is rendered has its text in JSON if its parts have theirs. -/
theorem isJson_of_container
    (isContainer : value.container? = some (container.map ofKey ofPart))
    (areJson : ∀ part ∈ container.parts, ∀ text, found part = some text →
      IsJson (ofPart part) text)
    {text : Text}
    (hasText : (container.map (jsonKey? ∘ ofKey) found).json? value = some text) :
    IsJson value text := by
  have noScalar : value.scalarJson? = none := by
    cases value <;> first | rfl | cases isContainer
  have hasOwnItems := items?_of_container? isContainer
  cases container with
  | list items | tuple items =>
      obtain ⟨texts, areTexts, rfl⟩ := exists_areJson areJson hasText
      refine .array ?_ areTexts
      rw [arrayItems?, isContainer]
      exact hasOwnItems
  | set form items =>
      obtain ⟨texts, areTexts, rfl⟩ := exists_areJson areJson hasText
      refine .array ?_ areTexts
      rw [arrayItems?, isContainer]
      rfl
  | mapping form entries =>
      rw [Container.map, Container.json?] at hasText
      split at hasText
      · rename_i isDictionary
        have areJsonToo (entry : κ × π) (isEntry : entry ∈ entries) :=
          areJson entry.2 (List.mem_map_of_mem isEntry)
        obtain ⟨fields, areFields, rfl⟩ := exists_areFields areJsonToo hasText
        refine .object ?_ areFields
        rw [objectEntries?, isContainer]
        exact if_pos isDictionary
      · rename_i notDictionary
        cases hasText
        refine .other noScalar ?_ ?_
        · rw [arrayItems?, isContainer]
          exact hasOwnItems
        · rw [objectEntries?, isContainer]
          exact if_neg notDictionary
  | record fields =>
      cases hasText
      refine .other noScalar ?_ ?_
      · rw [arrayItems?, isContainer]
        exact hasOwnItems
      · rw [objectEntries?, isContainer]
        rfl

/-- A container that is not rendered has a nameless key or a part that is not rendered. -/
theorem exists_reason_of_container
    (isContainer : value.container? = some (container.map ofKey ofPart))
    (noText : (container.map (jsonKey? ∘ ofKey) found).json? value = none) :
    value.HasNamelessKey ∨
      ∃ part ∈ container.parts, IsPart value (ofPart part) ∧ found part = none := by
  have hasOwnItems := items?_of_container? isContainer
  cases container with
  | list items | tuple items =>
      obtain ⟨text, isThere, notFound⟩ :=
        Outcome.exists_of_mapM_eq_none (Option.map_eq_none_iff.mp noText)
      obtain ⟨item, isItem, rfl⟩ := List.mem_map.mp isThere
      refine .inr ⟨item, isItem, .item ?_ (List.mem_map_of_mem isItem), notFound⟩
      rw [arrayItems?, isContainer]
      exact hasOwnItems
  | set form items =>
      obtain ⟨text, isThere, notFound⟩ :=
        Outcome.exists_of_mapM_eq_none (Option.map_eq_none_iff.mp noText)
      obtain ⟨item, isItem, rfl⟩ := List.mem_map.mp isThere
      refine .inr ⟨item, isItem, .item ?_ (List.mem_map_of_mem isItem), notFound⟩
      rw [arrayItems?, isContainer]
      rfl
  | mapping form entries =>
      rw [Container.map, Container.json?] at noText
      split at noText
      · rename_i isDictionary
        have hasEntries : value.objectEntries? =
            some (entries.map fun entry => (ofKey entry.1, ofPart entry.2)) := by
          rw [objectEntries?, isContainer]
          exact if_pos isDictionary
        obtain ⟨field, isThere, notFound⟩ :=
          Outcome.exists_of_mapM_eq_none (Option.map_eq_none_iff.mp noText)
        obtain ⟨entry, isEntry, rfl⟩ := List.mem_map.mp isThere
        have isOwnEntry : (ofKey entry.1, ofPart entry.2) ∈
            entries.map fun entry => (ofKey entry.1, ofPart entry.2) :=
          List.mem_map.mpr ⟨entry, isEntry, rfl⟩
        cases hasName : (ofKey entry.1).jsonKey? with
        | none =>
            exact .inl ⟨_, hasEntries, _, isOwnEntry, jsonKey?_eq_none_iff.mp hasName⟩
        | some name =>
            refine .inr ⟨entry.2, List.mem_map_of_mem isEntry,
              .field hasEntries isOwnEntry, ?_⟩
            cases isFound : found entry.2 with
            | none => rfl
            | some text => simp [Json.field?, hasName, isFound] at notFound
      · cases noText
  | record fields => cases noText

end

section

variable {x y : Value} {first second : Option Text}

/-- A pair with named items is rendered as an array if both of them are rendered. -/
theorem isJson_point (ofX : ∀ text, first = some text → IsJson x text)
    (ofY : ∀ text, second = some text → IsJson y text) {text : Text}
    (hasText : Json.array? [first, second] = some text) : IsJson (point x y) text := by
  have areJson : ∀ item ∈ [(x, first), (y, second)], ∀ text, item.2 = some text →
      IsJson item.1 text :=
    List.forall_mem_cons.mpr ⟨ofX, List.forall_mem_singleton.mpr ofY⟩
  obtain ⟨texts, areTexts, rfl⟩ := exists_areJson areJson hasText
  exact .array rfl areTexts

/-- A pair with named items that is not rendered has one that is not rendered. -/
theorem exists_reason_of_point (noText : Json.array? [first, second] = none) :
    (IsPart (point x y) x ∧ first = none) ∨ (IsPart (point x y) y ∧ second = none) := by
  obtain ⟨text, isThere, notFound⟩ :=
    Outcome.exists_of_mapM_eq_none (Option.map_eq_none_iff.mp noText)
  rcases List.mem_pair.mp isThere with rfl | rfl
  · exact .inl ⟨.item rfl List.mem_cons_self, notFound⟩
  · exact .inr ⟨.item rfl (List.mem_cons_of_mem x (List.mem_singleton_self y)), notFound⟩

end

/-! ## Equations -/

theorem jsonEach_eq_map (values : List Value) : jsonEach values = values.map json? := by
  induction values with
  | nil => rfl
  | cons value rest inductionHypothesis =>
      rw [jsonEach, inductionHypothesis]
      rfl

theorem jsonEntries_eq_map (entries : List (Value × Value)) :
    jsonEntries entries = entries.map fun entry => (entry.1.jsonKey?, entry.2.json?) := by
  induction entries with
  | nil => rfl
  | cons entry rest inductionHypothesis =>
      rw [jsonEntries, inductionHypothesis]
      rfl

/-- The JSON text of a value from outside of a web, with null beyond them. -/
theorem getD_jsonEach (outside : List Value) (index : Nat) :
    (jsonEach outside).getD index (some "null") = (outer outside index).json? := by
  rw [jsonEach_eq_map, outer, List.getD_eq_getElem?_getD, List.getD_eq_getElem?_getD,
    List.getElem?_map]
  cases outside[index]? <;> rfl

/-- A container outside of all webs is rendered by its parts, and is built from them. -/
theorem json?_of_container {value : Value} {container : Container Value Value}
    (isContainer : value.container? = some container) :
    (value.json? = (container.map jsonKey? json?).json? value ∧
        ∀ part ∈ container.parts, part ∈ value.children) ∨
      ∃ outside web place, value = linked outside web place := by
  cases value with
  | list items | tuple items | set form items =>
      cases isContainer
      refine .inl ⟨?_, fun part isPart => isPart⟩
      rw [json?, jsonEach_eq_map]
      rfl
  | mapping form entries =>
      cases isContainer
      refine .inl ⟨?_, fun part isPart => List.mem_append_right _ isPart⟩
      rw [json?, jsonEntries_eq_map]
      rfl
  | record fields =>
      cases isContainer
      exact .inl ⟨rfl, fun part isPart => isPart⟩
  | linked outside web place => exact .inr ⟨outside, web, place, rfl⟩
  | _ => cases isContainer

/-! ## Rendering a web -/

section

variable {outside : List Value} {web : Web}

/-- The containers in a web have the texts that rendering gives, if the values
from outside have. -/
theorem isJson_of_linked
    (ofOutside : ∀ value ∈ outside, ∀ text, value.json? = some text → IsJson value text)
    {place : Nat} {text : Text}
    (hasText : (linked outside web place).json? = some text) :
    IsJson (linked outside web place) text := by
  have ofNull (text : Text) (hasText : null.json? = some text) : IsJson null text :=
    .scalar (show null.scalarJson? = some text from hasText)
  have ofIndex (index : Nat) (text : Text)
      (hasText : (jsonEach outside).getD index (some "null") = some text) :
      IsJson (outer outside index) text := by
    rw [getD_jsonEach] at hasText
    exact forall_outer (motive := fun value => ∀ text, value.json? = some text →
      IsJson value text) ofNull ofOutside index text hasText
  exact Web.fold_link_induction
    (motive := fun _ link (found : Option Text) =>
      ∀ text, found = some text → IsJson (ofLink outside web link) text)
    (fun _ index => ofIndex index)
    (fun _ _ _ _ _ ofX ofY text => isJson_point ofX ofY)
    (fun _ _ _ _ noText => by cases noText)
    (fun _ place made ofParts text hasText => isJson_of_container rfl ofParts hasText)
    place text hasText

/-- Whether rendering a value is broken off inside the containers at some places of a web:
for a reason, or because it comes upon one of them again. -/
def IsBrokenOff (outside : List Value) (web : Web) (path : List Nat)
    (value : Value) : Prop :=
  value.HasNoJson ∨
    ∃ place ∈ path, Relation.ReflTransGen IsPart value (linked outside web place)

theorem IsBrokenOff.ofPart {path : List Nat} {whole part : Value}
    (isBrokenOff : IsBrokenOff outside web path part) (isPart : IsPart whole part) :
    IsBrokenOff outside web path whole := by
  obtain noJson | ⟨place, isOnPath, reaches⟩ := isBrokenOff
  · exact .inl (noJson.ofPart isPart)
  · exact .inr ⟨place, isOnPath, .head isPart reaches⟩

/-- A container whose part leads back to it contains itself. -/
theorem IsBrokenOff.ofInside {path : List Nat} {place : Nat} {part : Value}
    (isBrokenOff : IsBrokenOff outside web (place :: path) part)
    (isPart : IsPart (linked outside web place) part) :
    IsBrokenOff outside web path (linked outside web place) := by
  obtain noJson | ⟨other, isOnPath, reaches⟩ := isBrokenOff
  · exact .inl (noJson.ofPart isPart)
  · obtain rfl | isOnPath := List.mem_cons.mp isOnPath
    · exact .inl ⟨_, .refl, .inr (.head' isPart reaches)⟩
    · exact .inr ⟨other, isOnPath, .head isPart reaches⟩

/-- A container in a web that is not rendered has a reason for it, if the values
from outside have. -/
theorem hasNoJson_of_linked
    (ofOutside : ∀ value ∈ outside, value.json? = none → value.HasNoJson) {place : Nat}
    (noText : (linked outside web place).json? = none) :
    (linked outside web place).HasNoJson := by
  have ofIndex (index : Nat)
      (noText : (jsonEach outside).getD index (some "null") = none) :
      (outer outside index).HasNoJson := by
    rw [getD_jsonEach] at noText
    exact forall_outer (motive := fun value => value.json? = none → value.HasNoJson)
      nofun ofOutside index noText
  have isBrokenOff : IsBrokenOff outside web [] (linked outside web place) := by
    refine Web.fold_link_induction
      (motive := fun path link (found : Option Text) =>
        found = none → IsBrokenOff outside web path (ofLink outside web link))
      (fun _ index noText => .inl (ofIndex index noText))
      (fun _ x y _ _ ofX ofY noText => ?_)
      (fun path place isOnPath _ => .inr ⟨place, isOnPath, .refl⟩)
      (fun path place made ofParts noText => ?_) place noText
    · obtain ⟨isPart, notFound⟩ | ⟨isPart, notFound⟩ := exists_reason_of_point noText
      · exact (ofX notFound).ofPart isPart
      · exact (ofY notFound).ofPart isPart
    · have isContainer : (linked outside web place).container? = _ := rfl
      obtain nameless | ⟨link, isThere, isPart, notFound⟩ :=
        exists_reason_of_container isContainer noText
      · exact .inl ⟨_, .refl, .inl nameless⟩
      · exact (ofParts link isThere notFound).ofInside isPart
  -- Nothing is on the way at the start, so there is nothing to come upon again.
  obtain noJson | ⟨_, isOnPath, -⟩ := isBrokenOff
  · exact noJson
  · cases isOnPath

end

/-! ## Every value -/

/-- The text that rendering gives is one in JSON. -/
theorem isJson_of_json? {value : Value} {text : Text}
    (hasText : value.json? = some text) :
    IsJson value text := by
  induction value using children_induction generalizing text with
  | step value ofChildren =>
      cases isContainer : value.container? with
      | some container =>
          obtain ⟨json?_eq, areChildren⟩ | ⟨outside, web, place, rfl⟩ :=
            json?_of_container isContainer
          · rw [json?_eq] at hasText
            rw [← container.map_id] at isContainer
            exact isJson_of_container isContainer
              (fun part isPart text => ofChildren part (areChildren part isPart)) hasText
          · exact isJson_of_linked (fun value isOutside text =>
              ofChildren value isOutside) hasText
      | none =>
          cases value with
          | point x y =>
              have isSecond := List.mem_cons_of_mem x (List.mem_singleton_self y)
              exact isJson_point (fun text => ofChildren x List.mem_cons_self)
                (fun text => ofChildren y isSecond) hasText
          | null | boolean _ | integer _ | derivedInteger _ | float _ | text _
          | derivedText _ =>
              exact .scalar hasText
          | list _ | tuple _ | set _ _ | mapping _ _ | record _ | linked _ _ _ =>
              cases isContainer
          | _ =>
              obtain rfl := Option.some.inj hasText
              exact .other rfl rfl rfl

/-- Rendering gives no text only for a reason. -/
theorem hasNoJson_of_json? {value : Value} (noText : value.json? = none) :
    value.HasNoJson := by
  induction value using children_induction with
  | step value ofChildren =>
      cases isContainer : value.container? with
      | some container =>
          obtain ⟨json?_eq, areChildren⟩ | ⟨outside, web, place, rfl⟩ :=
            json?_of_container isContainer
          · rw [json?_eq] at noText
            rw [← container.map_id] at isContainer
            obtain nameless | ⟨part, isThere, isPart, notFound⟩ :=
              exists_reason_of_container isContainer noText
            · exact ⟨value, .refl, .inl nameless⟩
            · exact (ofChildren part (areChildren part isThere) notFound).ofPart isPart
          · exact hasNoJson_of_linked ofChildren noText
      | none =>
          cases value with
          | point x y =>
              have isSecond := List.mem_cons_of_mem x (List.mem_singleton_self y)
              obtain ⟨isPart, notFound⟩ | ⟨isPart, notFound⟩ :=
                exists_reason_of_point noText
              · exact (ofChildren x List.mem_cons_self notFound).ofPart isPart
              · exact (ofChildren y isSecond notFound).ofPart isPart
          | list _ | tuple _ | set _ _ | mapping _ _ | record _ | linked _ _ _ =>
              cases isContainer
          | _ => cases noText

/-- The text that rendering gives is the one in JSON. -/
theorem json?_eq_some_iff {value : Value} {text : Text} :
    value.json? = some text ↔ IsJson value text := by
  refine ⟨isJson_of_json?, fun isJson => ?_⟩
  cases hasText : value.json? with
  | none => exact absurd (hasNoJson_of_json? hasText) isJson.not_hasNoJson
  | some other => rw [(isJson_of_json? hasText).unique isJson]

/-- Rendering gives no text exactly where there is a reason for it. -/
theorem json?_eq_none_iff {value : Value} : value.json? = none ↔ value.HasNoJson := by
  refine ⟨hasNoJson_of_json?, fun noJson => ?_⟩
  cases hasText : value.json? with
  | none => rfl
  | some text => exact absurd noJson (isJson_of_json? hasText).not_hasNoJson

/-! ## Values in messages -/

/-- A value that can be shown is rendered as its text in JSON, or as it is shown. -/
theorem render?_of_display? {value : Value} {shown : Text}
    (isShown : value.display? = some shown) :
    value.render? = some (value.json?.getD shown) := by
  unfold display? at isShown
  split at isShown
  · rename_i isWritable
    cases isShown
    rw [render?, if_pos isWritable, render]
  · cases isShown

/-- A value that can be shown stands in a message as its one text in JSON, if it has one.
If it has none, then for a reason, and the value stands there as it is shown. -/
theorem render_is_json_or_display {value : Value} {shown : Text}
    (isShown : value.display? = some shown) :
    (value.HasNoJson → value.render? = some shown ∧ ∀ text, ¬ IsJson value text) ∧
      (¬ value.HasNoJson →
        ∃ text, value.render? = some text ∧ ∀ other, IsJson value other ↔
          other = text) := by
  rw [render?_of_display? isShown]
  constructor
  · intro noJson
    rw [json?_eq_none_iff.mpr noJson]
    exact ⟨rfl, fun text isJson => isJson.not_hasNoJson noJson⟩
  · intro hasJson
    cases hasText : value.json? with
    | none => exact absurd (hasNoJson_of_json? hasText) hasJson
    | some text =>
        refine ⟨text, rfl, fun other => ?_⟩
        rw [← json?_eq_some_iff, hasText, Option.some.injEq, eq_comm]

/-- Two lists that hold each other have no JSON, and what is around them is shown
with them. Inside a mapping that is no dictionary they are part of how the
mapping is shown, and do no harm. -/
theorem render_is_json_or_display_cyclic :
    let web : Web := [.list [.outside 0, .inside 1], .list [.inside 0]]
    let cyclic : Value := linked [.null] web 0
    ((tuple [.integer 1, cyclic]).display? = some "(1, [None, [[...]]])" ∧
      (tuple [.integer 1, cyclic]).HasNoJson ∧
      (tuple [.integer 1, cyclic]).render? = some "(1, [None, [[...]]])" ∧
      ∀ text, ¬ IsJson (tuple [.integer 1, cyclic]) text) ∧
    ((list [.mapping .readOnly [(.text "a", cyclic)]]).display? =
        some "[mappingproxy(\x7b'a': [None, [[...]]]\x7d)]" ∧
      ¬ (list [.mapping .readOnly [(.text "a", cyclic)]]).HasNoJson ∧
      ∃ text, (list [.mapping .readOnly [(.text "a", cyclic)]]).render? = some text ∧
        ∀ other, IsJson (list [.mapping .readOnly [(.text "a", cyclic)]]) other ↔
          other = text) := by
  intro web cyclic
  have noJson : (tuple [.integer 1, cyclic]).HasNoJson := json?_eq_none_iff.mp rfl
  have hasJson : ¬ (list [.mapping .readOnly [(.text "a", cyclic)]]).HasNoJson := by
    intro noJson
    cases json?_eq_none_iff.mpr noJson
  exact ⟨⟨rfl, noJson, (render_is_json_or_display rfl).1 noJson⟩,
    ⟨rfl, hasJson, (render_is_json_or_display rfl).2 hasJson⟩⟩

end Value
end KindExpr
