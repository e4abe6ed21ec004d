import KindExpr.Check.Run
import KindExpr.Proofs.Value.Writable

/-!
# What alternatives denote

An alternative denotes a set of values, and a list of alternatives the union of the
sets of its alternatives. The sets are given without regard to compiled checks: a
value is in the set of a literal if the pattern of the literal is found in it, and in
the set of a type name if its kind is the one that is meant; its members have to be
in the set of the member list.

The keys of a mapping are looked at apart from its values: all keys that are declared in
a member list form a list of their own, and every key has to be in the set of that list.
-/

namespace KindExpr

namespace Value

/-- The values in a container: the items of a list or the values of a mapping. -/
def memberValues (value : Value) : List Value :=
  match value.items?, value.entries? with
  | some items, _ => items
  | none, some entries => entries.map Prod.snd
  | none, none => []

/-- The keys in a container. A list has none. -/
def memberKeys (value : Value) : List Value :=
  match value.entries? with
  | some entries => entries.map Prod.fst
  | none => []

/-- Whether a value is a text or has that text somewhere in it. -/
inductive HasText : Value → Text → Prop where
  | own {value : Value} {text : Text} (isText : value.text? = some text) :
        HasText value text
  | ofValue {value member : Value} {text : Text} (isMember : member ∈ value.memberValues)
      (hasText : HasText member text) : HasText value text
  | ofKey {value key : Value} {text : Text} (isKey : key ∈ value.memberKeys)
      (hasText : HasText key text) : HasText value text

end Value

/-! ## Sets of alternatives -/

/-- Whether a value is in the set of a literal. -/
def Literal.Admits (literal : Literal) (value : Value) : Prop :=
  value.kind = .string ∧
    ∃ pattern text, literal.compile = .ok pattern ∧ value.text? = some text ∧
      pattern.search text = .ok true

/-- A text is in the set of a literal if the search in it finds the pattern. -/
theorem Literal.admits_iff_of_search {literal : Literal} {pattern : Pattern}
    {value : Value}
    {text : Text} {isFound : Bool} (compiled : literal.compile = .ok pattern)
    (isString : value.kind = .string) (isText : value.text? = some text)
    (searched : pattern.search text = .ok isFound) :
    literal.Admits value ↔ isFound = true := by
  constructor
  · rintro ⟨-, otherPattern, otherText, otherCompiled, otherIsText, found⟩
    obtain rfl := Except.ok.inj (compiled.symm.trans otherCompiled)
    obtain rfl := Option.some.inj (isText.symm.trans otherIsText)
    exact Except.ok.inj (searched.symm.trans found)
  · rintro rfl
    exact ⟨isString, pattern, text, compiled, isText, searched⟩

namespace Alternative

/-- Whether a value is in the set of an alternative when its members are left aside. -/
def AdmitsOwn (aliases : AliasTable) (alternative : Alternative) (value : Value) : Prop :=
  match alternative.literal with
  | some literal => literal.Admits value
  | none =>
      ∃ tag, aliases.resolve? alternative.name = some tag ∧
        decide (value.tag = tag) ≠ alternative.negated

theorem admitsOwn_of_literal {aliases : AliasTable} {alternative : Alternative}
    {literal : Literal}
    (isLiteral : alternative.literal = some literal) (value : Value) :
    alternative.AdmitsOwn aliases value ↔ literal.Admits value := by
  rw [AdmitsOwn, isLiteral]

theorem admitsOwn_of_name {aliases : AliasTable} {alternative : Alternative} {tag : Text}
    (noLiteral : alternative.literal = none)
    (resolves : aliases.resolve? alternative.name = some tag) (value : Value) :
    alternative.AdmitsOwn aliases value ↔
      decide (value.tag = tag) ≠ alternative.negated := by
  rw [AdmitsOwn, noLiteral]
  simp [resolves]

/-- Whether a key is in the set of one of the keys that a member list declares. Where
none is declared every key is. -/
def KeysAdmit (aliases : AliasTable) (members : List Alternative) (key : Value) : Prop :=
  (∃ member ∈ members, member.hasKey = true) →
    ∃ member ∈ members, member.hasKey = true ∧ member.keyAlternative.AdmitsOwn aliases key

mutual

/-- Whether a value is in the set of an alternative. -/
def Admits (aliases : AliasTable) : Alternative → Value → Prop
  | ⟨name, negated, literal, members, key, keyLiteral, keyNegated⟩, value =>
      AdmitsOwn aliases ⟨name, negated, literal, [], key, keyLiteral, keyNegated⟩ value ∧
        (members ≠ [] →
          (∀ member ∈ value.memberValues, SomeAdmits aliases members member) ∧
            ∀ memberKey ∈ value.memberKeys, KeysAdmit aliases members memberKey)

/-- Whether a value is in the set of one of several alternatives. -/
def SomeAdmits (aliases : AliasTable) : List Alternative → Value → Prop
  | [], _ => False
  | alternative :: rest, value =>
      Admits aliases alternative value ∨ SomeAdmits aliases rest value

end

theorem admits_iff {aliases : AliasTable} {alternative : Alternative} {value : Value} :
    alternative.Admits aliases value ↔ alternative.AdmitsOwn aliases value ∧
      (alternative.members ≠ [] →
        (∀ member ∈ value.memberValues, SomeAdmits aliases alternative.members member) ∧
          ∀ key ∈ value.memberKeys, KeysAdmit aliases alternative.members key) := by
  obtain ⟨name, negated, literal, members, key, keyLiteral, keyNegated⟩ := alternative
  rw [Admits]
  rfl

/-- The set of a list of alternatives is the union of their sets. -/
theorem someAdmits_iff {aliases : AliasTable} {alternatives : List Alternative}
    {value : Value} :
    SomeAdmits aliases alternatives value ↔
      ∃ alternative ∈ alternatives, alternative.Admits aliases value := by
  induction alternatives with
  | nil => simp [SomeAdmits]
  | cons alternative rest inductionHypothesis =>
      rw [SomeAdmits, inductionHypothesis]
      simp

/-! ## Searches of alternatives -/

mutual

/-- The literals that are written in an alternative. -/
def literals : Alternative → List Literal
  | ⟨_, _, literal, members, _, keyLiteral, _⟩ =>
      literal.toList ++ keyLiteral.toList ++ literalsOfAll members

/-- The literals that are written in several alternatives. -/
def literalsOfAll : List Alternative → List Literal
  | [] => []
  | alternative :: rest => literals alternative ++ literalsOfAll rest

end

theorem literals_eq (alternative : Alternative) :
    alternative.literals = alternative.literal.toList ++ alternative.keyLiteral.toList ++
      literalsOfAll alternative.members := by
  obtain ⟨name, negated, literal, members, key, keyLiteral, keyNegated⟩ := alternative
  rw [literals]

theorem literal_subset_literals (alternative : Alternative) :
    alternative.literal.toList ⊆ alternative.literals := by
  simp [literals_eq]

theorem memberLiterals_subset_literals (alternative : Alternative) :
    literalsOfAll alternative.members ⊆ alternative.literals := by
  simp [literals_eq]

/-- The literals of several alternatives are those of each. -/
theorem literalsOfAll_eq (alternatives : List Alternative) :
    literalsOfAll alternatives = alternatives.flatMap literals := by
  induction alternatives with
  | nil => rw [literalsOfAll, List.flatMap_nil]
  | cons alternative rest inductionHypothesis =>
      rw [literalsOfAll, inductionHypothesis, List.flatMap_cons]

/-- The literals of the keys that a member list declares are written in it. -/
theorem keyLiterals_subset {members keys : List Alternative}
    (areKeys : keys ⊆ members.map keyAlternative) :
    (keys.flatMap fun key => key.literal.toList) ⊆ literalsOfAll members := by
  intro literal isWritten
  obtain ⟨key, isKey, isLiteral⟩ := List.mem_flatMap.mp isWritten
  obtain ⟨member, isMember, rfl⟩ := List.mem_map.mp (areKeys isKey)
  rw [literalsOfAll_eq]
  refine List.mem_flatMap.mpr ⟨member, isMember, ?_⟩
  obtain ⟨name, negated, own, members, key, keyLiteral, keyNegated⟩ := member
  rw [literals]
  exact List.mem_append_left _ (List.mem_append_right _ isLiteral)

end Alternative

/-- Whether a search for one of some literals in a text of a value has no
outcome, because of a fault. -/
def SearchFails (literals : List Literal) (value : Value)
    (fault : Pattern.SearchFault) : Prop :=
  ∃ literal ∈ literals, ∃ pattern text, literal.compile = .ok pattern ∧
  value.HasText text ∧
    pattern.search text = .error fault

namespace SearchFails

variable {literals others : List Literal} {value member : Value}
  {fault : Pattern.SearchFault}

/-- A search that fails for some literals fails for more literals. -/
theorem mono (fails : SearchFails literals value fault)
    (subset : literals ⊆ others) : SearchFails others value fault := by
  obtain ⟨literal, isWritten, rest⟩ := fails
  exact ⟨literal, subset isWritten, rest⟩

/-- A search that fails in a value of a container fails in the container. -/
theorem ofValue (fails : SearchFails literals member fault)
    (isMember : member ∈ value.memberValues) : SearchFails literals value fault := by
  obtain ⟨literal, isWritten, pattern, text, compiled, hasText, failed⟩ := fails
  exact ⟨literal, isWritten, pattern, text, compiled, .ofValue isMember hasText, failed⟩

/-- A search that fails in a key of a container fails in the container. -/
theorem ofKey (fails : SearchFails literals member fault)
    (isKey : member ∈ value.memberKeys) : SearchFails literals value fault := by
  obtain ⟨literal, isWritten, pattern, text, compiled, hasText, failed⟩ := fails
  exact ⟨literal, isWritten, pattern, text, compiled, .ofKey isKey hasText, failed⟩

end SearchFails

/-! ## Kinds and members -/

/-- Kinds with the same tag are the same. -/
theorem Kind.tag_injective {first second : Kind} (same : first.tag = second.tag) :
    first = second := by
  cases first <;> cases second <;> first | rfl | exact absurd same (by decide)

namespace Value

/-- A value has the tag of a kind only if it is of that kind. -/
theorem tag_eq_iff {value : Value} {kind : Kind} :
    value.tag = kind.tag ↔ value.kind = kind :=
  ⟨fun same => Kind.tag_injective same, fun same => by rw [tag, same]⟩

/-- The values of the string kind are texts. -/
theorem exists_text_of_kind {value : Value} (isString : value.kind = .string) :
    ∃ text, value.text? = some text := by
  cases isContainer : value.container? with
  | some container =>
      rw [kind_of_container? isContainer] at isString
      cases container with
      | mapping form entries => cases form <;> cases isString
      | _ => cases isString
  | none =>
      cases value with
      | text content => exact ⟨content, rfl⟩
      | derivedText content => exact ⟨content, rfl⟩
      | _ => first | cases isString | cases isContainer

/-- The values of the array kind have items and no entries. -/
theorem exists_items_of_kind {value : Value} (isArray : value.kind = .array) :
    (∃ items, value.items? = some items) ∧ value.entries? = none := by
  cases isContainer : value.container? with
  | some container =>
      rw [kind_of_container? isContainer] at isArray
      rw [items?_of_container? isContainer, entries?_of_container? isContainer]
      cases container with
      | list items | tuple items => exact ⟨⟨items, rfl⟩, rfl⟩
      | mapping form entries => cases form <;> cases isArray
      | _ => cases isArray
  | none =>
      cases value with
      | point x y => exact ⟨⟨[x, y], rfl⟩, rfl⟩
      | _ => first | (cases isContainer; done) | cases isArray

/-- The values of the object and map kinds have entries and no items. -/
theorem exists_entries_of_kind {value : Value}
    (isMapping : value.kind = .object ∨ value.kind = .map) :
    (∃ entries, value.entries? = some entries) ∧ value.items? = none := by
  cases isContainer : value.container? with
  | some container =>
      rw [kind_of_container? isContainer] at isMapping
      rw [items?_of_container? isContainer, entries?_of_container? isContainer]
      cases container with
      | mapping form entries => exact ⟨⟨entries, rfl⟩, rfl⟩
      | _ => simp [Container.kind] at isMapping
  | none =>
      cases value <;> first | (cases isContainer; done) |
        cases isMapping <;> contradiction

/-- The items of a value are what one meets when going through it. -/
theorem elements?_of_items? {value : Value} {items : List Value}
    (hasItems : value.items? = some items) : value.elements? = some items := by
  cases isContainer : value.container? with
  | some container =>
      rw [items?_of_container? isContainer] at hasItems
      have elements : value.elements? = container.elements? := by
        cases value <;> first | cases isContainer; rfl | cases isContainer
      rw [elements]
      cases container with
      | list own | tuple own => exact hasItems
      | _ => cases hasItems
  | none =>
      cases value with
      | point x y => exact hasItems
      | _ => first | (cases isContainer; done) | cases hasItems

/-- The entries of a mapping are what one meets when going through it. -/
theorem entries_of_entries? {value : Value} {entries : List (Value × Value)}
    (hasEntries : value.entries? = some entries) : value.entries = .ok entries := by
  obtain ⟨container, isContainer, isMapping⟩ := Option.bind_eq_some_iff.mp hasEntries
  cases container with
  | mapping form own =>
      obtain rfl := Option.some.inj isMapping
      unfold Value.entries
      rw [isContainer]
  | _ => cases isMapping

/-! ## Members that can be shown -/

/-- The items of a value that can be shown can be shown. -/
theorem isWritable_of_items {value : Value} {items : List Value}
    (isWritable : value.isWritable = true) (hasItems : value.items? = some items) :
    ∀ item ∈ items, item.isWritable = true := by
  cases isContainer : value.container? with
  | some container =>
      rw [items?_of_container? isContainer] at hasItems
      have areWritable := ((isWritable_container?_iff isContainer).mp isWritable).2
      cases container with
      | list own | tuple own =>
          obtain rfl := Option.some.inj hasItems
          exact areWritable
      | _ => cases hasItems
  | none =>
      cases value with
      | point x y =>
          obtain rfl := Option.some.inj hasItems
          rw [Value.isWritable, Bool.and_eq_true] at isWritable
          simpa using isWritable
      | _ => first | (cases isContainer; done) | cases hasItems

/-- The keys and values of a mapping that can be shown can be shown. -/
theorem isWritable_of_entries {value : Value} {entries : List (Value × Value)}
    (isWritable : value.isWritable = true) (hasEntries : value.entries? = some entries) :
    ∀ entry ∈ entries, entry.1.isWritable = true ∧ entry.2.isWritable = true := by
  obtain ⟨container, isContainer, isMapping⟩ := Option.bind_eq_some_iff.mp hasEntries
  have areWritable := (isWritable_container?_iff isContainer).mp isWritable
  cases container with
  | mapping form own =>
      obtain rfl := Option.some.inj isMapping
      exact fun entry isEntry =>
        ⟨areWritable.1 _ (List.mem_map_of_mem isEntry),
          areWritable.2 _ (List.mem_map_of_mem isEntry)⟩
  | _ => cases isMapping

/-- The values in a container that can be shown can be shown. -/
theorem isWritable_of_mem_memberValues {value member : Value}
    (isWritable : value.isWritable = true) (isMember : member ∈ value.memberValues) :
    member.isWritable = true := by
  rw [memberValues] at isMember
  split at isMember
  · rename_i items hasItems
    exact isWritable_of_items isWritable hasItems member isMember
  · rename_i entries noItems hasEntries
    obtain ⟨entry, isEntry, rfl⟩ := List.mem_map.mp isMember
    exact (isWritable_of_entries isWritable hasEntries entry isEntry).2
  · cases isMember

/-- The keys in a container that can be shown can be shown. -/
theorem isWritable_of_mem_memberKeys {value key : Value}
    (isWritable : value.isWritable = true) (isKey : key ∈ value.memberKeys) :
    key.isWritable = true := by
  rw [memberKeys] at isKey
  split at isKey
  · rename_i entries hasEntries
    obtain ⟨entry, isEntry, rfl⟩ := List.mem_map.mp isKey
    exact (isWritable_of_entries isWritable hasEntries entry isEntry).1
  · cases isKey

end Value
end KindExpr
