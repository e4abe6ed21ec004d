import KindExpr.Proofs.Check.Membership

/-!
# Where a rejection comes from

A rejected value is explained by one place in it. The descent to this place follows
the alternatives alone: of a list it takes the last alternative. If this does not
admit the value itself, the place is found; otherwise the descent goes on in the
first member whose key or value is rejected, with the keys that the member list
declares or with the member list.

`Blames` states the descent, with the sets of alternatives and without compiled checks.
The main result says that the message of a rejection is that of the place which is
blamed, and that there is one such place only.
-/

namespace KindExpr

/-! ## The descent -/

/-- The members of a value in the order in which they are examined: the items of
an array by position, the values of an object by key, those of a map by
position, both after their keys. -/
def Value.membersUnder (value : Value) (name : Text) : List Member :=
  match value.kind, value.items?, value.entries? with
  | .array, some items, _ => itemMembers name items
  | .object, _, some entries => fieldMembers name entries
  | .map, _, some entries => entryMembers name entries
  | _, _, _ => []

namespace Alternative

/-- The reason for which an alternative rejects a value that it does not admit itself: the
canonical tag, or the literal as written. -/
def reason (aliases : AliasTable) (alternative : Alternative) : Text :=
  match alternative.literal with
  | some literal => Check.formatReason literal
  | none =>
      Check.kindReason ((aliases.resolve? alternative.name).getD "") alternative.negated

/-- The keys that a member list declares, as alternatives of their own. -/
def keyGroup (members : List Alternative) : List Alternative :=
  (members.filter hasKey).map keyAlternative

end Alternative

/-- Whether the key of a member and its value are in the sets of a member list. -/
structure Member.Passes (aliases : AliasTable) (alternatives : List Alternative)
    (member : Member) : Prop where
  key : ∀ key path, member.key = some (key, path) →
    Alternative.KeysAdmit aliases alternatives key
  value : Alternative.SomeAdmits aliases alternatives member.value

mutual

/-- Whether the descent from a value under a name, with some
alternatives, ends with a rejection. -/
inductive Blames (aliases : AliasTable) :
    List Alternative → Value → Text → Rejection → Prop
  | own {group : List Alternative} {node : Alternative} {value : Value} {name : Text}
      (isLast : group.getLast? = some node)
      (rejects : ¬ node.AdmitsOwn aliases value) :
      Blames aliases group value name ⟨value, name, node.reason aliases⟩
  | inside {group : List Alternative} {node : Alternative} {value : Value} {name : Text}
      {found : Rejection}
      (isLast : group.getLast? = some node)
      (admits : node.AdmitsOwn aliases value)
      (first : BlamesFirst aliases node.members (value.membersUnder name) found) :
      Blames aliases group value name found

/-- Whether the descent through some members, with the alternatives for them,
ends with a rejection: it goes on in the first member that does not pass, in its
key rather than in its value. -/
inductive BlamesFirst (aliases : AliasTable) :
    List Alternative → List Member → Rejection → Prop
  | key {members : List Alternative} {member : Member} {rest : List Member} {key : Value}
      {path : Text} {found : Rejection}
      (hasKey : member.key = some (key, path))
      (rejects : ¬ Alternative.KeysAdmit aliases members key)
      (further : Blames aliases (Alternative.keyGroup members) key path found) :
      BlamesFirst aliases members (member :: rest) found
  | value {members : List Alternative} {member : Member} {rest : List Member}
        {path : Text}
      {found : Rejection}
      (keyPasses : ∀ key keyPath, member.key = some (key, keyPath) →
        Alternative.KeysAdmit aliases members key)
      (isNamed : member.name = some path)
      (rejects : ¬ Alternative.SomeAdmits aliases members member.value)
      (further : Blames aliases members member.value path found) :
      BlamesFirst aliases members (member :: rest) found
  | later {members : List Alternative} {member : Member} {rest : List Member}
      {found : Rejection}
      (passes : member.Passes aliases members)
      (first : BlamesFirst aliases members rest found) :
      BlamesFirst aliases members (member :: rest) found

end

mutual

/-- The descent ends in one place only. -/
theorem Blames.unique {aliases : AliasTable} {group : List Alternative} {value : Value}
    {name : Text} {found other : Rejection}
    (blames : Blames aliases group value name found)
    (blamesToo : Blames aliases group value name other) : found = other := by
  match blames, blamesToo with
  | .own isLast rejects, .own isLastToo rejectsToo =>
      rw [isLast] at isLastToo
      cases isLastToo
      rfl
  | .own isLast rejects, .inside isLastToo admits first =>
      rw [isLast] at isLastToo
      cases isLastToo
      exact absurd admits rejects
  | .inside isLast admits first, .own isLastToo rejects =>
      rw [isLast] at isLastToo
      cases isLastToo
      exact absurd admits rejects
  | .inside isLast admits first, .inside isLastToo admitsToo firstToo =>
      rw [isLast] at isLastToo
      cases isLastToo
      exact first.unique firstToo

/-- The descent through members ends in one place only. -/
theorem BlamesFirst.unique {aliases : AliasTable} {alternatives : List Alternative}
    {members : List Member} {found other : Rejection}
    (blames : BlamesFirst aliases alternatives members found)
    (blamesToo : BlamesFirst aliases alternatives members other) : found = other := by
  match blames, blamesToo with
  | .key hasKey rejects further, .key hasKeyToo rejectsToo furtherToo =>
      rw [hasKey] at hasKeyToo
      cases hasKeyToo
      exact further.unique furtherToo
  | .key hasKey rejects further, .value keyPasses isNamed rejectsToo furtherToo =>
      exact absurd (keyPasses _ _ hasKey) rejects
  | .key hasKey rejects further, .later passes first =>
      exact absurd (passes.key _ _ hasKey) rejects
  | .value keyPasses isNamed rejects further, .key hasKey rejectsToo furtherToo =>
      exact absurd (keyPasses _ _ hasKey) rejectsToo
  | .value keyPasses isNamed rejects further, .value keyPassesToo isNamedToo rejectsToo
      furtherToo =>
      rw [isNamed] at isNamedToo
      cases isNamedToo
      exact further.unique furtherToo
  | .value keyPasses isNamed rejects further, .later passes first =>
      exact absurd passes.value rejects
  | .later passes first, .key hasKey rejects further =>
      exact absurd (passes.key _ _ hasKey) rejects
  | .later passes first, .value keyPasses isNamed rejects further =>
      exact absurd passes.value rejects
  | .later passes first, .later passesToo firstToo => exact first.unique firstToo

end

/-! ## The members of a value -/

/-- The values with the tag of a shape are those of one kind. -/
theorem Shape.cases_of_ofTag {shape : Shape} {value : Value}
    (isShape : Shape.ofTag? value.tag = some shape) :
    shape = .array ∧ value.kind = .array ∨ shape = .object ∧ value.kind = .object ∨
      shape = .map ∧ value.kind = .map := by
  unfold Shape.ofTag? at isShape
  split at isShape
  · rename_i isArray
    cases isShape
    exact .inl ⟨rfl, Value.tag_eq_iff.mp isArray⟩
  · split at isShape
    · rename_i isObject
      cases isShape
      exact .inr (.inl ⟨rfl, Value.tag_eq_iff.mp isObject⟩)
    · split at isShape
      · rename_i isMap
        cases isShape
        exact .inr (.inr ⟨rfl, Value.tag_eq_iff.mp isMap⟩)
      · cases isShape

namespace Value

/-- A value with the tag of a shape is gone through in that shape. -/
theorem members_eq_membersUnder {shape : Shape} {value : Value}
    (isShape : Shape.ofTag? value.tag = some shape) (name : Text) :
    shape.members value name = .ok (value.membersUnder name) := by
  obtain ⟨rfl, kind⟩ | ⟨rfl, kind⟩ | ⟨rfl, kind⟩ := Shape.cases_of_ofTag isShape
  · obtain ⟨⟨items, hasItems⟩, -⟩ := exists_items_of_kind kind
    simp [Shape.members, elements?_of_items? hasItems, membersUnder, kind, hasItems]
  · obtain ⟨⟨entries, hasEntries⟩, -⟩ := exists_entries_of_kind (.inl kind)
    simp [Shape.members, entries_of_entries? hasEntries, Except.map, membersUnder, kind,
      hasEntries]
  · obtain ⟨⟨entries, hasEntries⟩, -⟩ := exists_entries_of_kind (.inr kind)
    simp [Shape.members, entries_of_entries? hasEntries, Except.map, membersUnder, kind,
      hasEntries]

variable {value : Value} {admitsKey admits : Value → Prop}

/-- The members that entries give have the values and the keys of the
entries, whatever the names are. -/
theorem forall_mapIdx_iff_of_entries {entries : List (Value × Value)}
    (noItems : value.items? = none) (hasEntries : value.entries? = some entries)
    {toMember : Nat → Value × Value → Member}
    (isKey : ∀ index entry, ∃ path, (toMember index entry).key = some (entry.1, path))
    (isValue : ∀ index entry, (toMember index entry).value = entry.2) :
    (∀ member ∈ entries.mapIdx toMember,
        (∀ key path, member.key = some (key, path) → admitsKey key) ∧
          admits member.value) ↔
      (∀ item ∈ value.memberValues, admits item) ∧ ∀ key ∈ value.memberKeys,
        admitsKey key := by
  have values : value.memberValues = entries.map Prod.snd := by
    simp [memberValues, noItems, hasEntries]
  have keys : value.memberKeys = entries.map Prod.fst := by simp [memberKeys, hasEntries]
  rw [values, keys, List.forall_mem_map, List.forall_mem_map]
  constructor
  · intro all
    refine ⟨fun entry isEntry => ?_, fun entry isEntry => ?_⟩
    · obtain ⟨index, isBelow, rfl⟩ := List.mem_iff_getElem.mp isEntry
      have passes := all _ (List.mem_mapIdx.mpr ⟨index, isBelow, rfl⟩)
      rw [← isValue index]
      exact passes.2
    · obtain ⟨index, isBelow, rfl⟩ := List.mem_iff_getElem.mp isEntry
      have passes := all _ (List.mem_mapIdx.mpr ⟨index, isBelow, rfl⟩)
      obtain ⟨path, hasKey⟩ := isKey index entries[index]
      exact passes.1 _ path hasKey
  · rintro ⟨allValues, allKeys⟩ member isMember
    obtain ⟨index, isBelow, rfl⟩ := List.mem_mapIdx.mp isMember
    have isEntry := List.getElem_mem isBelow
    refine ⟨fun key path hasKey => ?_, ?_⟩
    · obtain ⟨own, hasOwn⟩ := isKey index entries[index]
      rw [hasOwn] at hasKey
      cases hasKey
      exact allKeys _ isEntry
    · rw [isValue]
      exact allValues _ isEntry

/-- The values and the keys of the members that are gone through are all there are. -/
theorem forall_membersUnder_iff {shape : Shape}
    (isShape : Shape.ofTag? value.tag = some shape) (name : Text) :
    (∀ member ∈ value.membersUnder name,
        (∀ key path, member.key = some (key, path) → admitsKey key) ∧
          admits member.value) ↔
      (∀ item ∈ value.memberValues, admits item) ∧ ∀ key ∈ value.memberKeys,
        admitsKey key := by
  obtain ⟨-, kind⟩ | ⟨-, kind⟩ | ⟨-, kind⟩ := Shape.cases_of_ofTag isShape
  · obtain ⟨⟨items, hasItems⟩, noEntries⟩ := exists_items_of_kind kind
    have values : value.memberValues = items := by simp [memberValues, hasItems]
    have keys : value.memberKeys = [] := by simp [memberKeys, noEntries]
    rw [values, keys, membersUnder, kind, hasItems]
    constructor
    · intro all
      refine ⟨fun item isItem => ?_, fun key isKey => absurd isKey List.not_mem_nil⟩
      obtain ⟨index, isBelow, rfl⟩ := List.mem_iff_getElem.mp isItem
      exact (all _ (List.mem_mapIdx.mpr ⟨index, isBelow, rfl⟩)).2
    · rintro ⟨allValues, -⟩ member isMember
      obtain ⟨index, isBelow, rfl⟩ := List.mem_mapIdx.mp isMember
      refine ⟨fun key path hasKey => ?_, allValues _ (List.getElem_mem isBelow)⟩
      cases hasKey
  · obtain ⟨⟨entries, hasEntries⟩, noItems⟩ := exists_entries_of_kind (.inl kind)
    rw [membersUnder, kind, hasEntries]
    exact forall_mapIdx_iff_of_entries noItems hasEntries
      (fun _ _ => ⟨_, rfl⟩) fun _ _ => rfl
  · obtain ⟨⟨entries, hasEntries⟩, noItems⟩ := exists_entries_of_kind (.inr kind)
    rw [membersUnder, kind, hasEntries]
    exact forall_mapIdx_iff_of_entries noItems hasEntries
      (fun _ _ => ⟨_, rfl⟩) fun _ _ => rfl

end Value
end KindExpr
