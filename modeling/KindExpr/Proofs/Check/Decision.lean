import Mathlib.Data.List.Forall2
import KindExpr.Proofs.Check.Denotation

/-!
# Checks that decide

A check decides a set of values if it accepts those in the set and rejects all others. A
test on the value itself, a group of checks and a check of a container each decide a set
that is made from those of their parts. The one thing that can keep a check from
deciding is a search for a literal that has no outcome.
-/

namespace KindExpr
namespace Check

/-! ## Outcomes that decide -/

/-- Whether the outcome of a check tells if something is admitted, or is the fault of a
search that may fail. -/
inductive Tells (admitted : Prop) (mayFail : Pattern.SearchFault → Prop) :
    Outcome → Prop where
  | accepted (isAdmitted : admitted) : Tells admitted mayFail (.ok none)
  | rejected (notAdmitted : ¬ admitted) (rejection : Rejection) :
      Tells admitted mayFail (.ok (some rejection))
  | failed {fault : Pattern.SearchFault} (fails : mayFail fault) :
      Tells admitted mayFail (.error (.search fault))

namespace Tells

variable {admitted other : Prop} {mayFail mayFailToo : Pattern.SearchFault → Prop}
variable {outcome next : Outcome}

/-- What an outcome tells of something it tells of anything equivalent. -/
theorem of_iff (tells : Tells admitted mayFail outcome) (same : admitted ↔ other) :
    Tells other mayFail outcome := by
  cases tells with
  | accepted isAdmitted => exact .accepted (same.mp isAdmitted)
  | rejected notAdmitted rejection => exact .rejected (notAdmitted ∘ same.mpr) rejection
  | failed fails => exact .failed fails

/-- An outcome still tells if more searches may fail. -/
theorem mono (tells : Tells admitted mayFail outcome)
    (weaker : ∀ fault, mayFail fault → mayFailToo fault) :
    Tells admitted mayFailToo outcome := by
  cases tells with
  | accepted isAdmitted => exact .accepted isAdmitted
  | rejected notAdmitted rejection => exact .rejected notAdmitted rejection
  | failed fails => exact .failed (weaker _ fails)

/-- An outcome that is followed by another only after acceptance tells of both. -/
theorem and (tells : Tells admitted mayFail outcome)
    (nextTells : admitted → Tells other mayFail next) :
    Tells (admitted ∧ other) mayFail (outcome >>= fun
      | some rejection => .ok (some rejection)
      | none => next) := by
  cases tells with
  | accepted isAdmitted =>
      exact (nextTells isAdmitted).of_iff (by simp [isAdmitted])
  | rejected notAdmitted rejection =>
      exact .rejected (fun both => notAdmitted both.1) rejection
  | failed fails => exact .failed fails

/-- An outcome that is followed by another only after a rejection tells of one of both. -/
theorem or (tells : Tells admitted mayFail outcome)
    (nextTells : Tells other mayFail next) :
    Tells (admitted ∨ other) mayFail (outcome >>= fun
      | none => .ok none
      | some _ => next) := by
  cases tells with
  | accepted isAdmitted => exact .accepted (.inl isAdmitted)
  | rejected notAdmitted rejection => exact nextTells.of_iff (by simp [notAdmitted])
  | failed fails => exact .failed fails

end Tells

/-- Whether a check tells of every value that can be shown if it is admitted, where
searches for some literals may fail. -/
def Decides (check : Check) (admits : Value → Prop) (literals : List Literal) : Prop :=
  ∀ value name, value.isWritable = true →
    Tells (admits value) (SearchFails literals value) (check.run Value.tag value name)

namespace Decides

variable {check : Check} {admits admitsToo : Value → Prop}
  {literals others : List Literal}

/-- A check that decides a set decides every equal set. -/
theorem of_iff (decides : check.Decides admits literals)
    (same : ∀ value, admits value ↔ admitsToo value) : check.Decides admitsToo literals :=
  fun value name isWritable => (decides value name isWritable).of_iff (same value)

/-- A check still decides if searches for more literals may fail. -/
theorem mono (decides : check.Decides admits literals) (subset : literals ⊆ others) :
    check.Decides admits others :=
  fun value name isWritable =>
    (decides value name isWritable).mono fun _ fails => fails.mono subset

end Decides

/-! ## Tests on the value itself -/

section Tests

variable {admitted : Prop} {mayFail : Pattern.SearchFault → Prop} {value : Value}

theorem reject_tells (isWritable : value.isWritable = true) (notAdmitted : ¬ admitted)
    (name reason : Text) : Tells admitted mayFail (reject value name reason) := by
  rw [reject, if_pos isWritable]
  exact .rejected notAdmitted _

/-- A kind test passes if having the tag and being negated differ. -/
theorem testKind_eq (tag : Text) (negated : Bool) (value : Value) (name : Text) :
    testKind Value.tag tag negated value name =
      if decide (value.tag = tag) ≠ negated then .ok none
      else reject value name (kindReason tag negated) := by
  unfold testKind
  cases negated with
  | _ => simp

theorem testKind_tells (isWritable : value.isWritable = true) (tag : Text)
    (negated : Bool)
    (name : Text) :
    Tells (decide (value.tag = tag) ≠ negated) mayFail
      (testKind Value.tag tag negated value name) := by
  rw [testKind_eq]
  split
  · rename_i differs
    exact .accepted differs
  · rename_i agrees
    exact reject_tells isWritable agrees _ _

theorem testFormat_tells {literal : Literal} {pattern : Pattern}
    (compiled : literal.compile = .ok pattern) (isWritable : value.isWritable = true)
    (name : Text) :
    Tells (literal.Admits value) (SearchFails [literal] value)
      (testFormat Value.tag literal pattern value name) := by
  unfold testFormat
  split
  · rename_i isString
    have isStringKind := Value.tag_eq_iff.mp isString
    split
    · rename_i text isText
      cases searched : pattern.search text with
      | ok isFound =>
          have admits :=
            Literal.admits_iff_of_search compiled isStringKind isText searched
          cases isFound with
          | true => exact .accepted (admits.mpr rfl)
          | false => exact reject_tells isWritable (by simp [admits]) _ _
      | error fault =>
          exact .failed ⟨literal, by simp, pattern, text, compiled, .own isText, searched⟩
    · rename_i noText
      obtain ⟨text, isText⟩ := Value.exists_text_of_kind isStringKind
      rw [noText] at isText
      cases isText
  · rename_i notString
    exact reject_tells isWritable
      (fun admits => notString (Value.tag_eq_iff.mpr admits.1)) _ _

end Tests

/-! ## Groups -/

/-- A group of one check is run like that check. -/
theorem run_ofGroup (tagOf : Value → Text) (checks : List Check) (value : Value)
    (name : Text) :
    (ofGroup checks).run tagOf value name = runAny tagOf checks value name := by
  match checks with
  | [] => simp [ofGroup, run]
  | [check] => rw [ofGroup, runAny]
  | first :: second :: rest => simp [ofGroup, run]

/-- A group decides the union of what its checks decide. -/
theorem ofGroup_decides {nodes : List Alternative} {checks : List Check}
    {admits : Alternative → Value → Prop} {written : Alternative → List Literal}
    (each : List.Forall₂ (fun node check => check.Decides (admits node) (written node))
      nodes checks)
    (isNonempty : nodes ≠ []) :
    (ofGroup checks).Decides (fun value => ∃ node ∈ nodes, admits node value)
      (nodes.flatMap written) := by
  intro value name isWritable
  rw [run_ofGroup]
  induction each with
  | nil => exact absurd rfl isNonempty
  | @cons node check rest others decides each inductionHypothesis =>
      rw [List.flatMap_cons]
      have tells :=
        decides.mono (List.subset_append_left (written node) (rest.flatMap written))
        value name isWritable
      cases each with
      | nil =>
          rw [runAny]
          exact tells.of_iff (by simp)
      | cons second later =>
          rw [runAny]
          have restTells := (inductionHypothesis (by simp)).mono fun _ fails =>
            fails.mono (List.subset_append_right (written node) _)
          exact (tells.or restTells).of_iff (by simp)

/-! ## Members -/

/-- Some members are those of a value: they have its member values and its keys, and all
of them have a name. -/
structure Covers (members : List Member) (value : Value) : Prop where
  value_mem : ∀ member ∈ members, member.value ∈ value.memberValues
  exists_value : ∀ item ∈ value.memberValues, ∃ member ∈ members, member.value = item
  key_mem : ∀ member ∈ members, ∀ key path, member.key = some (key, path) →
    key ∈ value.memberKeys
  exists_key : ∀ key ∈ value.memberKeys, ∃ member ∈ members, ∃ path,
    member.key = some (key, path)
  isNamed : ∀ member ∈ members, ∃ path, member.name = some path

/-- The members of an array are those of a value with items. -/
theorem covers_itemMembers {value : Value} {items : List Value}
    (hasItems : value.items? = some items) (noEntries : value.entries? = none)
    (name : Text) :
    Covers (itemMembers name items) value := by
  have values : value.memberValues = items := by simp [Value.memberValues, hasItems]
  have keys : value.memberKeys = [] := by simp [Value.memberKeys, noEntries]
  constructor
  · intro member isMember
    obtain ⟨index, isBelow, rfl⟩ := List.mem_mapIdx.mp isMember
    simp [values]
  · intro item isMember
    rw [values] at isMember
    obtain ⟨index, isBelow, rfl⟩ := List.mem_iff_getElem.mp isMember
    exact ⟨_, List.mem_mapIdx.mpr ⟨index, isBelow, rfl⟩, rfl⟩
  · intro member isMember key path isKey
    obtain ⟨index, isBelow, rfl⟩ := List.mem_mapIdx.mp isMember
    cases isKey
  · simp [keys]
  · intro member isMember
    obtain ⟨index, isBelow, rfl⟩ := List.mem_mapIdx.mp isMember
    exact ⟨_, rfl⟩

/-- The members of an object or a map are those of a value with
entries, if they have names. -/
theorem covers_of_entries {value : Value} {entries : List (Value × Value)}
    (noItems : value.items? = none) (hasEntries : value.entries? = some entries)
    {toMember : Nat → Value × Value → Member}
    (isKey : ∀ index entry, ∃ path, (toMember index entry).key = some (entry.1, path))
    (isValue : ∀ index entry, (toMember index entry).value = entry.2)
    (isNamed : ∀ index, ∀ entry ∈ entries, ∃ path,
      (toMember index entry).name = some path) :
    Covers (entries.mapIdx toMember) value := by
  have values : value.memberValues = entries.map Prod.snd := by
    simp [Value.memberValues, noItems, hasEntries]
  have keys : value.memberKeys =
      entries.map Prod.fst := by simp [Value.memberKeys, hasEntries]
  have reached : ∀ entry ∈ entries, ∃ index,
      toMember index entry ∈ entries.mapIdx toMember := by
    intro entry isEntry
    obtain ⟨index, isBelow, rfl⟩ := List.mem_iff_getElem.mp isEntry
    exact ⟨index, List.mem_mapIdx.mpr ⟨index, isBelow, rfl⟩⟩
  constructor
  · intro member isMember
    obtain ⟨index, isBelow, rfl⟩ := List.mem_mapIdx.mp isMember
    rw [values, isValue]
    exact List.mem_map_of_mem (List.getElem_mem isBelow)
  · intro item isItem
    rw [values] at isItem
    obtain ⟨entry, isEntry, rfl⟩ := List.mem_map.mp isItem
    obtain ⟨index, isReached⟩ := reached entry isEntry
    exact ⟨_, isReached, isValue index entry⟩
  · intro member isMember key path hasKey
    obtain ⟨index, isBelow, rfl⟩ := List.mem_mapIdx.mp isMember
    obtain ⟨own, hasOwn⟩ := isKey index entries[index]
    rw [hasOwn] at hasKey
    cases hasKey
    rw [keys]
    exact List.mem_map_of_mem (List.getElem_mem isBelow)
  · intro key isMemberKey
    rw [keys] at isMemberKey
    obtain ⟨entry, isEntry, rfl⟩ := List.mem_map.mp isMemberKey
    obtain ⟨index, isReached⟩ := reached entry isEntry
    exact ⟨_, isReached, isKey index entry⟩
  · intro member isMember
    obtain ⟨index, isBelow, rfl⟩ := List.mem_mapIdx.mp isMember
    exact isNamed index _ (List.getElem_mem isBelow)

/-- A value with the tag of a shape is gone through in that shape. -/
theorem exists_members {shape : Shape} {value : Value}
    (isShape : Shape.ofTag? value.tag = some shape) (isWritable : value.isWritable = true)
    (name : Text) :
    ∃ members, shape.members value name = .ok members ∧ Covers members value := by
  unfold Shape.ofTag? at isShape
  split at isShape
  · rename_i isArray
    cases isShape
    obtain ⟨⟨items, hasItems⟩, noEntries⟩ :=
      Value.exists_items_of_kind (Value.tag_eq_iff.mp isArray)
    refine ⟨itemMembers name items, ?_, covers_itemMembers hasItems noEntries name⟩
    simp [Shape.members, Value.elements?_of_items? hasItems]
  · split at isShape
    · rename_i isObject
      cases isShape
      obtain ⟨⟨entries, hasEntries⟩, noItems⟩ :=
        Value.exists_entries_of_kind (.inl (Value.tag_eq_iff.mp isObject))
      refine ⟨fieldMembers name entries, ?_, ?_⟩
      · simp [Shape.members, Value.entries_of_entries? hasEntries, Except.map]
      · refine covers_of_entries noItems hasEntries (fun _ _ => ⟨_, rfl⟩)
          (fun _ _ => rfl) ?_
        intro index entry isEntry
        have keyIsWritable :=
          (Value.isWritable_of_entries isWritable hasEntries entry isEntry).1
        simp [fieldName?, Value.plain?, keyIsWritable]
    · split at isShape
      · rename_i isMap
        cases isShape
        obtain ⟨⟨entries, hasEntries⟩, noItems⟩ :=
          Value.exists_entries_of_kind (.inr (Value.tag_eq_iff.mp isMap))
        refine ⟨entryMembers name entries, ?_, ?_⟩
        · simp [Shape.members, Value.entries_of_entries? hasEntries, Except.map]
        · exact covers_of_entries noItems hasEntries (fun _ _ => ⟨_, rfl⟩)
            (fun _ _ => rfl)
            fun _ _ _ => ⟨_, rfl⟩
      · cases isShape

/-- Of the first member the key is looked at, then the name and
the value, and then the rest. -/
theorem firstRejection_cons (keyTest test : Value → Text → Outcome) (member : Member)
    (rest : List Member) :
    firstRejection keyTest test (member :: rest) =
      (match member.key with
        | some (key, path) => keyTest key path
        | none => .ok none) >>= fun ofKey =>
          match ofKey with
          | some rejected => .ok (some rejected)
          | none =>
              match member.name with
              | none => .error .unwritable
              | some path =>
                  test member.value path >>= fun ofValue =>
                    match ofValue with
                    | some rejected => .ok (some rejected)
                    | none => firstRejection keyTest test rest := by
  rw [firstRejection]
  cases member.key <;> rfl

/-- Going through members tells if all their keys and values are admitted. -/
theorem firstRejection_tells {keyTest test : Value → Text → Outcome}
    {members : List Member}
    {admitsKey admits : Value → Prop} {mayFail : Pattern.SearchFault → Prop}
    (keyTells : ∀ member ∈ members, ∀ key path, member.key = some (key, path) →
      Tells (admitsKey key) mayFail (keyTest key path))
    (valueTells : ∀ member ∈ members, ∀ path,
      Tells (admits member.value) mayFail (test member.value path))
    (isNamed : ∀ member ∈ members, ∃ path, member.name = some path) :
    Tells
      (∀ member ∈ members,
        (∀ key path, member.key = some (key, path) → admitsKey key) ∧ admits member.value)
      mayFail (firstRejection keyTest test members) := by
  induction members with
  | nil =>
      rw [firstRejection]
      exact .accepted (by simp)
  | cons member rest inductionHypothesis =>
      have restTells := inductionHypothesis
        (fun other isLater => keyTells other (List.mem_cons_of_mem _ isLater))
        (fun other isLater => valueTells other (List.mem_cons_of_mem _ isLater))
        (fun other isLater => isNamed other (List.mem_cons_of_mem _ isLater))
      obtain ⟨path, hasName⟩ := isNamed member List.mem_cons_self
      have ofValue := (valueTells member List.mem_cons_self path).and fun _ => restTells
      rw [firstRejection, hasName]
      cases hasKey : member.key with
      | none =>
          refine ofValue.of_iff ?_
          rw [List.forall_mem_cons, hasKey]
          simp
      | some entry =>
          obtain ⟨key, keyPath⟩ := entry
          have ofKey :=
            (keyTells member List.mem_cons_self key keyPath hasKey).and fun _ => ofValue
          refine ofKey.of_iff ?_
          rw [List.forall_mem_cons, hasKey, and_assoc]
          simp

/-- The test for the keys of a container, which accepts every key if
there is no check for them. -/
def keyTest : Option Check → Value → Text → Outcome
  | none, _, _ => .ok none
  | some check, item, path => check.run Value.tag item path

/-- A container is run by its own check first, and then on its members. -/
theorem run_container (own member : Check) (shape : Shape) (key : Option Check)
    (value : Value)
    (name : Text) :
    (container own shape member key).run Value.tag value name =
      own.run Value.tag value name >>= fun
        | some rejection => .ok (some rejection)
        | none => shape.members value name >>= fun members =>
            firstRejection (keyTest key) (member.run Value.tag) members := by
  cases key with
  | none =>
      rw [run]
      rfl
  | some check =>
      rw [run]
      rfl

/-- A check of a container decides the containers that it admits themselves and all of
whose keys and values it admits. -/
theorem container_decides {tag : Text} {shape : Shape} {own member : Check}
    {key : Option Check} {admitsOwn admitsKey admits : Value → Prop}
    {literals : List Literal}
    (isShape : Shape.ofTag? tag = some shape)
    (tag_eq : ∀ value, admitsOwn value → value.tag = tag)
    (ownDecides : own.Decides admitsOwn literals)
    (memberDecides : member.Decides admits literals)
    (keyDecides : ∀ check, key = some check → check.Decides admitsKey literals)
    (noKey : key = none → ∀ value, admitsKey value) :
    (container own shape member key).Decides
      (fun value => admitsOwn value ∧
        (∀ item ∈ value.memberValues, admits item) ∧ ∀ entry ∈ value.memberKeys,
          admitsKey entry)
      literals := by
  intro value name isWritable
  have keyTells : ∀ item ∈ value.memberKeys, ∀ path,
      Tells (admitsKey item) (SearchFails literals value) (keyTest key item path) := by
    intro item isKey path
    cases key with
    | none => exact .accepted (noKey rfl item)
    | some check =>
        have itemIsWritable := Value.isWritable_of_mem_memberKeys isWritable isKey
        exact (keyDecides check rfl item path itemIsWritable).mono fun _ fails =>
          fails.ofKey isKey
  have valueTells : ∀ item ∈ value.memberValues, ∀ path,
      Tells (admits item) (SearchFails literals value)
        (member.run Value.tag item path) := by
    intro item isMember path
    have itemIsWritable := Value.isWritable_of_mem_memberValues isWritable isMember
    exact (memberDecides item path itemIsWritable).mono fun _ fails =>
      fails.ofValue isMember
  rw [run_container]
  refine (ownDecides value name isWritable).and fun isAdmitted => ?_
  rw [← tag_eq value isAdmitted] at isShape
  obtain ⟨members, reached, covers⟩ := exists_members isShape isWritable name
  rw [reached]
  have tells := firstRejection_tells
    (fun found isMember item path hasKey =>
      keyTells item (covers.key_mem found isMember item path hasKey) path)
    (fun found isMember path =>
      valueTells found.value (covers.value_mem found isMember) path)
    covers.isNamed
  refine tells.of_iff ⟨fun all => ⟨?_, ?_⟩, fun both found isMember => ⟨?_, ?_⟩⟩
  · intro item isItem
    obtain ⟨found, isMember, rfl⟩ := covers.exists_value item isItem
    exact (all found isMember).2
  · intro item isKey
    obtain ⟨found, isMember, path, hasKey⟩ := covers.exists_key item isKey
    exact (all found isMember).1 item path hasKey
  · intro item path hasKey
    exact both.2 item (covers.key_mem found isMember item path hasKey)
  · exact both.1 found.value (covers.value_mem found isMember)

end Check
end KindExpr
