import KindExpr.Json.Reader
import KindExpr.Proofs.Number.Integer
import KindExpr.Proofs.Outcome
import KindExpr.Proofs.Value.Writable

/-!
# What JSON texts write can be shown

A numeral is read only if it has no more digits than a number may have that is shown. So
a value that is read from a JSON text can be shown, with everything in it.
-/

namespace KindExpr

/-! ## Entries of objects -/

namespace Value

/-- Whether everything in some entries can be shown. -/
def AreWritable (entries : List (Value × Value)) : Prop :=
  ∀ entry ∈ entries, entry.1.isWritable = true ∧ entry.2.isWritable = true

theorem AreWritable.cons {key value : Value} {entries : List (Value × Value)}
    (keyIsWritable : key.isWritable = true) (isWritable : value.isWritable = true)
    (areWritable : AreWritable entries) : AreWritable ((key, value) :: entries) :=
  List.forall_mem_cons.mpr ⟨⟨keyIsWritable, isWritable⟩, areWritable⟩

theorem AreWritable.insertEntry {entries : List (Value × Value)} {key value : Value}
    (areWritable : AreWritable entries) (keyIsWritable : key.isWritable = true)
    (isWritable : value.isWritable = true) :
    AreWritable (insertEntry entries key value) := by
  intro entry isEntry
  unfold Value.insertEntry at isEntry
  split at isEntry
  · obtain ⟨old, isOld, rfl⟩ := List.mem_map.mp isEntry
    split
    · exact ⟨(areWritable old isOld).1, isWritable⟩
    · exact areWritable old isOld
  · obtain isOld | isNew := List.mem_append.mp isEntry
    · exact areWritable entry isOld
    · cases List.mem_singleton.mp isNew
      exact ⟨keyIsWritable, isWritable⟩

/-- The entries of a mapping that is built from pairs can be shown if the pairs can. -/
theorem AreWritable.entriesOfPairs {pairs : List (Value × Value)}
    (areWritable : AreWritable pairs) : AreWritable (entriesOfPairs pairs) := by
  suffices general : ∀ entries, AreWritable entries → AreWritable
      (pairs.foldl (fun entries pair => Value.insertEntry entries pair.1 pair.2)
        entries) from
    general [] (List.forall_mem_nil _)
  induction pairs with
  | nil => exact fun entries areEntries => areEntries
  | cons pair rest inductionHypothesis =>
      obtain ⟨⟨keyIsWritable, isWritable⟩, restAreWritable⟩ :=
        List.forall_mem_cons.mp areWritable
      exact fun entries areEntries => inductionHypothesis restAreWritable _
        (areEntries.insertEntry keyIsWritable isWritable)

/-- A mapping can be shown if everything in its entries can be. -/
theorem AreWritable.isWritable_mapping {entries : List (Value × Value)}
    (areWritable : AreWritable entries) (form : MappingForm) :
    (mapping form entries).isWritable = true :=
  (isWritable_container?_iff rfl).mpr
    ⟨List.forall_mem_map.mpr fun entry isEntry => (areWritable entry isEntry).1,
      List.forall_mem_map.mpr fun entry isEntry => (areWritable entry isEntry).2⟩

end Value

/-! ## Reading -/

namespace Json

/-- The words stand for values that can be shown. -/
theorem isWritable_of_word? {cursor after : Cursor} {value : Value}
    (isWord : word? cursor = some (value, after)) : value.isWritable = true := by
  obtain ⟨entry, found, isEntry⟩ := Option.map_eq_some_iff.mp isWord
  cases isEntry
  have allWritable : ∀ entry ∈ words, entry.2.isWritable = true := by decide
  exact allWritable entry (List.mem_of_find?_eq_some found)

/-- A number that is read can be shown. -/
theorem isWritable_of_readNumber {cursor after : Cursor} {value : Value}
    (read : readNumber cursor = .ok (value, after)) : value.isWritable = true := by
  unfold readNumber at read
  dsimp only at read
  generalize (if cursor.rest.head? = some '-' then [Code.char '-'] else []) = sign at read
  split at read
  · cases read
  · split at read
    · split at read
      · rename_i number isNumeral
        cases read
        exact Numeral.isWritable_of_integer? isNumeral
      · cases read
    · cases read
      rfl

mutual

theorem isWritable_of_readValue {cursor after : Cursor} {value : Value} :
    ∀ fuel, readValue fuel cursor = .ok (value, after) → value.isWritable = true
  | 0, read => by cases read
  | fuel + 1, read => by
      rw [readValue] at read
      split at read
      · obtain ⟨⟨text, last⟩, -, isText⟩ := Outcome.bind_eq_ok_iff.mp read
        cases isText
        rfl
      · dsimp only at read
        split at read
        · cases read
          rfl
        · obtain ⟨⟨items, last⟩, itemsRead, isList⟩ := Outcome.bind_eq_ok_iff.mp read
          cases isList
          exact (Value.isWritable_container?_iff rfl).mpr
            ⟨List.forall_mem_nil _, areWritable_of_readItems fuel itemsRead⟩
      · dsimp only at read
        split at read
        · cases read
          rfl
        · obtain ⟨⟨fields, last⟩, fieldsRead, isObject⟩ := Outcome.bind_eq_ok_iff.mp read
          cases isObject
          exact (areWritable_of_readFields fuel
            fieldsRead).entriesOfPairs.isWritable_mapping _
      · split at read
        · rename_i found isWord
          cases read
          exact isWritable_of_word? isWord
        · exact isWritable_of_readNumber read

theorem areWritable_of_readItems {cursor after : Cursor} {items : List Value} :
    ∀ fuel, readItems fuel cursor = .ok (items, after) →
      ∀ item ∈ items, item.isWritable = true
  | 0, read => by cases read
  | fuel + 1, read => by
      rw [readItems] at read
      obtain ⟨⟨item, next⟩, itemRead, read⟩ := Outcome.bind_eq_ok_iff.mp read
      have isWritable := isWritable_of_readValue fuel itemRead
      dsimp only at read
      split at read
      · cases read
        exact List.forall_mem_singleton.mpr isWritable
      · obtain ⟨⟨rest, last⟩, restRead, isCons⟩ := Outcome.bind_eq_ok_iff.mp read
        cases isCons
        exact List.forall_mem_cons.mpr
          ⟨isWritable, areWritable_of_readItems fuel restRead⟩
      · cases read

theorem areWritable_of_readFields {cursor after : Cursor}
    {fields : List (Value × Value)} :
    ∀ fuel, readFields fuel cursor = .ok (fields, after) → Value.AreWritable fields
  | 0, read => by cases read
  | fuel + 1, read => by
      rw [readFields] at read
      split at read
      · obtain ⟨⟨name, afterName⟩, -, read⟩ := Outcome.bind_eq_ok_iff.mp read
        dsimp only at read
        split at read
        · obtain ⟨⟨value, next⟩, valueRead, read⟩ := Outcome.bind_eq_ok_iff.mp read
          have isWritable := isWritable_of_readValue fuel valueRead
          dsimp only at read
          split at read
          · cases read
            exact .cons rfl isWritable (List.forall_mem_nil _)
          · obtain ⟨⟨rest, last⟩, restRead, isCons⟩ := Outcome.bind_eq_ok_iff.mp read
            cases isCons
            exact .cons rfl isWritable (areWritable_of_readFields fuel restRead)
          · cases read
        · cases read
      · cases read

end

/-- A value that a JSON text writes can be shown. -/
theorem isWritable_of_read {text : List Code} {value : Value}
    (isRead : read text = .ok value) :
    value.isWritable = true := by
  unfold read at isRead
  dsimp only at isRead
  split at isRead
  · cases isRead
  · obtain ⟨⟨found, last⟩, foundRead, isFound⟩ := Outcome.bind_eq_ok_iff.mp isRead
    dsimp only at isFound
    split at isFound
    · cases isFound
      exact isWritable_of_readValue _ foundRead
    · cases isFound

end Json
end KindExpr
