import KindExpr.Proofs.Cache.Transparency

/-!
# Registering the entries of a file

An entry of a file is a text with texts for its placeholders. It always has a key, so
that registering it fails only if it does not compile. Registering the entries of a list
therefore is registering them one by one, up to the first that does not compile.
-/

namespace KindExpr

/-! ## Entries -/

namespace PreloadEntry

/-- The placeholder values of an entry. -/
def values (entry : PreloadEntry) : List Value :=
  entry.placeholders.map Value.text

/-- The key under which an entry is registered. -/
def key (entry : PreloadEntry) : CacheKey :=
  ⟨.text entry.expression, entry.placeholders.map .text⟩

/-- Whether the expression of an entry compiles. -/
def Compiles (aliases : AliasTable) (entry : PreloadEntry) : Prop :=
  ∃ check, Check.ofExpression aliases entry.expression entry.values = .ok check

/-- The operation that registers an entry. -/
def registration (entry : PreloadEntry) : CacheStep :=
  .register (.text entry.expression) entry.values

/-- An entry is keyed if it compiles. -/
theorem compileKeyed_eq (aliases : AliasTable) (entry : PreloadEntry) :
    CheckCache.compileKeyed aliases (.text entry.expression) entry.values =
      (Check.ofExpression aliases entry.expression entry.values).map (entry.key, ·) := by
  unfold CheckCache.compileKeyed
  rw [values, PlaceholderKey.ofValues_texts]
  simp only [Check.ofValue, Value.text?]
  cases Check.ofExpression aliases entry.expression
    (entry.placeholders.map Value.text) with
  | error error => rfl
  | ok check => rfl

/-- Either all entries of a list compile, or there is a first one that does not. -/
theorem all_compile_or_first_fails (aliases : AliasTable) (entries : List PreloadEntry) :
    (∀ entry ∈ entries, entry.Compiles aliases) ∨
      ∃ earlier entry later error, entries = earlier ++ entry :: later ∧
        (∀ other ∈ earlier, other.Compiles aliases) ∧
        Check.ofExpression aliases entry.expression entry.values = .error error := by
  obtain all | ⟨earlier, entry, later, rfl, all, notCompiled⟩ :=
    Outcome.forall_or_exists_first (Compiles aliases) entries
  · exact .inl all
  · refine .inr ⟨earlier, entry, later, ?_⟩
    cases compiled : Check.ofExpression aliases entry.expression entry.values with
    | error error => exact ⟨error, rfl, all, rfl⟩
    | ok check => exact absurd ⟨check, compiled⟩ notCompiled

/-- A list with an item that is no entry is no list of entries. -/
theorem exists_fault_of_ofItems {items : List Yaml.Datum} {start index : Nat}
    {item : Yaml.Datum}
    {fault : ShapeFault} (isItem : items[index]? = some item)
    (isNoEntry : ofItem (start + index) item = .error fault) :
    ∃ first, ofItems start items = .error first := by
  induction items generalizing start index with
  | nil => simp at isItem
  | cons own rest inductionHypothesis =>
      unfold ofItems
      cases isOwn : ofItem start own with
      | error first => exact ⟨first, rfl⟩
      | ok entry =>
          cases index with
          | zero =>
              cases isItem
              rw [Nat.add_zero, isOwn] at isNoEntry
              cases isNoEntry
          | succ index =>
              have isLater : ofItem (start + 1 + index) item = .error fault := by
                rwa [Nat.add_right_comm]
              obtain ⟨first, failed⟩ := inductionHypothesis isItem isLater
              refine ⟨first, ?_⟩
              rw [Outcome.ok_bind, failed]
              rfl

end PreloadEntry

/-! ## Registering entries -/

namespace CheckCache

variable {cache : CheckCache}

/-- Registering an expression leaves the alias table as it is. -/
theorem register_aliases (cache : CheckCache) (expression : Value)
    (placeholders : List Value) :
    (cache.register expression placeholders).2.aliases = cache.aliases := by
  unfold register
  cases compileKeyed cache.aliases expression placeholders with
  | error error => rfl
  | ok keyed => rfl

/-- An entry that does not compile is not registered. -/
theorem register_of_entry_fails {entry : PreloadEntry} {error : Error}
    (failed : Check.ofExpression cache.aliases entry.expression entry.values =
      .error error) :
    cache.register (.text entry.expression) entry.values = (.error error, cache) := by
  unfold register
  rw [PreloadEntry.compileKeyed_eq, failed]
  rfl

/-- An entry that compiles is registered. -/
theorem register_of_entry_compiles {entry : PreloadEntry}
    (compiles : entry.Compiles cache.aliases) :
    ∃ found, cache.register (.text entry.expression) entry.values =
      (.ok found, (cache.perform entry.registration).2) := by
  obtain ⟨check, compiled⟩ := compiles
  have performed : (cache.perform entry.registration).2 =
      (cache.register (.text entry.expression) entry.values).2 := rfl
  refine ⟨⟨cache.compilations, check⟩, ?_⟩
  rw [performed]
  unfold register
  rw [PreloadEntry.compileKeyed_eq, compiled]
  rfl

/-- Registering entries leaves the alias table as it is. -/
theorem afterRun_registrations_aliases (cache : CheckCache)
    (entries : List PreloadEntry) :
    (cache.afterRun (entries.map PreloadEntry.registration)).aliases = cache.aliases := by
  induction entries generalizing cache with
  | nil => rfl
  | cons entry rest inductionHypothesis =>
      calc (cache.afterRun ((entry :: rest).map PreloadEntry.registration)).aliases
        _ = (cache.perform entry.registration).2.aliases := inductionHypothesis _
        _ = cache.aliases := cache.register_aliases _ _

/-- Entries that compile are registered one by one before the entries after them. -/
theorem registerAll_append {earlier : List PreloadEntry}
    (compile : ∀ entry ∈ earlier, entry.Compiles cache.aliases)
    (later : List PreloadEntry) :
    cache.registerAll (earlier ++ later) =
      (cache.afterRun (earlier.map PreloadEntry.registration)).registerAll later := by
  induction earlier generalizing cache with
  | nil => rfl
  | cons entry rest inductionHypothesis =>
      rw [List.forall_mem_cons] at compile
      obtain ⟨found, registered⟩ := register_of_entry_compiles compile.1
      have sameAliases : (cache.perform entry.registration).2.aliases = cache.aliases :=
        cache.register_aliases _ _
      rw [← sameAliases] at compile
      rw [List.cons_append, registerAll, ← PreloadEntry.values, registered]
      exact inductionHypothesis compile.2

/-- Registering the entries of a list succeeds if all of them compile. -/
theorem registerAll_of_compile {entries : List PreloadEntry}
    (compile : ∀ entry ∈ entries, entry.Compiles cache.aliases) :
    cache.registerAll entries =
      (.ok (), cache.afterRun (entries.map PreloadEntry.registration)) := by
  have registered := registerAll_append compile []
  rwa [List.append_nil] at registered

/-- Registering the entries of a list ends with the first that does not compile. -/
theorem registerAll_of_first_fails {earlier later : List PreloadEntry}
    {entry : PreloadEntry}
    {error : Error} (compile : ∀ other ∈ earlier, other.Compiles cache.aliases)
    (failed : Check.ofExpression cache.aliases entry.expression entry.values =
      .error error) :
    cache.registerAll (earlier ++ entry :: later) =
      (.error error, cache.afterRun (earlier.map PreloadEntry.registration)) := by
  rw [← cache.afterRun_registrations_aliases earlier] at failed
  rw [registerAll_append compile, registerAll, ← PreloadEntry.values,
    register_of_entry_fails failed]

/-- Registering the entries of a list comes to the same for all caches with one alias
table: some of the entries are registered one by one, and the outcome is the same. -/
theorem exists_registrations (aliases : AliasTable) (entries : List PreloadEntry) :
    ∃ (result : Except Error Unit) (registered : List PreloadEntry),
      ∀ cache : CheckCache, cache.aliases = aliases →
        cache.registerAll entries =
          (result, cache.afterRun (registered.map PreloadEntry.registration)) := by
  obtain all | ⟨earlier, entry, later, error, rfl, all, failed⟩ :=
    PreloadEntry.all_compile_or_first_fails aliases entries
  · refine ⟨.ok (), entries, ?_⟩
    rintro cache rfl
    exact registerAll_of_compile all
  · refine ⟨.error error, earlier, ?_⟩
    rintro cache rfl
    exact registerAll_of_first_fails all failed

end CheckCache
end KindExpr
