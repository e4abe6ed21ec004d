import KindExpr.Proofs.Cache.Entries
import KindExpr.Proofs.Preload.Shape
import KindExpr.Proofs.Cache.Recency

/-!
# Operations that fail leave a cache as it was

An operation on a cache does everything that can fail before it changes the cache.
The one trace of a failure is a miss: an expression that has a key is looked up
before it is compiled. Loading a file does everything that can fail about the file
first, and then registers one entry after the other, so that those before the first
one that does not compile are kept.

For each operation it is told when it fails, with which error and which cache it leaves.
-/

namespace KindExpr
namespace CheckCache

variable {cache : CheckCache} {aliases : AliasTable} {expression : Value}
  {placeholders : List Value} {error : Error} {after : CheckCache}

/-! ## Looking up -/

/-- Looking up a text under its key fails if the text does not
compile, and then it is a miss. -/
theorem getKey_eq_error_iff {text : Text} {key : CacheKey}
    (faithful : cache.IsFaithful aliases)
    (hasKey : CacheKey.of? text placeholders = some key) :
    cache.getKey key text placeholders = (.error error, after) ↔
      Check.ofExpression aliases text placeholders = .error error ∧
        after = { cache with misses := cache.misses + 1 } := by
  have compiles := (faithful.getKey hasKey).1
  obtain ⟨check, -, equal⟩ | ⟨check, -, -, equal⟩ | ⟨-, -, own, -, equal⟩ |
    ⟨-, -, check, -, equal⟩ := cache.getKey_cases key text placeholders
  · rw [equal] at compiles
    simp [equal, ← compiles, Except.map]
  · rw [equal] at compiles
    simp [equal, ← compiles, Except.map]
  · rw [equal] at compiles
    simp [equal, ← compiles, Except.map, eq_comm]
  · rw [equal] at compiles
    simp [equal, ← compiles, Except.map]

/-- Looking up an expression fails if it is no text, if a placeholder value cannot be
shown in its key, or if it does not compile. -/
theorem get_eq_error_iff (faithful : cache.IsFaithful aliases) :
    cache.get expression placeholders = (.error error, after) ↔
      (expression.text? = none ∧ error = .expressionType expression.typeName ∧
        after = cache) ∨
      ∃ text, expression.text? = some text ∧
        ((CacheKey.of? text placeholders = none ∧ error = .unwritable ∧ after = cache) ∨
          ∃ key, CacheKey.of? text placeholders = some key ∧
            Check.ofExpression aliases text placeholders = .error error ∧
            after = { cache with misses := cache.misses + 1 }) := by
  unfold get
  cases isText : expression.text? with
  | none => simp [eq_comm]
  | some text =>
      unfold getText
      cases hasKey : CacheKey.of? text placeholders with
      | none => simp [hasKey, eq_comm]
      | some key => simp [getKey_eq_error_iff faithful hasKey, hasKey]

/-! ## Registering -/

/-- Why an expression is not registered. The placeholder values are keyed first, then the
expression is compiled, and then it is keyed itself. -/
inductive RefusesRegistration (aliases : AliasTable) (expression : Value)
    (placeholders : List Value) : Error → Prop where
  /-- A placeholder value cannot be shown in the key. -/
  | unwritable (noKeys : PlaceholderKey.ofValues? placeholders = none) :
      RefusesRegistration aliases expression placeholders .unwritable
  /-- The expression cannot be read or does not compile. -/
  | uncompiled {error : Error} (hasKeys : (PlaceholderKey.ofValues? placeholders).isSome)
      (failed : Check.ofValue aliases expression placeholders = .error error) :
      RefusesRegistration aliases expression placeholders error
  /-- The expression compiles but is no key. -/
  | noKey {check : Check} {fault : SourceFault}
      (hasKeys : (PlaceholderKey.ofValues? placeholders).isSome)
      (compiled : Check.ofValue aliases expression placeholders = .ok check)
      (failed : expression.expressionKey = .error fault) :
      RefusesRegistration aliases expression placeholders (.source fault)

theorem compileKeyed_eq_error_iff :
    compileKeyed aliases expression placeholders = .error error ↔
      RefusesRegistration aliases expression placeholders error := by
  unfold compileKeyed
  constructor
  · intro failed
    cases hasKeys : PlaceholderKey.ofValues? placeholders with
    | none =>
        rw [hasKeys] at failed
        cases failed
        exact .unwritable hasKeys
    | some keys =>
        have areKeys :
            (PlaceholderKey.ofValues? placeholders).isSome := by rw [hasKeys]; rfl
        rw [hasKeys] at failed
        obtain own | ⟨check, compiled, goneOn⟩ := Outcome.bind_eq_error_iff.mp failed
        · exact .uncompiled areKeys own
        · obtain own | ⟨key, hasKey, goneOn⟩ := Outcome.bind_eq_error_iff.mp goneOn
          · cases keyed : expression.expressionKey with
            | error fault =>
                rw [keyed] at own
                cases own
                exact .noKey areKeys compiled keyed
            | ok key =>
                rw [keyed] at own
                cases own
          · cases goneOn
  · intro refuses
    cases refuses with
    | unwritable noKeys => rw [noKeys]
    | uncompiled hasKeys failed =>
        obtain ⟨keys, hasKeys⟩ := Option.isSome_iff_exists.mp hasKeys
        rw [hasKeys, failed]
        rfl
    | noKey hasKeys compiled failed =>
        obtain ⟨keys, hasKeys⟩ := Option.isSome_iff_exists.mp hasKeys
        rw [hasKeys, compiled, failed]
        rfl

/-- An expression that is not registered leaves a cache as it is. -/
theorem register_eq_error_iff :
    cache.register expression placeholders = (.error error, after) ↔
      RefusesRegistration cache.aliases expression placeholders error ∧
        after = cache := by
  rw [← compileKeyed_eq_error_iff]
  unfold register
  cases compileKeyed cache.aliases expression placeholders with
  | error own => simp [eq_comm]
  | ok keyed => simp

/-! ## Loading a file -/

/-- Registering the entries of a list fails if one of them does not compile. Then those
before the first such entry are registered. -/
theorem registerAll_eq_error_iff {entries : List PreloadEntry} :
    cache.registerAll entries = (.error error, after) ↔
      ∃ earlier entry later, entries = earlier ++ entry :: later ∧
        (∀ other ∈ earlier, other.Compiles cache.aliases) ∧
        Check.ofExpression cache.aliases entry.expression entry.values = .error error ∧
        after = cache.afterRun (earlier.map PreloadEntry.registration) := by
  constructor
  · intro failed
    obtain all | ⟨earlier, entry, later, own, rfl, all, entryFails⟩ :=
      PreloadEntry.all_compile_or_first_fails cache.aliases entries
    · rw [registerAll_of_compile all] at failed
      cases failed
    · rw [registerAll_of_first_fails all entryFails] at failed
      cases failed
      exact ⟨earlier, entry, later, rfl, all, entryFails, rfl⟩
  · rintro ⟨earlier, entry, later, rfl, all, entryFails, rfl⟩
    exact registerAll_of_first_fails all entryFails

/-- Loading a file fails if it is no list of entries, or if
registering its entries fails. -/
theorem preload_eq_error_iff {files : Files} {path : Text} :
    cache.preload files path = (.error error, after) ↔
      (∃ fault, PreloadEntry.ofFile files path = .error fault ∧ error = .preload fault ∧
        after = cache) ∨
      ∃ entries, PreloadEntry.ofFile files path = .ok entries ∧
        cache.registerAll entries = (.error error, after) := by
  unfold preload
  cases PreloadEntry.ofFile files path with
  | error fault => simp [eq_comm]
  | ok entries =>
      obtain ⟨result, kept⟩ := cache.registerAll entries
      simp [Prod.ext_iff, Outcome.map_eq_error_iff]

/-- A file whose document is a list with an item that is no
entry is no list of entries. -/
theorem exists_fault_of_ofFile {files : Files} {path : Text} {text : String}
    {items : List Yaml.Datum} {index : Nat} {item : Yaml.Datum} {fault : ShapeFault}
    (isRead : files.read path = .ok text)
    (isDocument : Yaml.Datum.ofText? text PreloadEntry.depth = .ok (.list items))
    (isItem : items[index]? = some item)
    (isNoEntry : PreloadEntry.ofItem index item = .error fault) :
    ∃ first, PreloadEntry.ofFile files path =
      .error (.shape (FilePath.normalize path) first) := by
  have isNoEntryHere : PreloadEntry.ofItem (0 + index) item = .error fault := by
    rwa [Nat.zero_add]
  obtain ⟨first, failed⟩ := PreloadEntry.exists_fault_of_ofItems isItem isNoEntryHere
  refine ⟨first, ?_⟩
  unfold PreloadEntry.ofFile
  simp only [isRead, isDocument, Outcome.mapError_ok, Outcome.ok_bind,
    PreloadEntry.ofDatum, failed, Outcome.mapError_error]

/-! ## All failures -/

/-- When an operation fails after any run from an empty cache,
and what it leaves of the cache.

Looking up what is no text, or what has no key because a placeholder value cannot be
shown, leaves the cache as it is; looking up an expression that does not compile is one
more miss and leaves everything else as it is. An expression that is not registered
leaves the cache as it is, whatever the cache holds. A file that cannot be read, or that
is no list of entries, leaves the cache as it is, and one wrong item is enough for that.
A file with an entry that does not compile leaves the cache to which registering the
entries before it leads. -/
theorem failures_leave_cache (aliases : AliasTable) (capacity : Option Nat)
    (steps : List CacheStep) :
    let cache := (empty aliases capacity).afterRun steps
    (∀ expression placeholders error after,
      cache.get expression placeholders = (.error error, after) ↔
        (expression.text? = none ∧ error = .expressionType expression.typeName ∧
          after = cache) ∨
        ∃ text, expression.text? = some text ∧
          ((CacheKey.of? text placeholders = none ∧ error = .unwritable ∧ after = cache) ∨
            ∃ key, CacheKey.of? text placeholders = some key ∧
              Check.ofExpression aliases text placeholders = .error error ∧
              after = { cache with misses := cache.misses + 1 })) ∧
    (∀ expression placeholders error after,
      cache.register expression placeholders = (.error error, after) ↔
        RefusesRegistration aliases expression placeholders error ∧ after = cache) ∧
    (∀ files path error after,
      cache.preload files path = (.error error, after) ↔
        (∃ fault, PreloadEntry.ofFile files path = .error fault ∧ error = .preload fault ∧
          after = cache) ∨
        ∃ earlier entry later,
          PreloadEntry.ofFile files path = .ok (earlier ++ entry :: later) ∧
            (∀ other ∈ earlier, other.Compiles aliases) ∧
            Check.ofExpression aliases entry.expression entry.values = .error error ∧
            after = cache.afterRun (earlier.map PreloadEntry.registration)) ∧
    (∀ (files : Files) (path : Text) (text : String) (items : List Yaml.Datum)
        (index : Nat) (item : Yaml.Datum) (fault : ShapeFault),
      files.read path = .ok text →
        Yaml.Datum.ofText? text PreloadEntry.depth = .ok (.list items) →
          items[index]? = some item → PreloadEntry.ofItem index item = .error fault →
            ∃ first, cache.preload files path =
              (.error (.preload (.shape (FilePath.normalize path) first)), cache)) := by
  intro cache
  have faithful : cache.IsFaithful aliases := .ofRun aliases capacity steps
  refine ⟨fun expression placeholders error after =>
    get_eq_error_iff faithful, ?_, ?_, ?_⟩
  · intro expression placeholders error after
    rw [register_eq_error_iff, faithful.aliases_eq]
  · intro files path error after
    rw [preload_eq_error_iff]
    refine or_congr_right ?_
    constructor
    · rintro ⟨entries, isRead, failed⟩
      rw [registerAll_eq_error_iff, faithful.aliases_eq] at failed
      obtain ⟨earlier, entry, later, rfl, rest⟩ := failed
      exact ⟨earlier, entry, later, isRead, rest⟩
    · rintro ⟨earlier, entry, later, isRead, rest⟩
      refine ⟨_, isRead, ?_⟩
      rw [registerAll_eq_error_iff, faithful.aliases_eq]
      exact ⟨earlier, entry, later, rfl, rest⟩
  · intro files path text items index item fault isRead isDocument isItem isNoEntry
    obtain ⟨first, isFault⟩ := exists_fault_of_ofFile isRead isDocument isItem isNoEntry
    exact ⟨first, preload_eq_error_iff.mpr (.inl ⟨_, isFault, rfl, rfl⟩)⟩

/-- A file whose second item is a number, behind a lookup that
succeeds and one that fails. -/
theorem failures_leave_cache_wrong_item :
    let files : Files := ⟨[("types", "- str\n- 3\n")]⟩
    let cache :=
      (empty .standard (some 1)).afterRun [.get (.text "num") [], .get (.text "a<") []]
    files.read "types" = .ok "- str\n- 3\n" ∧
      ∃ items index item fault,
        Yaml.Datum.ofText? "- str\n- 3\n" PreloadEntry.depth = .ok (.list items) ∧
          items[index]? = some item ∧ PreloadEntry.ofItem index item = .error fault ∧
          cache.statistics = ⟨1, 0, 0, 2, 0⟩ ∧
          ∃ first, cache.preload files "types" =
            (.error (.preload (.shape (FilePath.normalize "types") first)), cache) := by
  intro files cache
  have isRead : files.read "types" = .ok "- str\n- 3\n" := rfl
  have isYaml :
      (Yaml.Datum.ofText? "- str\n- 3\n" PreloadEntry.depth).map PreloadEntry.ofDatum =
      .ok (.error (.noExpression 1)) := by
    decide +kernel
  obtain ⟨datum, isDocument, refused⟩ := Outcome.map_eq_ok_iff.mp isYaml
  cases datum with
  | list items =>
      obtain ⟨earlier, item, later, rfl, -, isNoEntry⟩ :=
        PreloadEntry.exists_first_of_ofItems refused
      rw [Nat.zero_add] at isNoEntry
      have isItem : (earlier ++ item :: later)[earlier.length]? = some item := by simp
      exact ⟨isRead, _, earlier.length, item, _, isDocument, isItem,
        isNoEntry, by decide +kernel,
        (failures_leave_cache .standard (some 1) _).2.2.2 files "types" _ _
          earlier.length item _
          isRead isDocument isItem isNoEntry⟩
  | _ => cases refused

/-- The third entry of the file is no expression. The first two are kept, one of which
takes the place of the check that was looked up before. -/
example :
    let files : Files := ⟨[("types", "- str\n- num\n- num<\n- bool\n")]⟩
    let cache :=
      (empty .standard (some 1)).afterRun [.get (.text "num") [], .get (.text "a<") []]
    cache.statistics = ⟨1, 0, 0, 2, 0⟩ ∧
      (cache.preload files "types").2.statistics = ⟨2, 2, 0, 2, 0⟩ := by
  decide +kernel

end CheckCache
end KindExpr
