import KindExpr.Proofs.Cache.Order
import KindExpr.Proofs.Cache.Transparency

/-!
# A cache remembers what it ought to

An expression that is looked up is a hit if its key is registered or was used lately
enough, as the history of the run tells. What a hit gives is what the latest compilation
under the key gave, and what is no hit is compiled anew.

The invariant takes the cache, the history and the compilations of the run together: the
pinned keys are the registered ones, the other keys are in the order of use, and each
check is the one that was compiled last under its key.
-/

namespace KindExpr

/-! ## Tables of checks -/

namespace CheckTable

variable {table : CheckTable} {key : CacheKey} {check : CompiledCheck}

/-- There is a check under the keys of a table. -/
theorem isSome_lookup_iff : (table.lookup key).isSome ↔ key ∈ table.map Prod.fst := by
  rw [List.lookup_isSome_iff, List.mem_map]
  exact exists_congr fun entry => and_congr_right fun _ => beq_iff_eq.trans eq_comm

theorem map_fst_erase (table : CheckTable) (key : CacheKey) :
    (table.erase key).map Prod.fst = (table.map Prod.fst).filter (· ≠ key) := by
  rw [erase, List.filter_map]
  rfl

theorem map_fst_put (table : CheckTable) (key : CacheKey) (check : CompiledCheck) :
    (table.put key check).map Prod.fst =
      key :: (table.map Prod.fst).filter (· ≠ key) := by
  rw [put, List.map_cons, map_fst_erase]

/-- What is in a table after a check was put into it is that check or has another key. -/
theorem cases_of_mem_put {entry : CacheKey × CompiledCheck}
    (isThere : entry ∈ table.put key check) :
    entry = (key, check) ∨ entry ∈ table ∧ entry.1 ≠ key := by
  rcases List.mem_cons.mp isThere with isNew | isLeft
  · exact .inl isNew
  · exact .inr ⟨mem_of_mem_erase isLeft, of_decide_eq_true (List.mem_filter.mp isLeft).2⟩

/-- Under another key a check is found behind a new one. -/
theorem lookup_cons_of_ne {other : CacheKey} (differs : other ≠ key) :
    List.lookup other ((key, check) :: table) = table.lookup other := by
  rw [List.lookup_cons, beq_eq_false_iff_ne.mpr differs]

end CheckTable

namespace CheckCache

variable {cache : CheckCache} {key : CacheKey} {check : CompiledCheck}

/-! ## Hits and compilations -/

/-- Whether looking up an expression is counted as a hit. -/
def Hits (cache : CheckCache) (expression : Value) (placeholders : List Value) : Prop :=
  (cache.get expression placeholders).2.hits = cache.hits + 1

instance (cache : CheckCache) (expression : Value) (placeholders : List Value) :
    Decidable (cache.Hits expression placeholders) :=
  inferInstanceAs (Decidable (_ = _))

/-- What looking up an expression compiles: the check that
it gives, unless it is a hit. -/
def compiledByGet (cache : CheckCache) (expression : Value) (placeholders : List Value) :
    CheckTable :=
  match CacheKey.ofValue? expression placeholders,
    (cache.get expression placeholders).1 with
  | some key, .ok compiled =>
      if cache.Hits expression placeholders then [] else [(key, compiled)]
  | _, _ => []

/-- What registering an expression compiles. -/
def compiledByRegister (cache : CheckCache) (expression : Value)
    (placeholders : List Value) :
    CheckTable :=
  match compileKeyed cache.aliases expression placeholders,
    (cache.register expression placeholders).1 with
  | .ok (key, _), .ok compiled => [(key, compiled)]
  | _, _ => []

/-- What registering the entries of a list compiles, the last one first. -/
def compiledByAll (cache : CheckCache) : List PreloadEntry → CheckTable
  | [] => []
  | entry :: rest =>
      let expression := Value.text entry.expression
      let placeholders := entry.placeholders.map Value.text
      match cache.register expression placeholders with
      | (.error _, _) => []
      | (.ok _, after) =>
          after.compiledByAll rest ++ cache.compiledByRegister expression placeholders

/-- What registering the entries of a file compiles, the last one first. -/
def compiledByFile (cache : CheckCache) :
    Except PreloadFault (List PreloadEntry) → CheckTable
  | .ok entries => cache.compiledByAll entries
  | .error _ => []

/-- What an operation compiles, the last one first. -/
def compiledBy (cache : CheckCache) : CacheStep → CheckTable
  | .get expression placeholders => cache.compiledByGet expression placeholders
  | .register expression placeholders => cache.compiledByRegister expression placeholders
  | .preload files path => cache.compiledByFile (PreloadEntry.ofFile files path)
  | .clear => []
  | .size => []
  | .contains _ => []
  | .statistics => []

/-- What a run compiles, the last one first. -/
def compiledIn (cache : CheckCache) : List CacheStep → CheckTable
  | [] => []
  | step :: rest => (cache.perform step).2.compiledIn rest ++ cache.compiledBy step

/-! ## What an operation does -/

section

variable (cache)

@[simp] theorem evict_aliases : cache.evict.aliases = cache.aliases := by
  rw [evict]
  split <;> rfl

@[simp] theorem evict_capacity : cache.evict.capacity = cache.capacity := by
  unfold evict
  split <;> rfl

@[simp] theorem evict_pinned : cache.evict.pinned = cache.pinned := by
  rw [evict]
  split <;> rfl

@[simp] theorem evict_hits : cache.evict.hits = cache.hits := by
  rw [evict]
  split <;> rfl

@[simp] theorem evict_compilations : cache.evict.compilations = cache.compilations := by
  rw [evict]
  split <;> rfl

/-- Evicting checks leaves the first keys. -/
theorem map_fst_evict :
    cache.evict.recent.map Prod.fst =
      capped cache.capacity (cache.recent.map Prod.fst) := by
  rw [evict]
  split
  · rename_i isUnbounded
    rw [isUnbounded, capped]
  · rename_i bound isBounded
    rw [isBounded, capped, List.map_take]

theorem mem_of_mem_evict {entry : CacheKey × CompiledCheck}
    (isLeft : entry ∈ cache.evict.recent) :
    entry ∈ cache.recent := by
  rw [evict] at isLeft
  split at isLeft
  · exact isLeft
  · exact List.mem_of_mem_take isLeft

end

/-- What looking up an expression under its key comes to. -/
theorem getKey_cases (cache : CheckCache) (key : CacheKey) (expression : Text)
    (placeholders : List Value) :
    (∃ check, cache.pinned.lookup key = some check ∧
      cache.getKey key expression placeholders =
        (.ok check, { cache with hits := cache.hits + 1 })) ∨
    (∃ check, cache.pinned.lookup key = none ∧ cache.recent.lookup key = some check ∧
      cache.getKey key expression placeholders =
        (.ok check, { cache with
          recent := cache.recent.put key check, hits := cache.hits + 1 })) ∨
    (cache.pinned.lookup key = none ∧ cache.recent.lookup key = none ∧
      ∃ error, Check.ofExpression cache.aliases expression placeholders = .error error ∧
        cache.getKey key expression placeholders =
          (.error error, { cache with misses := cache.misses + 1 })) ∨
    (cache.pinned.lookup key = none ∧ cache.recent.lookup key = none ∧
      ∃ check, Check.ofExpression cache.aliases expression placeholders = .ok check ∧
        cache.getKey key expression placeholders =
          (.ok ⟨cache.compilations, check⟩,
            remember { cache with misses := cache.misses + 1
                                  compilations := cache.compilations + 1 }
              key ⟨cache.compilations, check⟩)) := by
  cases isPinned : cache.pinned.lookup key with
  | some check => exact .inl ⟨check, rfl, by simp [getKey, use?, isPinned]⟩
  | none =>
      cases isRecent : cache.recent.lookup key with
      | some check =>
          exact .inr (.inl ⟨check, rfl, rfl, by simp [getKey, use?, isPinned, isRecent]⟩)
      | none =>
          have unused : cache.use? key = none := by simp [use?, isPinned, isRecent]
          cases compiled : Check.ofExpression cache.aliases expression placeholders with
          | error error =>
              exact .inr (.inr
                (.inl ⟨rfl, rfl, error, rfl, by simp [getKey, unused, compiled]⟩))
          | ok check =>
              refine .inr (.inr (.inr ⟨rfl, rfl, check, rfl, ?_⟩))
              simp only [getKey, unused, compiled, numbered]

end CheckCache

/-- The key of an expression is the key of its text. -/
theorem CacheKey.ofValue_eq_some_iff {expression : Value} {placeholders : List Value}
    {key : CacheKey} :
    CacheKey.ofValue? expression placeholders = some key ↔
      ∃ text, expression.text? = some text ∧ CacheKey.of? text placeholders = some key :=
  Option.bind_eq_some_iff

namespace CheckCache

variable {cache : CheckCache} {key : CacheKey} {expression : Value}
  {placeholders : List Value}

/-- An expression with a key is looked up under it. -/
theorem get_of_text {text : Text} (isText : expression.text? = some text)
    (hasKey : CacheKey.of? text placeholders = some key) :
    cache.get expression placeholders = cache.getKey key text placeholders := by
  simp only [get, isText, getText, hasKey]

/-- An expression without a key is not found, and the cache stays as it is. -/
theorem get_of_no_key (cache : CheckCache)
    (noKey : CacheKey.ofValue? expression placeholders = none) :
    ∃ error, cache.get expression placeholders = (.error error, cache) := by
  rw [get]
  split
  · rename_i text isText
    have noKeyOfText : CacheKey.of? text placeholders = none := by
      simpa [CacheKey.ofValue?, isText] using noKey
    exact ⟨.unwritable, by rw [getText, noKeyOfText]⟩
  · exact ⟨_, rfl⟩

/-- A hit is a check that the cache has. -/
theorem hits_iff_hasKey (hasKey : CacheKey.ofValue? expression placeholders = some key) :
    cache.Hits expression placeholders ↔ cache.hasKey key = true := by
  obtain ⟨text, isText, hasKey⟩ := CacheKey.ofValue_eq_some_iff.mp hasKey
  rw [Hits, get_of_text isText hasKey, CheckCache.hasKey]
  obtain ⟨check, isPinned, equal⟩ | ⟨check, notPinned, isRecent, equal⟩ |
    ⟨notPinned, notRecent, error, -, equal⟩ | ⟨notPinned, notRecent, check, -, equal⟩ :=
      cache.getKey_cases key text placeholders
  · simp [equal, isPinned]
  · simp [equal, isRecent]
  · simp [equal, notPinned, notRecent]
  · simp [equal, notPinned, notRecent, remember]

/-! ## The invariant -/

/-- Whether a cache has what it ought to have after a history and some compilations. -/
structure Recalls (aliases : AliasTable) (capacity : Option Nat) (past : List CacheEvent)
    (log : CheckTable) (cache : CheckCache) : Prop where
  faithful : cache.IsFaithful aliases
  capacity_eq : cache.capacity = capacity
  mem_pinned_iff : ∀ key, key ∈ cache.pinned.map Prod.fst ↔ key ∈ registeredKeys past
  order : IsOrderOfUse capacity past (cache.recent.map Prod.fst)
  ofRecent : ∀ entry ∈ cache.recent, log.lookup entry.1 = some entry.2
  ofPinned : ∀ entry ∈ cache.pinned, log.lookup entry.1 = some entry.2
  isNumbered : ∀ entry ∈ log, entry.2.number < cache.compilations

namespace Recalls

variable {aliases : AliasTable} {capacity : Option Nat} {past : List CacheEvent}
  {log : CheckTable}

theorem empty (aliases : AliasTable) (capacity : Option Nat) :
    Recalls aliases capacity [] [] (CheckCache.empty aliases capacity) where
  faithful := .empty aliases capacity
  capacity_eq := rfl
  mem_pinned_iff _ := Iff.rfl
  order := .nil capacity
  ofRecent _ isThere := nomatch isThere
  ofPinned _ isThere := nomatch isThere
  isNumbered _ isThere := nomatch isThere

/-- A cache has a key if it ought to remember it. -/
theorem hasKey_iff (recalls : Recalls aliases capacity past log cache) (key : CacheKey) :
    cache.hasKey key = true ↔ IsRemembered capacity key past := by
  rw [hasKey, Bool.or_eq_true, CheckTable.isSome_lookup_iff, CheckTable.isSome_lookup_iff,
    recalls.mem_pinned_iff, recalls.order.mem_iff, IsRemembered]
  by_cases isRegistered : key ∈ registeredKeys past
  · simp [isRegistered]
  · simp [isRegistered]

/-- Using a pinned check leaves a cache with what it ought to have. -/
theorem usePinned (recalls : Recalls aliases capacity past log cache)
    (isPinned : cache.pinned.lookup key = some check) :
    Recalls aliases capacity (past ++ [.got key]) log
      { cache with hits := cache.hits + 1 } where
  faithful := recalls.faithful.ofSameChecks rfl rfl rfl
  capacity_eq := recalls.capacity_eq
  mem_pinned_iff := by simpa using recalls.mem_pinned_iff
  order := by
    refine recalls.order.got_registered ((recalls.mem_pinned_iff key).mp ?_)
    rw [← CheckTable.isSome_lookup_iff, isPinned, Option.isSome_some]
  ofRecent := recalls.ofRecent
  ofPinned := recalls.ofPinned
  isNumbered := recalls.isNumbered

/-- Using a check that is not pinned leaves a cache with what it ought to have. -/
theorem useRecent (recalls : Recalls aliases capacity past log cache)
    (isRecent : cache.recent.lookup key = some check) :
    Recalls aliases capacity (past ++ [.got key]) log
      { cache with recent := cache.recent.put key check, hits := cache.hits + 1 } := by
  have isEntry := CheckTable.mem_of_lookup isRecent
  refine ⟨⟨recalls.faithful.aliases_eq, fun entry isThere => ?_,
    recalls.faithful.ofPinned⟩,
    recalls.capacity_eq, by simpa using recalls.mem_pinned_iff, ?_,
    fun entry isThere => ?_,
    recalls.ofPinned, recalls.isNumbered⟩
  · rcases CheckTable.mem_of_mem_put isThere with rfl | wasThere
    · exact recalls.faithful.ofRecent _ isEntry
    · exact recalls.faithful.ofRecent entry wasThere
  · rw [CheckTable.map_fst_put]
    exact recalls.order.got_of_mem (List.mem_map_of_mem isEntry)
  · rcases CheckTable.mem_of_mem_put isThere with rfl | wasThere
    · exact recalls.ofRecent _ isEntry
    · exact recalls.ofRecent entry wasThere

/-- A compilation has the highest number. -/
theorem isNumbered_cons (recalls : Recalls aliases capacity past log cache)
    (key : CacheKey)
    (check : Check) :
    ∀ entry ∈ (key, (⟨cache.compilations, check⟩ : CompiledCheck)) :: log,
      entry.2.number < cache.compilations + 1 := by
  intro entry isLogged
  rcases List.mem_cons.mp isLogged with rfl | wasLogged
  · exact Nat.lt_succ_self _
  · exact Nat.lt_succ_of_lt (recalls.isNumbered entry wasLogged)

/-- Remembering a check that was compiled under a key the cache does not have leaves a
cache with what it ought to have. -/
theorem remember {check : Check} (recalls : Recalls aliases capacity past log cache)
    (notPinned : cache.pinned.lookup key = none)
    (isCheckOf : (⟨cache.compilations, check⟩ : CompiledCheck).IsCheckOf aliases key) :
    Recalls aliases capacity (past ++ [.got key])
      ((key, ⟨cache.compilations, check⟩) :: log)
      (CheckCache.remember
        { cache with misses := cache.misses + 1, compilations := cache.compilations + 1 }
        key ⟨cache.compilations, check⟩) := by
  have notRegistered : key ∉ registeredKeys past := by
    rw [← recalls.mem_pinned_iff, ← CheckTable.isSome_lookup_iff, notPinned]
    exact Bool.false_ne_true
  have faithful : IsFaithful aliases
      { cache with misses := cache.misses + 1, compilations := cache.compilations + 1 } :=
    recalls.faithful.ofSameChecks rfl rfl rfl
  refine ⟨faithful.remember isCheckOf, ?_, ?_, ?_,
    fun entry isThere => ?_, fun entry isThere => ?_, ?_⟩
  · simpa [CheckCache.remember] using recalls.capacity_eq
  · simpa [CheckCache.remember] using recalls.mem_pinned_iff
  · rw [CheckCache.remember, map_fst_evict, CheckTable.map_fst_put, recalls.capacity_eq]
    exact recalls.order.got notRegistered
  · rcases CheckTable.cases_of_mem_put (mem_of_mem_evict _ isThere) with rfl |
      ⟨wasThere, differs⟩
    · exact List.lookup_cons_self
    · rw [CheckTable.lookup_cons_of_ne differs]
      exact recalls.ofRecent entry wasThere
  · rw [CheckCache.remember, evict_pinned] at isThere
    have differs : entry.1 ≠ key := by
      rintro rfl
      exact notRegistered ((recalls.mem_pinned_iff _).mp (List.mem_map_of_mem isThere))
    rw [CheckTable.lookup_cons_of_ne differs]
    exact recalls.ofPinned entry isThere
  · simpa [CheckCache.remember] using recalls.isNumbered_cons key check

/-- Pinning a check that was compiled leaves a cache with what it ought to have. -/
theorem pin {check : Check} (recalls : Recalls aliases capacity past log cache)
    (isCheckOf : (⟨cache.compilations, check⟩ : CompiledCheck).IsCheckOf aliases key) :
    Recalls aliases capacity (past ++ [.registered key])
      ((key, ⟨cache.compilations, check⟩) :: log)
      (CheckCache.pin { cache with compilations := cache.compilations + 1 }
        key ⟨cache.compilations, check⟩) := by
  have faithful : IsFaithful aliases
      { cache with compilations := cache.compilations + 1 } :=
    recalls.faithful.ofSameChecks rfl rfl rfl
  refine ⟨faithful.pin isCheckOf, recalls.capacity_eq, fun current => ?_, ?_,
    fun entry isThere => ?_, fun entry isThere => ?_, recalls.isNumbered_cons key check⟩
  · rw [CheckCache.pin, CheckTable.map_fst_put, mem_registeredKeys_append_registered,
      ← recalls.mem_pinned_iff]
    by_cases isKey : current = key
    · simp [isKey]
    · simp [isKey]
  · rw [CheckCache.pin, CheckTable.map_fst_erase]
    exact recalls.order.registered key
  · have differs : entry.1 ≠ key := of_decide_eq_true (List.mem_filter.mp isThere).2
    rw [CheckTable.lookup_cons_of_ne differs]
    exact recalls.ofRecent entry (CheckTable.mem_of_mem_erase isThere)
  · rcases CheckTable.cases_of_mem_put isThere with rfl | ⟨wasThere, differs⟩
    · exact List.lookup_cons_self
    · rw [CheckTable.lookup_cons_of_ne differs]
      exact recalls.ofPinned entry wasThere

/-- Looking up an expression leaves a cache with what it ought to have. -/
theorem get (recalls : Recalls aliases capacity past log cache) (expression : Value)
    (placeholders : List Value) :
    Recalls aliases capacity (past ++ gotEvents aliases expression placeholders)
      (cache.compiledByGet expression placeholders ++ log)
      (cache.get expression placeholders).2 := by
  cases hasKeyOrNot : CacheKey.ofValue? expression placeholders with
  | none =>
      obtain ⟨error, equal⟩ := cache.get_of_no_key hasKeyOrNot
      simpa [compiledByGet, gotEvents, hasKeyOrNot, equal] using recalls
  | some key =>
      obtain ⟨text, isText, hasKey⟩ := CacheKey.ofValue_eq_some_iff.mp hasKeyOrNot
      have compiles := (recalls.faithful.getKey hasKey).1
      have hits_iff : cache.Hits expression placeholders ↔ cache.hasKey key = true :=
        hits_iff_hasKey hasKeyOrNot
      simp only [compiledByGet, gotEvents, hasKeyOrNot, Check.ofValue, isText, ← compiles,
        hits_iff, get_of_text isText hasKey, CheckCache.hasKey]
      obtain ⟨check, isPinned, equal⟩ | ⟨check, notPinned, isRecent, equal⟩ |
        ⟨notPinned, notRecent, error, -, equal⟩ |
          ⟨notPinned, notRecent, check, compiled, equal⟩ :=
          cache.getKey_cases key text placeholders
      · simpa [equal, isPinned, Except.map] using recalls.usePinned isPinned
      · simpa [equal, isRecent, Except.map] using recalls.useRecent isRecent
      · have unchanged : Recalls aliases capacity past log
            { cache with misses := cache.misses + 1 } :=
          { recalls with faithful := recalls.faithful.ofSameChecks rfl rfl rfl }
        simpa [equal, Except.map] using unchanged
      · rw [recalls.faithful.aliases_eq] at compiled
        have isCheckOf :=
          CompiledCheck.isCheckOf_of_ofExpression hasKey compiled cache.compilations
        simpa [equal, notPinned, notRecent, Except.map] using recalls.remember
          notPinned isCheckOf

/-- What is registered is compiled and pinned under its key. -/
theorem register (recalls : Recalls aliases capacity past log cache) (expression : Value)
    (placeholders : List Value) :
    Recalls aliases capacity (past ++ registeredEvents aliases expression placeholders)
      (cache.compiledByRegister expression placeholders ++ log)
      (cache.register expression placeholders).2 := by
  rw [registeredEvents, compiledByRegister, CheckCache.register,
    recalls.faithful.aliases_eq]
  cases keyed : compileKeyed aliases expression placeholders with
  | error error => simpa using recalls
  | ok found =>
      obtain ⟨key, check⟩ := found
      exact recalls.pin (CompiledCheck.isCheckOf_of_compileKeyed keyed cache.compilations)

/-- An expression is registered if it compiles and has a key. -/
theorem register_cases (recalls : Recalls aliases capacity past log cache)
    (expression : Value)
    (placeholders : List Value) :
    (∃ error, cache.register expression placeholders = (.error error, cache) ∧
      registeredEvents aliases expression placeholders = []) ∨
    ∃ key compiled after, cache.register expression placeholders = (.ok compiled, after) ∧
      registeredEvents aliases expression placeholders = [.registered key] := by
  rw [registeredEvents, CheckCache.register, recalls.faithful.aliases_eq]
  cases compileKeyed aliases expression placeholders with
  | error error => exact .inl ⟨error, rfl, rfl⟩
  | ok found => exact .inr ⟨found.1, _, _, rfl, rfl⟩

/-- Registering the entries of a list leaves a cache with what it ought to have. -/
theorem registerAll (recalls : Recalls aliases capacity past log cache)
    (entries : List PreloadEntry) :
    Recalls aliases capacity (past ++ registeredEventsOfAll aliases entries)
      (cache.compiledByAll entries ++ log) (cache.registerAll entries).2 := by
  induction entries generalizing cache past log with
  | nil =>
      simpa [registeredEventsOfAll, compiledByAll, CheckCache.registerAll] using recalls
  | cons entry rest inductionHypothesis =>
      have registered := recalls.register (.text entry.expression)
        (entry.placeholders.map Value.text)
      obtain ⟨error, failed, noEvents⟩ | ⟨key, compiled, after, succeeded, event⟩ :=
        recalls.register_cases (.text entry.expression)
          (entry.placeholders.map Value.text)
      · simpa [registeredEventsOfAll, compiledByAll, CheckCache.registerAll,
          failed, noEvents]
          using recalls
      · rw [succeeded] at registered
        have all := inductionHypothesis registered
        simpa [registeredEventsOfAll, compiledByAll, CheckCache.registerAll,
          succeeded, event]
          using all

/-- Loading a file leaves a cache with what it ought to have. -/
theorem preload (recalls : Recalls aliases capacity past log cache) (files : Files)
    (path : Text) :
    Recalls aliases capacity
      (past ++ registeredEventsOfFile aliases (PreloadEntry.ofFile files path))
      (cache.compiledByFile (PreloadEntry.ofFile files path) ++ log)
      (cache.preload files path).2 := by
  unfold CheckCache.preload
  generalize PreloadEntry.ofFile files path = read
  cases read with
  | error fault => simpa [registeredEventsOfFile, compiledByFile] using recalls
  | ok entries => exact recalls.registerAll entries

/-- An empty cache has what it ought to have when there is no history. -/
theorem clear (recalls : Recalls aliases capacity past log cache) :
    Recalls aliases capacity [] log cache.clear where
  faithful := recalls.faithful.clear
  capacity_eq := recalls.capacity_eq
  mem_pinned_iff _ := Iff.rfl
  order := .nil capacity
  ofRecent _ isThere := nomatch isThere
  ofPinned _ isThere := nomatch isThere
  isNumbered := recalls.isNumbered

/-- Every operation leaves a cache with what it ought to have. -/
theorem perform (recalls : Recalls aliases capacity past log cache) (step : CacheStep) :
    Recalls aliases capacity (step.extend aliases past) (cache.compiledBy step ++ log)
      (cache.perform step).2 := by
  cases step with
  | get expression placeholders => exact recalls.get expression placeholders
  | register expression placeholders => exact recalls.register expression placeholders
  | preload files path =>
      rw [CacheStep.extend, compiledBy, perform_preload_snd]
      exact recalls.preload files path
  | clear => exact recalls.clear
  | size => exact recalls
  | contains expression => exact recalls
  | statistics => exact recalls

/-- Every run leaves a cache with what it ought to have. -/
theorem afterRun (recalls : Recalls aliases capacity past log cache)
    (steps : List CacheStep) :
    Recalls aliases capacity (steps.foldl (CacheStep.extend aliases) past)
      (cache.compiledIn steps ++ log) (cache.afterRun steps) := by
  induction steps generalizing past log cache with
  | nil => exact recalls
  | cons step rest inductionHypothesis =>
      have rested := inductionHypothesis (recalls.perform step)
      rwa [← List.append_assoc] at rested

/-- After any run from an empty cache the cache has what it ought to have. -/
theorem ofRun (aliases : AliasTable) (capacity : Option Nat) (steps : List CacheStep) :
    Recalls aliases capacity (history aliases steps)
      ((CheckCache.empty aliases capacity).compiledIn steps)
      ((CheckCache.empty aliases capacity).afterRun steps) := by
  have recalls := (Recalls.empty aliases capacity).afterRun steps
  rwa [List.append_nil] at recalls

/-- A hit gives the check that was compiled last under its key. -/
theorem get_of_hits (recalls : Recalls aliases capacity past log cache)
    (hasKey : CacheKey.ofValue? expression placeholders = some key)
    (hits : cache.Hits expression placeholders) :
    ∃ check, (cache.get expression placeholders).1 = .ok check ∧
      log.lookup key = some check := by
  rw [hits_iff_hasKey hasKey, CheckCache.hasKey] at hits
  obtain ⟨text, isText, hasKey⟩ := CacheKey.ofValue_eq_some_iff.mp hasKey
  rw [get_of_text isText hasKey]
  obtain ⟨check, isPinned, equal⟩ | ⟨check, notPinned, isRecent, equal⟩ |
    ⟨notPinned, notRecent, -⟩ | ⟨notPinned, notRecent, -⟩ :=
      cache.getKey_cases key text placeholders
  · exact ⟨check, by rw [equal], recalls.ofPinned _ (CheckTable.mem_of_lookup isPinned)⟩
  · exact ⟨check, by rw [equal], recalls.ofRecent _ (CheckTable.mem_of_lookup isRecent)⟩
  · simp [notPinned, notRecent] at hits
  · simp [notPinned, notRecent] at hits

/-- What is no hit gives a check with a number that no compilation had before. -/
theorem isNew_of_not_hits (recalls : Recalls aliases capacity past log cache)
    (hasKey : CacheKey.ofValue? expression placeholders = some key)
    (noHit : ¬ cache.Hits expression placeholders)
    (succeeds : (cache.get expression placeholders).1 = .ok check) :
    ∀ entry ∈ log, entry.2.number ≠ check.number := by
  rw [hits_iff_hasKey hasKey, CheckCache.hasKey] at noHit
  obtain ⟨text, isText, hasKey⟩ := CacheKey.ofValue_eq_some_iff.mp hasKey
  rw [get_of_text isText hasKey] at succeeds
  obtain ⟨found, isPinned, -⟩ | ⟨found, -, isRecent, -⟩ | ⟨-, -, error, -, equal⟩ |
    ⟨-, -, compiled, -, equal⟩ := cache.getKey_cases key text placeholders
  · simp [isPinned] at noHit
  · simp [isRecent] at noHit
  · simp [equal] at succeeds
  · intro entry isLogged
    have isCompiled : (⟨cache.compilations, compiled⟩ : CompiledCheck) = check := by
      simpa [equal] using succeeds
    rw [← isCompiled]
    exact Nat.ne_of_lt (recalls.isNumbered entry isLogged)

/-- Looking up an expression succeeds if the history records it. -/
theorem get_succeeds_iff (recalls : Recalls aliases capacity past log cache)
    (hasKey : CacheKey.ofValue? expression placeholders = some key) :
    (∃ check, (cache.get expression placeholders).1 = .ok check) ↔
      gotEvents aliases expression placeholders = [.got key] := by
  obtain ⟨text, isText, hasKeyOfText⟩ := CacheKey.ofValue_eq_some_iff.mp hasKey
  have compiles := (recalls.faithful.getKey hasKeyOfText).1
  rw [get_of_text isText hasKeyOfText]
  simp only [gotEvents, hasKey, Check.ofValue, isText, ← compiles]
  cases (cache.getKey key text placeholders).1 with
  | error error => simp [Except.map]
  | ok check => simp [Except.map]

/-- Registering an expression succeeds if the history records it. -/
theorem register_succeeds_iff (recalls : Recalls aliases capacity past log cache)
    (expression : Value) (placeholders : List Value) :
    (∃ check, (cache.register expression placeholders).1 = .ok check) ↔
      ∃ key, registeredEvents aliases expression placeholders = [.registered key] := by
  obtain ⟨error, equal, noEvents⟩ | ⟨key, check, after, equal, event⟩ :=
    recalls.register_cases expression placeholders
  · simp [equal, noEvents]
  · simp [equal, event]

end Recalls

/-! ## What a cache remembers -/

/-- After any run from an empty cache of some capacity, an expression that is looked up
is a hit if and only if its key is registered, or was got and at every moment since it
was last got its rivals were below the capacity.

A hit gives the check that was compiled last under its key, and any other check was not
compiled before. A registered expression stays a hit until the cache is cleared. The
history of the run records the operations that succeed in it. -/
theorem hits_iff_isRemembered (aliases : AliasTable) (capacity : Option Nat)
    (steps : List CacheStep) (expression : Value) (placeholders : List Value)
    (key : CacheKey)
    (hasKey : CacheKey.ofValue? expression placeholders = some key) :
    let start := empty aliases capacity
    let cache := start.afterRun steps
    let past := history aliases steps
    (cache.Hits expression placeholders ↔ IsRemembered capacity key past) ∧
      (cache.Hits expression placeholders → ∃ check,
        (cache.get expression placeholders).1 = .ok check ∧
          (start.compiledIn steps).lookup key = some check) ∧
      (¬ cache.Hits expression placeholders → ∀ check,
        (cache.get expression placeholders).1 = .ok check →
          ∀ entry ∈ start.compiledIn steps, entry.2.number ≠ check.number) ∧
      (∀ later : List CacheStep, .clear ∉ later → ∀ other ∈ registeredKeys past,
        (start.afterRun (steps ++ later)).hasKey other = true ∧
          (other = key →
            (start.afterRun (steps ++ later)).Hits expression placeholders)) ∧
      ((∃ check, (cache.get expression placeholders).1 = .ok check) ↔
        gotEvents aliases expression placeholders = [.got key]) ∧
      ((∃ check, (cache.register expression placeholders).1 = .ok check) ↔
        ∃ own, registeredEvents aliases expression placeholders = [.registered own]) := by
  intro start cache past
  have recalls : Recalls aliases capacity past (start.compiledIn steps) cache :=
    .ofRun aliases capacity steps
  refine ⟨(hits_iff_hasKey hasKey).trans (recalls.hasKey_iff key),
    recalls.get_of_hits hasKey,
    fun noHit check => recalls.isNew_of_not_hits hasKey noHit,
      fun later noClear other isRegistered => ?_,
    recalls.get_succeeds_iff hasKey,
      recalls.register_succeeds_iff expression placeholders⟩
  have isRegisteredLater : other ∈ registeredKeys (history aliases (steps ++ later)) :=
    ((history_prefix_append aliases steps noClear).filterMap _).subset isRegistered
  have isThere := ((Recalls.ofRun aliases capacity (steps ++ later)).hasKey_iff other).mpr
    (.inl isRegisteredLater)
  refine ⟨isThere, ?_⟩
  rintro rfl
  exact (hits_iff_hasKey hasKey).mpr isThere

/-- A cache for one check: looking up a registered expression leaves the other one in
the cache, but looking up a third one does not. -/
theorem hits_iff_isRemembered_single :
    CacheKey.ofValue? (.text "str") [] = some (.ofText "str") ∧
      IsRemembered (some 1) (.ofText "str") (history .standard
        [.register (.text "num") [], .get (.text "str") [], .get (.text "num") []]) ∧
      ¬ IsRemembered (some 1) (.ofText "str") (history .standard
        [.register (.text "num") [], .get (.text "str") [], .get (.text "bool") []]) := by
  have kept := hits_iff_isRemembered .standard (some 1)
    [.register (.text "num") [], .get (.text "str") [], .get (.text "num") []]
    (.text "str") [] (.ofText "str") rfl
  have evicted := hits_iff_isRemembered .standard (some 1)
    [.register (.text "num") [], .get (.text "str") [], .get (.text "bool") []]
    (.text "str") [] (.ofText "str") rfl
  exact ⟨rfl, kept.1.mp (by decide +kernel), fun remembered =>
    absurd (evicted.1.mpr remembered) (by decide +kernel)⟩

end CheckCache
end KindExpr
