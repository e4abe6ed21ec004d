import KindExpr.Proofs.Cache.Recency

/-!
# The counters account for every operation

The counters of a cache tell what happened since it was last cleared. Looking up an
expression that has a key is a hit or a miss. A miss is a lookup that failed, or it
brought in a check that is still there without being pinned, that was evicted, or that
gave way to a registration.

What happened is counted apart from the cache, in a tally of the run. The invariant
compares the two; it needs that no key is twice in a table, because a check that is put
under a key it already has must not count again.
-/

namespace KindExpr

/-! ## Tallies -/

/-- What is counted in a run since the cache was last cleared. -/
structure CacheTally where
  /-- How often an expression with a key was looked up. -/
  lookups : Nat
  /-- How often this failed. -/
  failures : Nat
  /-- How often a key was registered whose check was there without being pinned. -/
  displacements : Nat
  deriving Repr, DecidableEq

/-- The tally of a cache to which nothing happened. -/
def CacheTally.zero : CacheTally := ⟨0, 0, 0⟩

namespace CheckCache

/-- The tally after an expression is looked up. An expression
without a key is not counted. -/
def tallyGet (cache : CheckCache) (tally : CacheTally) (expression : Value)
    (placeholders : List Value) : CacheTally :=
  match CacheKey.ofValue? expression placeholders,
    (cache.get expression placeholders).1 with
  | none, _ => tally
  | some _, .ok _ => { tally with lookups := tally.lookups + 1 }
  | some _, .error _ =>
      { tally with lookups := tally.lookups + 1, failures := tally.failures + 1 }

/-- The tally after an expression is registered, or fails to be. -/
def tallyRegister (cache : CheckCache) (tally : CacheTally) (expression : Value)
    (placeholders : List Value) : CacheTally :=
  match compileKeyed cache.aliases expression placeholders with
  | .error _ => tally
  | .ok (key, _) =>
      if key ∈ cache.recent.map Prod.fst then
        { tally with displacements := tally.displacements + 1 }
      else tally

/-- The tally after the entries of a list are registered up to
the first that fails to be. -/
def tallyAll (cache : CheckCache) (tally : CacheTally) : List PreloadEntry → CacheTally
  | [] => tally
  | entry :: rest =>
      let expression := Value.text entry.expression
      let placeholders := entry.placeholders.map Value.text
      match cache.register expression placeholders with
      | (.error _, _) => tally
      | (.ok _, after) =>
          after.tallyAll (cache.tallyRegister tally expression placeholders) rest

/-- The tally after the entries of a file are registered. -/
def tallyFile (cache : CheckCache) (tally : CacheTally) :
    Except PreloadFault (List PreloadEntry) → CacheTally
  | .ok entries => cache.tallyAll tally entries
  | .error _ => tally

/-- The tally after an operation on a cache, from the tally before it. -/
def tallyStep (cache : CheckCache) (tally : CacheTally) : CacheStep → CacheTally
  | .get expression placeholders => cache.tallyGet tally expression placeholders
  | .register expression placeholders => cache.tallyRegister tally expression placeholders
  | .preload files path => cache.tallyFile tally (PreloadEntry.ofFile files path)
  | .clear => .zero
  | .size => tally
  | .contains _ => tally
  | .statistics => tally

/-- The tally of a run, from the tally before it. -/
def tallyRun (cache : CheckCache) (tally : CacheTally) : List CacheStep → CacheTally
  | [] => tally
  | step :: rest => (cache.perform step).2.tallyRun (cache.tallyStep tally step) rest

end CheckCache

/-! ## The sizes of tables -/

namespace CheckTable

variable {table : CheckTable} {key : CacheKey} {check : CompiledCheck}

/-- Leaving out the check under a key makes a table smaller by one if the key is in it. -/
theorem length_erase (nodup : (table.map Prod.fst).Nodup) (key : CacheKey) :
    (table.erase key).length + (if key ∈ table.map Prod.fst then 1 else 0) =
      table.length := by
  have sameLength : (table.erase key).length =
      ((table.map Prod.fst).erase key).length := by
    rw [nodup.erase_eq_filter, ← List.length_map Prod.fst, map_fst_erase]
    congr 2
    funext current
    simp [bne, beq_eq_decide]
  rw [sameLength, List.length_erase, List.length_map]
  split
  · rename_i isThere
    have isPositive : 0 < table.length := by
      rw [← List.length_map Prod.fst]
      exact List.length_pos_of_mem isThere
    omega
  · rfl

/-- Putting a check into a table leaves no key twice. -/
theorem nodup_put (nodup : (table.map Prod.fst).Nodup) :
    ((table.put key check).map Prod.fst).Nodup := by
  rw [map_fst_put, List.nodup_cons]
  exact ⟨by simp, nodup.filter _⟩

/-- A check that is put under a key of the table replaces the one that was there. -/
theorem length_put_of_mem (nodup : (table.map Prod.fst).Nodup)
    (isThere : key ∈ table.map Prod.fst) :
    (table.put key check).length = table.length := by
  have erased := length_erase nodup key
  rw [if_pos isThere] at erased
  rw [put, List.length_cons, erased]

/-- A check that is put under a new key is one more. -/
theorem length_put_of_not_mem (nodup : (table.map Prod.fst).Nodup)
    (isNew : key ∉ table.map Prod.fst) :
    (table.put key check).length = table.length + 1 := by
  have erased := length_erase nodup key
  rw [if_neg isNew, Nat.add_zero] at erased
  rw [put, List.length_cons, erased]

end CheckTable

namespace CheckCache

section

variable (cache : CheckCache)

/-- Evicting checks takes as many from the others as it counts. -/
theorem length_evict_add_evictions :
    cache.evict.recent.length + cache.evict.evictions =
      cache.recent.length + cache.evictions := by
  unfold evict
  split
  · rfl
  · simp only [List.length_take]
    omega

@[simp] theorem evict_misses : cache.evict.misses = cache.misses := by
  unfold evict
  split <;> rfl

/-- Without a bound nothing is evicted. -/
theorem evictions_evict_of_unbounded (isUnbounded : cache.capacity = none) :
    cache.evict.evictions = cache.evictions := by
  rw [evict, isUnbounded]

/-- What cannot be registered leaves a cache as it is. -/
theorem register_error_or_ok (expression : Value) (placeholders : List Value) :
    (∃ error, cache.register expression placeholders = (.error error, cache)) ∨
      ∃ found after, cache.register expression placeholders = (.ok found, after) := by
  unfold register
  cases compileKeyed cache.aliases expression placeholders with
  | error error => exact .inl ⟨error, rfl⟩
  | ok keyed => exact .inr ⟨_, _, rfl⟩

end

/-! ## The invariant -/

/-- Whether the counters and the tables of a cache agree with a tally. -/
structure IsAccounted (tally : CacheTally) (cache : CheckCache) : Prop where
  nodup_recent : (cache.recent.map Prod.fst).Nodup
  nodup_pinned : (cache.pinned.map Prod.fst).Nodup
  lookups_eq : cache.hits + cache.misses = tally.lookups
  misses_eq : cache.misses =
    tally.failures + (cache.recent.length + cache.evictions + tally.displacements)
  unbounded : cache.capacity = none → cache.evictions = 0

namespace IsAccounted

variable {tally : CacheTally} {cache : CheckCache} {key : CacheKey}
  {check : CompiledCheck}

theorem empty (aliases : AliasTable) (capacity : Option Nat) :
    IsAccounted .zero (CheckCache.empty aliases capacity) where
  nodup_recent := List.nodup_nil
  nodup_pinned := List.nodup_nil
  lookups_eq := rfl
  misses_eq := rfl
  unbounded _ := rfl

/-- Using a pinned check is one more lookup. -/
theorem usePinned (isAccounted : IsAccounted tally cache) :
    IsAccounted { tally with lookups := tally.lookups + 1 }
      { cache with hits := cache.hits + 1 } := by
  have lookups := isAccounted.lookups_eq
  refine { isAccounted with lookups_eq := ?_ }
  dsimp only
  omega

/-- Using a check that is not pinned is one more lookup, and
keeps the number of the checks. -/
theorem useRecent (isAccounted : IsAccounted tally cache)
    (isRecent : cache.recent.lookup key = some check) :
    IsAccounted { tally with lookups := tally.lookups + 1 }
      { cache with recent := cache.recent.put key check, hits := cache.hits + 1 } := by
  have isThere : key ∈ cache.recent.map Prod.fst :=
    List.mem_map_of_mem (CheckTable.mem_of_lookup isRecent)
  have used := isAccounted.usePinned
  refine { used with
    nodup_recent := CheckTable.nodup_put isAccounted.nodup_recent
    misses_eq := ?_ }
  rw [CheckTable.length_put_of_mem isAccounted.nodup_recent isThere]
  exact isAccounted.misses_eq

/-- A lookup that fails is one more miss. -/
theorem fail (isAccounted : IsAccounted tally cache) :
    IsAccounted { tally with
      lookups := tally.lookups + 1, failures := tally.failures + 1 }
      { cache with misses := cache.misses + 1 } := by
  have lookups := isAccounted.lookups_eq
  have misses := isAccounted.misses_eq
  refine { isAccounted with lookups_eq := ?_, misses_eq := ?_ }
  · dsimp only
    omega
  · dsimp only
    omega

/-- Remembering a check under a new key is one more miss. The check is one more or is
evicted, or another one is. -/
theorem remember (isAccounted : IsAccounted tally cache)
    (isNew : cache.recent.lookup key = none)
    (compilations : Nat) :
    IsAccounted { tally with lookups := tally.lookups + 1 }
      (CheckCache.remember
        { cache with misses := cache.misses + 1, compilations := compilations } key
          check) := by
  have lookups := isAccounted.lookups_eq
  have misses := isAccounted.misses_eq
  have notThere : key ∉ cache.recent.map Prod.fst := by
    rw [← CheckTable.isSome_lookup_iff, isNew]
    exact Bool.false_ne_true
  have isLonger : (cache.recent.put key check).length = cache.recent.length + 1 :=
    CheckTable.length_put_of_not_mem isAccounted.nodup_recent notThere
  unfold CheckCache.remember
  refine ⟨?_, ?_, ?_, ?_, ?_⟩
  · rw [map_fst_evict]
    exact (CheckTable.nodup_put isAccounted.nodup_recent).sublist
      (isInitial_capped _ _).sublist
  · rw [evict_pinned]
    exact isAccounted.nodup_pinned
  · rw [evict_hits, evict_misses]
    dsimp only
    omega
  · rw [evict_misses, length_evict_add_evictions]
    dsimp only
    omega
  · intro isUnbounded
    rw [evict_capacity] at isUnbounded
    rw [evictions_evict_of_unbounded _ isUnbounded]
    exact isAccounted.unbounded isUnbounded

/-- Pinning a check takes the one under its key from the others. -/
theorem pin (isAccounted : IsAccounted tally cache) (compilations : Nat) :
    IsAccounted
      (if key ∈ cache.recent.map Prod.fst then
        { tally with displacements := tally.displacements + 1 }
      else tally)
      (CheckCache.pin { cache with compilations := compilations } key check) := by
  have misses := isAccounted.misses_eq
  have erased := CheckTable.length_erase isAccounted.nodup_recent key
  refine ⟨?_, CheckTable.nodup_put isAccounted.nodup_pinned, ?_, ?_,
    isAccounted.unbounded⟩
  · rw [CheckCache.pin, CheckTable.map_fst_erase]
    exact isAccounted.nodup_recent.filter _
  · split <;> exact isAccounted.lookups_eq
  · unfold CheckCache.pin
    dsimp only
    split
    · rename_i isThere
      rw [if_pos isThere] at erased
      dsimp only
      omega
    · rename_i notThere
      rw [if_neg notThere] at erased
      omega

/-- A cache is accounted for after an expression is looked up. -/
theorem get (isAccounted : IsAccounted tally cache) (expression : Value)
    (placeholders : List Value) :
    IsAccounted (cache.tallyGet tally expression placeholders)
      (cache.get expression placeholders).2 := by
  unfold tallyGet
  cases hasKeyOrNot : CacheKey.ofValue? expression placeholders with
  | none =>
      obtain ⟨error, equal⟩ := cache.get_of_no_key hasKeyOrNot
      rw [equal]
      exact isAccounted
  | some key =>
      obtain ⟨text, isText, hasKey⟩ := CacheKey.ofValue_eq_some_iff.mp hasKeyOrNot
      rw [get_of_text isText hasKey]
      obtain ⟨check, -, equal⟩ | ⟨check, -, isRecent, equal⟩ | ⟨-, -, error, -, equal⟩ |
        ⟨-, isNew, check, -, equal⟩ := cache.getKey_cases key text placeholders
      · rw [equal]
        exact isAccounted.usePinned
      · rw [equal]
        exact isAccounted.useRecent isRecent
      · rw [equal]
        exact isAccounted.fail
      · rw [equal]
        exact isAccounted.remember isNew _

/-- A cache is accounted for after an expression is registered, or fails to be. -/
theorem register (isAccounted : IsAccounted tally cache) (expression : Value)
    (placeholders : List Value) :
    IsAccounted (cache.tallyRegister tally expression placeholders)
      (cache.register expression placeholders).2 := by
  unfold tallyRegister CheckCache.register
  cases compileKeyed cache.aliases expression placeholders with
  | error error => exact isAccounted
  | ok found => exact isAccounted.pin _

/-- A cache is accounted for after the entries of a list are registered. -/
theorem registerAll (isAccounted : IsAccounted tally cache)
    (entries : List PreloadEntry) :
    IsAccounted (cache.tallyAll tally entries) (cache.registerAll entries).2 := by
  induction entries generalizing cache tally with
  | nil => exact isAccounted
  | cons entry rest inductionHypothesis =>
      have registered := isAccounted.register (.text entry.expression)
        (entry.placeholders.map Value.text)
      unfold tallyAll CheckCache.registerAll
      obtain ⟨error, failed⟩ | ⟨found, after, succeeded⟩ :=
        cache.register_error_or_ok (.text entry.expression)
          (entry.placeholders.map Value.text)
      · simp only [failed]
        exact isAccounted
      · rw [succeeded] at registered
        simp only [succeeded]
        exact inductionHypothesis registered

/-- A cache is accounted for after a file is loaded. -/
theorem preload (isAccounted : IsAccounted tally cache) (files : Files) (path : Text) :
    IsAccounted (cache.tallyFile tally (PreloadEntry.ofFile files path))
      (cache.preload files path).2 := by
  unfold CheckCache.preload
  cases PreloadEntry.ofFile files path with
  | error fault => exact isAccounted
  | ok entries => exact isAccounted.registerAll entries

/-- A cache that is cleared starts anew. -/
theorem clear (cache : CheckCache) : IsAccounted .zero cache.clear where
  nodup_recent := List.nodup_nil
  nodup_pinned := List.nodup_nil
  lookups_eq := rfl
  misses_eq := rfl
  unbounded _ := rfl

/-- A cache is accounted for after every operation. -/
theorem perform (isAccounted : IsAccounted tally cache) (step : CacheStep) :
    IsAccounted (cache.tallyStep tally step) (cache.perform step).2 := by
  cases step with
  | get expression placeholders => exact isAccounted.get expression placeholders
  | register expression placeholders => exact isAccounted.register expression placeholders
  | preload files path =>
      rw [tallyStep, perform_preload_snd]
      exact isAccounted.preload files path
  | clear => exact clear cache
  | size => exact isAccounted
  | contains expression => exact isAccounted
  | statistics => exact isAccounted

/-- A cache is accounted for after every run. -/
theorem afterRun (isAccounted : IsAccounted tally cache) (steps : List CacheStep) :
    IsAccounted (cache.tallyRun tally steps) (cache.afterRun steps) := by
  induction steps generalizing cache tally with
  | nil => exact isAccounted
  | cons step rest inductionHypothesis =>
      exact inductionHypothesis (isAccounted.perform step)

end IsAccounted

/-! ## The accounts of a run -/

/-- After any run from an empty cache no key is in the cache twice, be it pinned or not,
and the checks that are not pinned keep to the capacity. The pinned keys are those that
were registered since the cache was last cleared. Every lookup of an expression with a
key was a hit or a miss, and the misses that did not fail are the checks that are not
pinned, those that were evicted and those that gave way to a registration. -/
theorem statistics_account_for_run (aliases : AliasTable) (capacity : Option Nat)
    (steps : List CacheStep) :
    let cache := (empty aliases capacity).afterRun steps
    let tally := (empty aliases capacity).tallyRun .zero steps
    ((cache.pinned ++ cache.recent).map Prod.fst).Nodup ∧
      (∀ bound ∈ capacity, cache.recent.length ≤ bound) ∧
      cache.statistics.size = cache.size ∧
      cache.size = cache.recent.length + cache.pinned.length ∧
      cache.statistics.pinned = cache.pinned.length ∧
      cache.pinned.length = (registeredKeys (history aliases steps)).dedup.length ∧
      cache.statistics.hits + cache.statistics.misses = tally.lookups ∧
      cache.statistics.misses = tally.failures +
        (cache.recent.length + cache.statistics.evictions + tally.displacements) ∧
      (capacity = none → cache.statistics.evictions = 0) := by
  intro cache tally
  have recalls := Recalls.ofRun aliases capacity steps
  have isAccounted : IsAccounted tally cache :=
    (IsAccounted.empty aliases capacity).afterRun steps
  have pinnedKeys : (cache.pinned.map Prod.fst).Perm
      (registeredKeys (history aliases steps)).dedup := by
    apply (List.perm_ext_iff_of_nodup isAccounted.nodup_pinned (List.nodup_dedup _)).mpr
    intro key
    rw [List.mem_dedup]
    exact recalls.mem_pinned_iff key
  have disjoint : (cache.pinned.map Prod.fst).Disjoint (cache.recent.map Prod.fst) := by
    intro key isPinned isRecent
    exact ((recalls.order.mem_iff key).mp isRecent).1
      ((recalls.mem_pinned_iff key).mp isPinned)
  refine ⟨?_, ?_, rfl, rfl, rfl, ?_, isAccounted.lookups_eq, isAccounted.misses_eq, ?_⟩
  · rw [List.map_append]
    exact isAccounted.nodup_pinned.append isAccounted.nodup_recent disjoint
  · intro bound isBound
    have fits := recalls.order.fits bound isBound
    rwa [List.length_map] at fits
  · rw [← List.length_map Prod.fst, pinnedKeys.length_eq]
  · intro isUnbounded
    exact isAccounted.unbounded (recalls.capacity_eq.trans isUnbounded)

/-- Of four lookups one fails. Of the three checks that the others compile
one is evicted if there is room for one check only, one is registered
afterwards, and what is left fits. -/
theorem statistics_account_for_run_one :
    let steps : List CacheStep := [.get (.text "str") [], .get (.text "num") [],
      .get (.text "nothing") [], .register (.text "num") [], .get (.text "bool") []]
    let narrow := (empty .standard (some 1)).afterRun steps
    let unbounded := (empty .standard none).afterRun steps
    (empty .standard (some 1)).tallyRun .zero steps = ⟨4, 1, 1⟩ ∧
      narrow.statistics = ⟨2, 1, 0, 4, 1⟩ ∧ 1 ∈ some 1 ∧ narrow.recent.length ≤ 1 ∧
      unbounded.statistics = ⟨3, 1, 0, 4, 0⟩ ∧ unbounded.statistics.evictions = 0 := by
  intro steps narrow unbounded
  have narrowAccounts := statistics_account_for_run .standard (some 1) steps
  have unboundedAccounts := statistics_account_for_run .standard none steps
  exact ⟨by decide +kernel, by decide +kernel, rfl,
    narrowAccounts.2.1 1 rfl, by decide +kernel,
    unboundedAccounts.2.2.2.2.2.2.2.2 rfl⟩

/-- Whether an operation looks up a text. -/
def looksUpText : CacheStep → Bool
  | .get expression _ => expression.text?.isSome
  | _ => false

/-- A text is looked up together with a value that cannot be shown. It has no key, so
that this is neither a hit nor a miss. -/
theorem lookups_ne_of_unwritable :
    let steps : List CacheStep :=
      [.get (.text "str") [.fraction ⟨Int.ofNat (Nat.pow 10 5000), 1⟩]]
    let cache := (empty .standard none).afterRun steps
    cache.statistics.hits + cache.statistics.misses ≠ steps.countP looksUpText := by
  have noKey : CacheKey.of? "str"
      [.fraction ⟨Int.ofNat (Nat.pow 10 5000), 1⟩] = none := by
    decide +kernel
  have uncounted : ∀ value : Value, CacheKey.of? "str" [value] = none →
      (empty .standard none).afterRun [.get (.text "str") [value]] =
        empty .standard none := by
    intro value absent
    have absentOfText : CacheKey.ofValue? (.text "str") [value] = none := absent
    obtain ⟨error, unchanged⟩ := (empty .standard none).get_of_no_key absentOfText
    simp only [afterRun, List.foldl_cons, List.foldl_nil, perform_get_snd, unchanged]
  intro steps cache
  have isEmpty : cache = empty .standard none := uncounted _ noKey
  rw [isEmpty]
  exact Nat.zero_ne_one

end CheckCache
end KindExpr
