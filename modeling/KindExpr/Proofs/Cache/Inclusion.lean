import Mathlib.Data.List.Infix
import KindExpr.Proofs.Cache.Accounts
import KindExpr.Proofs.Cache.Entries

/-!
# A larger cache is never worse

Two caches go through the same run, one of which has the larger capacity. At every
moment the checks of the smaller one that are not pinned are the first ones of the
larger one in the order of use, and the same keys are pinned in both. So what is a hit
in the smaller cache is a hit in the larger one, and what the larger one evicts the
smaller one has evicted too.

The invariant relates the two caches. That evictions compare is no invariant on its own,
because a registration can take a check from the larger cache only; what is compared is
what the misses of each cache have brought in.
-/

namespace KindExpr

/-! ## Capacities -/

/-- Whether a capacity is at most another one. Where there is no
bound it is larger than all. -/
def IsAtMost (smaller larger : Option Nat) : Prop :=
  ∀ bound ∈ larger, ∃ own ∈ smaller, own ≤ bound

/-- With the smaller capacity fewer of the first keys are left. -/
theorem capped_prefix_capped {smaller larger : Option Nat} {first second : List CacheKey}
    (isAtMost : IsAtMost smaller larger) (isInitial : first <+: second) :
    capped smaller first <+: capped larger second := by
  cases larger with
  | none => exact (isInitial_capped smaller first).trans isInitial
  | some bound =>
      obtain ⟨own, rfl, isBelow⟩ := isAtMost bound rfl
      exact (List.IsPrefix.take isInitial own).trans (List.take_prefix_take_left isBelow)

/-- There is no check under a key that a table does not have. -/
theorem CheckTable.lookup_eq_none_of_not_mem {table : CheckTable} {key : CacheKey}
    (notThere : key ∉ table.map Prod.fst) : table.lookup key = none := by
  rwa [← CheckTable.isSome_lookup_iff, Bool.not_eq_true, Option.isSome_eq_false_iff,
    Option.isNone_iff_eq_none] at notThere

namespace CheckCache

/-! ## Looking up by the keys that a cache has -/

section

variable {cache : CheckCache} {key : CacheKey} {text : Text} {placeholders : List Value}

/-- A pinned check is a hit. -/
theorem getKey_of_pinned (isPinned : key ∈ cache.pinned.map Prod.fst) :
    ∃ check, cache.getKey key text placeholders =
      (.ok check, { cache with hits := cache.hits + 1 }) := by
  rw [← CheckTable.isSome_lookup_iff, Option.isSome_iff_exists] at isPinned
  obtain ⟨check, isPinned⟩ := isPinned
  exact ⟨check, by simp [getKey, use?, isPinned]⟩

/-- A check that is not pinned is a hit, and then it is the one that was used last. -/
theorem getKey_of_recent (notPinned : key ∉ cache.pinned.map Prod.fst)
    (isRecent : key ∈ cache.recent.map Prod.fst) :
    ∃ check, cache.getKey key text placeholders =
      (.ok check, { cache with
        recent := cache.recent.put key check, hits := cache.hits + 1 }) := by
  rw [← CheckTable.isSome_lookup_iff, Option.isSome_iff_exists] at isRecent
  obtain ⟨check, isRecent⟩ := isRecent
  have isUnpinned := CheckTable.lookup_eq_none_of_not_mem notPinned
  exact ⟨check, by simp [getKey, use?, isUnpinned, isRecent]⟩

/-- Where there is no check under a key a text is compiled, which may fail. -/
theorem getKey_of_absent (notPinned : key ∉ cache.pinned.map Prod.fst)
    (notRecent : key ∉ cache.recent.map Prod.fst) :
    cache.getKey key text placeholders =
      match Check.ofExpression cache.aliases text placeholders with
      | .error error => (.error error, { cache with misses := cache.misses + 1 })
      | .ok check =>
          (.ok ⟨cache.compilations, check⟩,
            remember { cache with misses := cache.misses + 1
                                  compilations := cache.compilations + 1 }
              key ⟨cache.compilations, check⟩) := by
  have notUsed : cache.use? key = none := by
    simp [use?, CheckTable.lookup_eq_none_of_not_mem notPinned,
      CheckTable.lookup_eq_none_of_not_mem notRecent]
  cases compiled : Check.ofExpression cache.aliases text placeholders with
  | error error => simp [getKey, notUsed, compiled]
  | ok check => simp [getKey, notUsed, compiled, numbered]

end

/-! ## Outcomes that depend on the alias table only -/

section

variable {cache other : CheckCache} (sameAliases : cache.aliases = other.aliases)

include sameAliases

theorem register_outcome_congr (expression : Value) (placeholders : List Value) :
    (cache.register expression placeholders).1.map CompiledCheck.check =
      (other.register expression placeholders).1.map CompiledCheck.check := by
  unfold register
  rw [sameAliases]
  cases compileKeyed other.aliases expression placeholders with
  | error error => rfl
  | ok keyed => rfl

theorem registerAll_outcome_congr (entries : List PreloadEntry) :
    (cache.registerAll entries).1 = (other.registerAll entries).1 := by
  obtain ⟨result, registered, registers⟩ := exists_registrations other.aliases entries
  rw [registers cache sameAliases, registers other rfl]

theorem preload_outcome_congr (files : Files) (path : Text) :
    (cache.preload files path).1 = (other.preload files path).1 := by
  unfold preload
  cases PreloadEntry.ofFile files path with
  | error fault => rfl
  | ok entries =>
      exact congrArg (Except.map fun _ => entries.length)
        (registerAll_outcome_congr sameAliases entries)

end

/-! ## The invariant -/

/-- Whether a cache is included in another one: the same keys are pinned,
its other keys are the first ones of the other cache in the order of use,
and its counters are no better. -/
structure IsIncludedIn (small large : CheckCache) : Prop where
  aliases_eq : small.aliases = large.aliases
  isAtMost : IsAtMost small.capacity large.capacity
  pinned_eq : small.pinned.map Prod.fst = large.pinned.map Prod.fst
  isInitial : small.recent.map Prod.fst <+: large.recent.map Prod.fst
  nodup_recent : (large.recent.map Prod.fst).Nodup
  lookups_eq : small.hits + small.misses = large.hits + large.misses
  misses_le : large.misses ≤ small.misses
  /-- What is left of the misses of the smaller cache, when the checks are taken off
  that are there or were evicted, is at most what is left of those of the larger one. -/
  balance : small.misses + (large.recent.length + large.evictions) ≤
    large.misses + (small.recent.length + small.evictions)

namespace IsIncludedIn

variable {small large : CheckCache} {key : CacheKey} {check checkToo : CompiledCheck}

theorem empty (aliases : AliasTable) {smaller larger : Option Nat}
    (isAtMost : IsAtMost smaller larger) :
    IsIncludedIn (CheckCache.empty aliases smaller)
      (CheckCache.empty aliases larger) where
  aliases_eq := rfl
  isAtMost := isAtMost
  pinned_eq := rfl
  isInitial := List.prefix_rfl
  nodup_recent := List.nodup_nil
  lookups_eq := rfl
  misses_le := Nat.le_refl _
  balance := Nat.le_refl _

theorem hits_le (isIncluded : IsIncludedIn small large) : small.hits ≤ large.hits := by
  have lookups := isIncluded.lookups_eq
  have misses := isIncluded.misses_le
  omega

theorem length_recent_le (isIncluded : IsIncludedIn small large) :
    small.recent.length ≤ large.recent.length := by
  simpa using isIncluded.isInitial.length_le

theorem evictions_le (isIncluded : IsIncludedIn small large) :
    large.evictions ≤ small.evictions := by
  have misses := isIncluded.misses_le
  have balance := isIncluded.balance
  have lengths := isIncluded.length_recent_le
  omega

theorem nodup_recent_small (isIncluded : IsIncludedIn small large) :
    (small.recent.map Prod.fst).Nodup :=
  isIncluded.nodup_recent.sublist isIncluded.isInitial.sublist

/-- When a check is put in front of both caches the keys of the
smaller one stay the first ones. -/
theorem isInitial_put (isIncluded : IsIncludedIn small large) :
    (small.recent.put key check).map Prod.fst <+:
      (large.recent.put key checkToo).map Prod.fst := by
  rw [CheckTable.map_fst_put, CheckTable.map_fst_put, List.prefix_cons_inj]
  exact isIncluded.isInitial.filter _

/-! ### Hits and failures -/

/-- A hit on a check that is pinned in both caches. -/
theorem usePinned (isIncluded : IsIncludedIn small large) :
    IsIncludedIn { small with hits := small.hits + 1 }
      { large with hits := large.hits + 1 } := by
  have lookups := isIncluded.lookups_eq
  refine { isIncluded with lookups_eq := ?_ }
  dsimp only
  omega

/-- A hit on a check that is in both caches. -/
theorem useRecent (isIncluded : IsIncludedIn small large)
    (isRecent : key ∈ small.recent.map Prod.fst) :
    IsIncludedIn
      { small with recent := small.recent.put key check, hits := small.hits + 1 }
      { large with recent := large.recent.put key checkToo, hits := large.hits + 1 } := by
  have isRecentToo : key ∈ large.recent.map Prod.fst :=
    isIncluded.isInitial.subset isRecent
  refine { isIncluded.usePinned with
    isInitial := isIncluded.isInitial_put
    nodup_recent := CheckTable.nodup_put isIncluded.nodup_recent
    balance := ?_ }
  rw [CheckTable.length_put_of_mem isIncluded.nodup_recent isRecentToo,
    CheckTable.length_put_of_mem isIncluded.nodup_recent_small isRecent]
  exact isIncluded.balance

/-- A lookup that fails is a miss in both caches. -/
theorem fail (isIncluded : IsIncludedIn small large) :
    IsIncludedIn { small with misses := small.misses + 1 }
      { large with misses := large.misses + 1 } := by
  have lookups := isIncluded.lookups_eq
  have misses := isIncluded.misses_le
  have balance := isIncluded.balance
  refine { isIncluded with lookups_eq := ?_, misses_le := ?_, balance := ?_ }
  · dsimp only
    omega
  · dsimp only
    omega
  · dsimp only
    omega

/-! ### Misses -/

/-- A check that is a hit in the larger cache only is compiled for the smaller one. -/
theorem catchUp (isIncluded : IsIncludedIn small large)
    (notRecent : key ∉ small.recent.map Prod.fst)
    (isRecent : key ∈ large.recent.map Prod.fst) (compilations : Nat) :
    IsIncludedIn
      (remember { small with
        misses := small.misses + 1, compilations := compilations } key check)
      { large with recent := large.recent.put key checkToo, hits := large.hits + 1 } := by
  have lookups := isIncluded.lookups_eq
  have misses := isIncluded.misses_le
  have balance := isIncluded.balance
  have isLonger : (small.recent.put key check).length = small.recent.length + 1 :=
    CheckTable.length_put_of_not_mem isIncluded.nodup_recent_small notRecent
  have isAsLong : (large.recent.put key checkToo).length = large.recent.length :=
    CheckTable.length_put_of_mem isIncluded.nodup_recent isRecent
  unfold remember
  refine ⟨?_, ?_, ?_, ?_, CheckTable.nodup_put isIncluded.nodup_recent, ?_, ?_, ?_⟩
  · rw [evict_aliases]
    exact isIncluded.aliases_eq
  · rw [evict_capacity]
    exact isIncluded.isAtMost
  · rw [evict_pinned]
    exact isIncluded.pinned_eq
  · rw [map_fst_evict]
    exact (isInitial_capped _ _).trans isIncluded.isInitial_put
  · rw [evict_hits, evict_misses]
    dsimp only
    omega
  · rw [evict_misses]
    dsimp only
    omega
  · rw [evict_misses, length_evict_add_evictions]
    dsimp only
    omega

/-- A check that neither cache has is compiled for both. -/
theorem remember (isIncluded : IsIncludedIn small large)
    (notRecent : key ∉ large.recent.map Prod.fst) (compilations compilationsToo : Nat) :
    IsIncludedIn
      (CheckCache.remember
        { small with misses := small.misses + 1, compilations := compilations } key check)
      (CheckCache.remember
        { large with misses := large.misses + 1, compilations := compilationsToo }
        key checkToo) := by
  have lookups := isIncluded.lookups_eq
  have misses := isIncluded.misses_le
  have balance := isIncluded.balance
  have isLonger : (small.recent.put key check).length = small.recent.length + 1 :=
    CheckTable.length_put_of_not_mem isIncluded.nodup_recent_small
      (mt (fun isThere => isIncluded.isInitial.subset isThere) notRecent)
  have isLongerToo : (large.recent.put key checkToo).length = large.recent.length + 1 :=
    CheckTable.length_put_of_not_mem isIncluded.nodup_recent notRecent
  unfold CheckCache.remember
  refine ⟨?_, ?_, ?_, ?_, ?_, ?_, ?_, ?_⟩
  · rw [evict_aliases, evict_aliases]
    exact isIncluded.aliases_eq
  · rw [evict_capacity, evict_capacity]
    exact isIncluded.isAtMost
  · rw [evict_pinned, evict_pinned]
    exact isIncluded.pinned_eq
  · rw [map_fst_evict, map_fst_evict]
    exact capped_prefix_capped isIncluded.isAtMost isIncluded.isInitial_put
  · rw [map_fst_evict]
    exact (CheckTable.nodup_put isIncluded.nodup_recent).sublist
      (isInitial_capped _ _).sublist
  · rw [evict_hits, evict_hits, evict_misses, evict_misses]
    dsimp only
    omega
  · rw [evict_misses, evict_misses]
    dsimp only
    omega
  · rw [evict_misses, evict_misses, length_evict_add_evictions,
      length_evict_add_evictions]
    dsimp only
    omega

/-! ### Operations -/

/-- Pinning a check takes the one under its key from the others, in
the larger cache or in both. -/
theorem pin (isIncluded : IsIncludedIn small large) (compilations compilationsToo : Nat) :
    IsIncludedIn
      (CheckCache.pin { small with compilations := compilations } key check)
      (CheckCache.pin { large with compilations := compilationsToo } key checkToo) := by
  have balance := isIncluded.balance
  have erased := CheckTable.length_erase isIncluded.nodup_recent_small key
  have erasedToo := CheckTable.length_erase isIncluded.nodup_recent key
  unfold CheckCache.pin
  refine ⟨isIncluded.aliases_eq, isIncluded.isAtMost, ?_, ?_, ?_, isIncluded.lookups_eq,
    isIncluded.misses_le, ?_⟩
  · rw [CheckTable.map_fst_put, CheckTable.map_fst_put, isIncluded.pinned_eq]
  · rw [CheckTable.map_fst_erase, CheckTable.map_fst_erase]
    exact isIncluded.isInitial.filter _
  · rw [CheckTable.map_fst_erase]
    exact isIncluded.nodup_recent.filter _
  · dsimp only
    by_cases isThere : key ∈ small.recent.map Prod.fst
    · rw [if_pos isThere] at erased
      rw [if_pos (isIncluded.isInitial.subset isThere)] at erasedToo
      omega
    · rw [if_neg isThere] at erased
      omega

/-- A lookup keeps the smaller cache included. -/
theorem get {aliases : AliasTable} (isIncluded : IsIncludedIn small large)
    (faithful : large.IsFaithful aliases) (expression : Value)
    (placeholders : List Value) :
    IsIncludedIn (small.get expression placeholders).2
      (large.get expression placeholders).2 := by
  cases hasKeyOrNot : CacheKey.ofValue? expression placeholders with
  | none =>
      obtain ⟨error, equal⟩ := small.get_of_no_key hasKeyOrNot
      obtain ⟨errorToo, equalToo⟩ := large.get_of_no_key hasKeyOrNot
      rw [equal, equalToo]
      exact isIncluded
  | some key =>
      obtain ⟨text, isText, hasKey⟩ := CacheKey.ofValue_eq_some_iff.mp hasKeyOrNot
      rw [get_of_text isText hasKey, get_of_text isText hasKey]
      by_cases isPinned : key ∈ small.pinned.map Prod.fst
      · obtain ⟨check, found⟩ := getKey_of_pinned isPinned
        rw [isIncluded.pinned_eq] at isPinned
        obtain ⟨checkToo, foundToo⟩ := getKey_of_pinned isPinned
        rw [found, foundToo]
        exact isIncluded.usePinned
      have notPinned := isPinned
      rw [isIncluded.pinned_eq] at notPinned
      by_cases isRecent : key ∈ small.recent.map Prod.fst
      · obtain ⟨check, found⟩ := getKey_of_recent isPinned isRecent
        obtain ⟨checkToo, foundToo⟩ :=
          getKey_of_recent notPinned (isIncluded.isInitial.subset isRecent)
        rw [found, foundToo]
        exact isIncluded.useRecent isRecent
      by_cases isRecentToo : key ∈ large.recent.map Prod.fst
      · -- The larger cache has the check, so it compiles for the smaller one.
        obtain ⟨checkToo, foundToo⟩ := getKey_of_recent notPinned isRecentToo
        have compiles := (faithful.getKey hasKey).1
        rw [foundToo, ← faithful.aliases_eq, ← isIncluded.aliases_eq] at compiles
        rw [getKey_of_absent isPinned isRecent, ← compiles, foundToo]
        exact isIncluded.catchUp isRecent isRecentToo _
      · have sameOutcome : Check.ofExpression small.aliases text placeholders =
            Check.ofExpression large.aliases text placeholders := by
          rw [isIncluded.aliases_eq]
        rw [getKey_of_absent isPinned isRecent, getKey_of_absent notPinned isRecentToo,
          sameOutcome]
        cases Check.ofExpression large.aliases text placeholders with
        | error error => exact isIncluded.fail
        | ok check => exact isIncluded.remember isRecentToo _ _

/-- A registration keeps the smaller cache included. -/
theorem register (isIncluded : IsIncludedIn small large) (expression : Value)
    (placeholders : List Value) :
    IsIncludedIn (small.register expression placeholders).2
      (large.register expression placeholders).2 := by
  unfold CheckCache.register
  rw [isIncluded.aliases_eq]
  cases compileKeyed large.aliases expression placeholders with
  | error error => exact isIncluded
  | ok keyed => exact isIncluded.pin _ _

/-- Registering entries keeps the smaller cache included. -/
theorem registrations (isIncluded : IsIncludedIn small large)
    (entries : List PreloadEntry) :
    IsIncludedIn (small.afterRun (entries.map PreloadEntry.registration))
      (large.afterRun (entries.map PreloadEntry.registration)) := by
  induction entries generalizing small large with
  | nil => exact isIncluded
  | cons entry rest inductionHypothesis =>
      exact inductionHypothesis
        (isIncluded.register (.text entry.expression) entry.values)

/-- Registering the entries of a list keeps the smaller cache included. -/
theorem registerAll (isIncluded : IsIncludedIn small large)
    (entries : List PreloadEntry) :
    IsIncludedIn (small.registerAll entries).2 (large.registerAll entries).2 := by
  obtain ⟨result, registered, registers⟩ := exists_registrations large.aliases entries
  rw [registers small isIncluded.aliases_eq, registers large rfl]
  exact isIncluded.registrations registered

/-- Loading a file keeps the smaller cache included. -/
theorem preload (isIncluded : IsIncludedIn small large) (files : Files) (path : Text) :
    IsIncludedIn (small.preload files path).2 (large.preload files path).2 := by
  unfold CheckCache.preload
  cases PreloadEntry.ofFile files path with
  | error fault => exact isIncluded
  | ok entries => exact isIncluded.registerAll entries

/-- Clearing both caches keeps the smaller one included. -/
theorem clear (isIncluded : IsIncludedIn small large) :
    IsIncludedIn small.clear large.clear where
  aliases_eq := isIncluded.aliases_eq
  isAtMost := isIncluded.isAtMost
  pinned_eq := rfl
  isInitial := List.prefix_rfl
  nodup_recent := List.nodup_nil
  lookups_eq := rfl
  misses_le := Nat.le_refl _
  balance := Nat.le_refl _

/-- Every operation keeps the smaller cache included. -/
theorem perform {aliases : AliasTable} (isIncluded : IsIncludedIn small large)
    (faithful : large.IsFaithful aliases) (step : CacheStep) :
    IsIncludedIn (small.perform step).2 (large.perform step).2 := by
  cases step with
  | get expression placeholders => exact isIncluded.get faithful expression placeholders
  | register expression placeholders => exact isIncluded.register expression placeholders
  | preload files path =>
      rw [perform_preload_snd, perform_preload_snd]
      exact isIncluded.preload files path
  | clear => exact isIncluded.clear
  | size => exact isIncluded
  | contains expression => exact isIncluded
  | statistics => exact isIncluded

/-- Every run keeps the smaller cache included. -/
theorem afterRun {aliases : AliasTable} (isIncluded : IsIncludedIn small large)
    (faithful : large.IsFaithful aliases) (steps : List CacheStep) :
    IsIncludedIn (small.afterRun steps) (large.afterRun steps) := by
  induction steps generalizing small large with
  | nil => exact isIncluded
  | cons step rest inductionHypothesis =>
      exact inductionHypothesis (isIncluded.perform faithful step) (faithful.perform step)

end IsIncludedIn

/-! ## Runs of two caches -/

/-- Expressions are looked up in faithful caches with the same outcome. -/
theorem get_outcome_congr {aliases : AliasTable} {cache other : CheckCache}
    (faithful : cache.IsFaithful aliases) (faithfulToo : other.IsFaithful aliases)
    (expression : Value) (placeholders : List Value) :
    (cache.get expression placeholders).1.map CompiledCheck.check =
      (other.get expression placeholders).1.map CompiledCheck.check := by
  unfold get
  cases expression.text? with
  | none => rfl
  | some text =>
      have found := (faithful.getText text placeholders).1
      have foundToo := (faithfulToo.getText text placeholders).1
      exact found.trans foundToo.symm

/-- Two caches that are empty at first, one of them with the larger capacity, go through
the same run. Then the same keys are pinned in both, and the other keys of the smaller
cache are the first ones of the larger cache in the order of use. Whatever is done next
gives the same outcome in both, where a check counts without its number. The smaller
cache had no more hits, and no fewer misses and evictions. -/
theorem larger_capacity_is_never_worse (aliases : AliasTable)
    (smaller larger : Option Nat)
    (isAtMost : IsAtMost smaller larger) (steps : List CacheStep) :
    let small := (empty aliases smaller).afterRun steps
    let large := (empty aliases larger).afterRun steps
    small.pinned.map Prod.fst = large.pinned.map Prod.fst ∧
      small.recent.map Prod.fst <+: large.recent.map Prod.fst ∧
      (∀ expression placeholders,
        (small.get expression placeholders).1.map CompiledCheck.check =
          (large.get expression placeholders).1.map CompiledCheck.check) ∧
      (∀ expression placeholders,
        (small.register expression placeholders).1.map CompiledCheck.check =
          (large.register expression placeholders).1.map CompiledCheck.check) ∧
      (∀ files path, (small.preload files path).1 = (large.preload files path).1) ∧
      small.hits ≤ large.hits ∧ large.misses ≤ small.misses ∧
      large.evictions ≤ small.evictions := by
  intro small large
  have faithful : ∀ capacity,
      ((empty aliases capacity).afterRun steps).IsFaithful aliases :=
    fun capacity => .ofRun aliases capacity steps
  have isIncluded : small.IsIncludedIn large :=
    (IsIncludedIn.empty aliases isAtMost).afterRun (.empty aliases larger) steps
  exact ⟨isIncluded.pinned_eq, isIncluded.isInitial,
    get_outcome_congr (faithful smaller) (faithful larger),
    register_outcome_congr isIncluded.aliases_eq,
    preload_outcome_congr isIncluded.aliases_eq,
    isIncluded.hits_le, isIncluded.misses_le, isIncluded.evictions_le⟩

/-- Room for one check and for two. The registration takes a check from the larger cache
only, and the lookup after it is a hit in the larger cache only. -/
theorem larger_capacity_is_never_worse_one_two :
    let steps : List CacheStep := [.get (.text "str") [], .get (.text "num") [],
      .register (.text "str") [], .get (.text "bool") [], .get (.text "num") []]
    let small := (empty .standard (some 1)).afterRun steps
    let large := (empty .standard (some 2)).afterRun steps
    IsAtMost (some 1) (some 2) ∧ small.recent.map Prod.fst <+: large.recent.map Prod.fst ∧
      small.statistics = ⟨2, 1, 0, 4, 3⟩ ∧ large.statistics = ⟨3, 1, 1, 3, 0⟩ ∧
      large.evictions ≤ small.evictions := by
  intro steps small large
  have isAtMost : IsAtMost (some 1) (some 2) := by
    rintro bound ⟨⟩
    exact ⟨1, rfl, by decide⟩
  have isNeverWorse :=
    larger_capacity_is_never_worse .standard (some 1) (some 2) isAtMost steps
  exact ⟨isAtMost, isNeverWorse.2.1, by decide +kernel, by decide +kernel,
    isNeverWorse.2.2.2.2.2.2.2⟩

end CheckCache
end KindExpr
