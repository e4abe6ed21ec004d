import KindExpr.Cache.Basic

/-!
# Runs of a cache

A run takes a cache through any operations in any order, each of which may
succeed or fail. What holds of a cache at the start and is kept by every
operation holds after every run.
-/

namespace KindExpr

/-- An operation on a cache. -/
inductive CacheStep where
  | get (expression : Value) (placeholders : List Value)
  | register (expression : Value) (placeholders : List Value)
  /-- Register the expressions of a file, which is found
  among the files there are then. -/
  | preload (files : Files) (path : Text)
  | clear
  | size
  | contains (expression : Value)
  | statistics

/-- What an operation answers. -/
inductive CacheAnswer where
  | check (found : Except Error CompiledCheck)
  | count (loaded : Except Error Nat)
  | cleared
  | size (found : Nat)
  | contains (found : Bool)
  | statistics (found : CacheStatistics)

namespace CheckCache

/-- The answer of an operation, and the cache after it. -/
def perform (cache : CheckCache) : CacheStep → CacheAnswer × CheckCache
  | .get expression placeholders => (cache.get expression placeholders).map .check id
  | .register expression placeholders =>
      (cache.register expression placeholders).map .check id
  | .preload files path => (cache.preload files path).map .count id
  | .clear => (.cleared, cache.clear)
  | .size => (.size cache.size, cache)
  | .contains expression => (.contains (cache.contains expression), cache)
  | .statistics => (.statistics cache.statistics, cache)

@[simp] theorem perform_get_snd (cache : CheckCache) (expression : Value)
    (placeholders : List Value) :
    (cache.perform (.get expression placeholders)).2 =
      (cache.get expression placeholders).2 := by
  rw [perform, Prod.map_snd, id_eq]

@[simp] theorem perform_register_snd (cache : CheckCache) (expression : Value)
    (placeholders : List Value) :
    (cache.perform (.register expression placeholders)).2 =
      (cache.register expression placeholders).2 := by
  rw [perform, Prod.map_snd, id_eq]

@[simp] theorem perform_preload_snd (cache : CheckCache) (files : Files) (path : Text) :
    (cache.perform (.preload files path)).2 = (cache.preload files path).2 := by
  rw [perform, Prod.map_snd, id_eq]

/-- The cache after some operations. -/
def afterRun (cache : CheckCache) (steps : List CacheStep) : CheckCache :=
  steps.foldl (fun current step => (current.perform step).2) cache

/-- What every operation keeps is kept by every run. -/
theorem afterRun_induction {keeps : CheckCache → Prop}
    (ofStep : ∀ cache step, keeps cache → keeps (cache.perform step).2)
    {cache : CheckCache} (atStart : keeps cache) (steps : List CacheStep) :
    keeps (cache.afterRun steps) := by
  induction steps generalizing cache with
  | nil => exact atStart
  | cons step rest inductionHypothesis =>
      exact inductionHypothesis (ofStep cache step atStart)

/-- What is kept by every attempt to register an expression is
kept by registering several. -/
theorem registerAll_induction {keeps : CheckCache → Prop}
    (ofRegister : ∀ cache expression placeholders, keeps cache →
      keeps (cache.register expression placeholders).2)
    {cache : CheckCache} (atStart : keeps cache) (entries : List PreloadEntry) :
    keeps (cache.registerAll entries).2 := by
  induction entries generalizing cache with
  | nil => exact atStart
  | cons entry rest inductionHypothesis =>
      have kept := ofRegister cache (.text entry.expression)
        (entry.placeholders.map Value.text) atStart
      unfold registerAll
      generalize cache.register (.text entry.expression)
        (entry.placeholders.map Value.text) =
        outcome at kept ⊢
      obtain ⟨result, after⟩ := outcome
      cases result with
      | error error => exact kept
      | ok found => exact inductionHypothesis kept

/-- What is kept by every attempt to register an expression is kept by loading a file. -/
theorem preload_induction {keeps : CheckCache → Prop}
    (ofRegister : ∀ cache expression placeholders, keeps cache →
      keeps (cache.register expression placeholders).2)
    {cache : CheckCache} (atStart : keeps cache) (files : Files) (path : Text) :
    keeps (cache.preload files path).2 := by
  unfold preload
  split
  · exact atStart
  · exact registerAll_induction ofRegister atStart _

end CheckCache

/-! ## Tables of checks -/

namespace CheckTable

/-- A check that is found under a key is in the table. -/
theorem mem_of_lookup {table : CheckTable} {key : CacheKey} {check : CompiledCheck}
    (found : table.lookup key = some check) : (key, check) ∈ table := by
  obtain ⟨before, after, rfl, -⟩ := List.lookup_eq_some_iff.mp found
  exact List.mem_append_right _ List.mem_cons_self

/-- What is left in a table was in it. -/
theorem mem_of_mem_erase {table : CheckTable} {key : CacheKey}
    {entry : CacheKey × CompiledCheck} (isLeft : entry ∈ table.erase key) :
    entry ∈ table :=
  (List.mem_filter.mp isLeft).1

/-- What is in a table after a check was put into it was in
it before, or is that check. -/
theorem mem_of_mem_put {table : CheckTable} {key : CacheKey} {check : CompiledCheck}
    {entry : CacheKey × CompiledCheck} (isThere : entry ∈ table.put key check) :
    entry = (key, check) ∨ entry ∈ table := by
  rcases List.mem_cons.mp isThere with isNew | isLeft
  · exact .inl isNew
  · exact .inr (mem_of_mem_erase isLeft)

end CheckTable
end KindExpr
