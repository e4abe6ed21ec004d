import KindExpr.Cache.Key
import KindExpr.Error

/-!
# The cache of compiled checks

A cache remembers the checks of the expressions that were looked up last, up to
its capacity, and the checks of registered expressions for good. A registered
check is pinned: it takes no part in the capacity and in the order of use.

Each compilation has a number, so that a remembered check can be told from
one that was compiled again. An expression with its placeholder values is
read and compiled in one step.
-/

namespace KindExpr

/-- Compile an expression with its placeholder values. -/
def Check.ofExpression (aliases : AliasTable) (expression : Text)
    (placeholders : List Value) :
    Except Error Check := do
  let parsed ← (parse expression placeholders).mapError .parse
  (Check.compileGroup aliases parsed.alternatives).mapError .compile

/-- Compile a value that is no text as an expression with its placeholder values. -/
def Check.ofItems (aliases : AliasTable) (expression : Value)
    (placeholders : List Value) :
    Except Error Check := do
  let alternatives ← (expression.readExpression placeholders).mapError .source
  (Check.compileGroup aliases alternatives).mapError .compile

/-- Compile a value as an expression with its placeholder values. -/
def Check.ofValue (aliases : AliasTable) (expression : Value)
    (placeholders : List Value) :
    Except Error Check :=
  match expression.text? with
  | some text => Check.ofExpression aliases text placeholders
  | none => Check.ofItems aliases expression placeholders

/-- A check with the number of its compilation. -/
structure CompiledCheck where
  number : Nat
  check : Check

/-- Compiled checks by their keys. -/
abbrev CheckTable := List (CacheKey × CompiledCheck)

namespace CheckTable

/-- Leave out the check under a key. -/
def erase (table : CheckTable) (key : CacheKey) : CheckTable :=
  table.filter fun entry => entry.1 ≠ key

/-- Put a check under a key in front of all others. -/
def put (table : CheckTable) (key : CacheKey) (check : CompiledCheck) : CheckTable :=
  (key, check) :: table.erase key

end CheckTable

/-- A cache of compiled checks. -/
structure CheckCache where
  /-- The type names that expressions may use. -/
  aliases : AliasTable
  /-- How many checks that are not pinned are kept; absent for no bound. -/
  capacity : Option Nat
  /-- The checks that are not pinned, the one that was used last first. -/
  recent : CheckTable
  pinned : CheckTable
  hits : Nat
  misses : Nat
  evictions : Nat
  /-- The number of compilations so far. -/
  compilations : Nat

/-- The sizes and counters of a cache. -/
structure CacheStatistics where
  size : Nat
  pinned : Nat
  hits : Nat
  misses : Nat
  evictions : Nat
  deriving Repr, DecidableEq

namespace CheckCache

/-- An empty cache of some capacity. -/
def empty (aliases : AliasTable) (capacity : Option Nat) : CheckCache where
  aliases := aliases
  capacity := capacity
  recent := []
  pinned := []
  hits := 0
  misses := 0
  evictions := 0
  compilations := 0

/-- An empty cache for a given size, which must be positive. -/
def ofSize? (aliases : AliasTable) (size : Option Int) : Except Error CheckCache :=
  match size with
  | none => .ok (empty aliases none)
  | some bound =>
      if bound < 1 then .error (.cacheSize bound)
      else .ok (empty aliases (some bound.toNat))

/-- The number of checks in a cache. -/
def size (cache : CheckCache) : Nat :=
  cache.recent.length + cache.pinned.length

/-- The sizes and counters of a cache. -/
def statistics (cache : CheckCache) : CacheStatistics where
  size := cache.size
  pinned := cache.pinned.length
  hits := cache.hits
  misses := cache.misses
  evictions := cache.evictions

/-- Whether there is a check under a key. -/
def hasKey (cache : CheckCache) (key : CacheKey) : Bool :=
  (cache.pinned.lookup key).isSome || (cache.recent.lookup key).isSome

/-- Whether an expression without placeholders is in a cache. Nothing but a text is. -/
def contains (cache : CheckCache) (expression : Value) : Bool :=
  match expression.text? with
  | some text => cache.hasKey (.ofText text)
  | none => false

/-- The same cache without any checks and with all counters at zero. -/
def clear (cache : CheckCache) : CheckCache :=
  { cache with recent := [], pinned := [], hits := 0, misses := 0, evictions := 0 }

/-- Give a number to a check. -/
def numbered (cache : CheckCache) (check : Check) : CompiledCheck × CheckCache :=
  (⟨cache.compilations, check⟩, { cache with compilations := cache.compilations + 1 })

/-- Leave out the checks beyond the capacity, those first that were
not used for the longest time. -/
def evict (cache : CheckCache) : CheckCache :=
  match cache.capacity with
  | none => cache
  | some bound =>
      { cache with
        recent := cache.recent.take bound
        evictions := cache.evictions + (cache.recent.length - bound) }

/-- Keep a check under a key as the one that was used last. -/
def remember (cache : CheckCache) (key : CacheKey) (check : CompiledCheck) : CheckCache :=
  { cache with recent := cache.recent.put key check }.evict

/-- Keep a check under a key for good. -/
def pin (cache : CheckCache) (key : CacheKey) (check : CompiledCheck) : CheckCache :=
  { cache with recent := cache.recent.erase key, pinned := cache.pinned.put key check }

/-- The check of an expression that is in the cache, with the cache after its use. -/
def use? (cache : CheckCache) (key : CacheKey) : Option (CompiledCheck × CheckCache) :=
  match cache.pinned.lookup key with
  | some check => some (check, { cache with hits := cache.hits + 1 })
  | none =>
      (cache.recent.lookup key).map fun check =>
        (check, { cache with
          recent := cache.recent.put key check, hits := cache.hits + 1 })

/-- The check under the key of an expression, which is
compiled unless the cache has it. -/
def getKey (cache : CheckCache) (key : CacheKey) (expression : Text)
    (placeholders : List Value) : Except Error CompiledCheck × CheckCache :=
  match cache.use? key with
  | some (check, used) => (.ok check, used)
  | none =>
      let missed := { cache with misses := cache.misses + 1 }
      match Check.ofExpression cache.aliases expression placeholders with
      | .error error => (.error error, missed)
      | .ok check =>
          let (compiled, after) := missed.numbered check
          (.ok compiled, after.remember key compiled)

/-- The check of an expression. -/
def getText (cache : CheckCache) (expression : Text) (placeholders : List Value) :
    Except Error CompiledCheck × CheckCache :=
  match CacheKey.of? expression placeholders with
  | some key => cache.getKey key expression placeholders
  | none => (.error .unwritable, cache)

/-- The check of a value that should be an expression. -/
def get (cache : CheckCache) (expression : Value) (placeholders : List Value) :
    Except Error CompiledCheck × CheckCache :=
  match expression.text? with
  | some text => cache.getText text placeholders
  | none => (.error (.expressionType expression.typeName), cache)

/-- The key and the check of an expression that is to be registered. The
placeholder values are keyed before the expression is read, and the
expression after it was compiled. -/
def compileKeyed (aliases : AliasTable) (expression : Value) (placeholders : List Value) :
    Except Error (CacheKey × Check) :=
  match PlaceholderKey.ofValues? placeholders with
  | none => .error .unwritable
  | some keys => do
      let check ← Check.ofValue aliases expression placeholders
      let key ← expression.expressionKey.mapError .source
      return (⟨key, keys⟩, check)

/-- Compile an expression and pin its check. It need not be a text, as long
as it can be read like one. -/
def register (cache : CheckCache) (expression : Value) (placeholders : List Value) :
    Except Error CompiledCheck × CheckCache :=
  match compileKeyed cache.aliases expression placeholders with
  | .error error => (.error error, cache)
  | .ok (key, check) =>
      let (compiled, after) := cache.numbered check
      (.ok compiled, after.pin key compiled)

/-- Register the entries of a list one after the other, until one cannot be compiled. -/
def registerAll (cache : CheckCache) : List PreloadEntry → Except Error Unit × CheckCache
  | [] => (.ok (), cache)
  | entry :: rest =>
      match cache.register (.text entry.expression)
        (entry.placeholders.map Value.text) with
      | (.error error, after) => (.error error, after)
      | (.ok _, after) => after.registerAll rest

/-- Register all expressions of a file, and tell how many there are. -/
def preload (cache : CheckCache) (files : Files) (path : Text) :
    Except Error Nat × CheckCache :=
  match PreloadEntry.ofFile files path with
  | .error fault => (.error (.preload fault), cache)
  | .ok entries =>
      let (result, after) := cache.registerAll entries
      (result.map fun _ => entries.length, after)

end CheckCache
end KindExpr
