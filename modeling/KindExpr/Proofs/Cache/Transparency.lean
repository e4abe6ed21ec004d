import KindExpr.Proofs.Cache.Key
import KindExpr.Proofs.Cache.Run
import KindExpr.Proofs.Outcome

/-!
# The cache is transparent

After any run of a cache, looking up an expression gives the check that compiling it
afresh gives, or fails in the same way. The one failure that the cache adds is that of a
placeholder value which is part of the key as it is shown, and cannot be shown.

The invariant is that a check that is kept under a key is the check of
every expression with that key.
-/

namespace KindExpr

/-- Whether the check under a key is the one that every
expression with the key compiles to. -/
def CompiledCheck.IsCheckOf (aliases : AliasTable) (compiled : CompiledCheck)
    (key : CacheKey) :
    Prop :=
  ∀ expression placeholders, CacheKey.of? expression placeholders = some key →
    Check.ofExpression aliases expression placeholders = .ok compiled.check

/-- The check of one expression is the check of every expression with its key. -/
theorem CompiledCheck.isCheckOf_of_ofExpression {aliases : AliasTable} {expression : Text}
    {placeholders : List Value} {key : CacheKey} {check : Check}
    (hasKey : CacheKey.of? expression placeholders = some key)
    (compiled : Check.ofExpression aliases expression placeholders = .ok check)
    (number : Nat) :
    (⟨number, check⟩ : CompiledCheck).IsCheckOf aliases key := by
  intro other values hasKeyToo
  rw [CacheKey.ofExpression_eq aliases hasKeyToo hasKey]
  exact compiled

/-! ## Registered expressions -/

/-- An expression whose key is a text is that text. -/
theorem Value.text_of_expressionKey {expression : Value} {text : Text}
    (hasKey : expression.expressionKey = .ok (.text text)) :
    expression.text? = some text := by
  cases expression with
  | text content =>
      cases hasKey
      rfl
  | derivedText content =>
      cases hasKey
      rfl
  | tuple items =>
      obtain ⟨keys, -, isItems⟩ := Outcome.map_eq_ok_iff.mp hasKey
      cases isItems
  | point x y =>
      obtain ⟨keys, -, isItems⟩ := Outcome.map_eq_ok_iff.mp hasKey
      cases isItems
  | linked outside web place =>
      unfold Value.expressionKey at hasKey
      dsimp only at hasKey
      split at hasKey
      · obtain ⟨keys, -, isItems⟩ := Outcome.map_eq_ok_iff.mp hasKey
        cases isItems
      · cases hasKey
  | _ => cases hasKey

/-- The check that is registered under a key is the check of
every expression with the key. -/
theorem CompiledCheck.isCheckOf_of_compileKeyed {aliases : AliasTable}
    {expression : Value}
    {placeholders : List Value} {key : CacheKey} {check : Check}
    (keyed : CheckCache.compileKeyed aliases expression placeholders = .ok (key, check))
    (number : Nat) : (⟨number, check⟩ : CompiledCheck).IsCheckOf aliases key := by
  intro other values hasKey
  obtain ⟨isText, hasKeys⟩ := CacheKey.of_eq_some_iff.mp hasKey
  rw [CheckCache.compileKeyed] at keyed
  split at keyed
  · cases keyed
  · rename_i keys hasKeysToo
    obtain ⟨found, compiled, keyed⟩ := Outcome.bind_eq_ok_iff.mp keyed
    obtain ⟨own, ownKey, keyed⟩ := Outcome.bind_eq_ok_iff.mp keyed
    cases keyed
    rw [Outcome.mapError_eq_ok_iff] at ownKey
    cases isText
    have expressionIsText := Value.text_of_expressionKey ownKey
    rw [Check.ofValue, expressionIsText] at compiled
    have hasKeyToo : CacheKey.of? other placeholders = some ⟨.text other, keys⟩ :=
      CacheKey.of_eq_some_iff.mpr ⟨rfl, hasKeysToo⟩
    rw [CacheKey.ofExpression_eq aliases hasKey hasKeyToo]
    exact compiled

namespace CheckCache

/-! ## The invariant -/

/-- Whether every check in a cache is the check of every expression with its key. -/
structure IsFaithful (aliases : AliasTable) (cache : CheckCache) : Prop where
  aliases_eq : cache.aliases = aliases
  ofRecent : ∀ entry ∈ cache.recent, entry.2.IsCheckOf aliases entry.1
  ofPinned : ∀ entry ∈ cache.pinned, entry.2.IsCheckOf aliases entry.1

namespace IsFaithful

variable {aliases : AliasTable} {cache : CheckCache} {key : CacheKey}
  {check : CompiledCheck}

/-- An empty cache is faithful. -/
theorem empty (aliases : AliasTable) (capacity : Option Nat) :
    (CheckCache.empty aliases capacity).IsFaithful aliases := by
  refine ⟨rfl, ?_, ?_⟩ <;> exact fun entry isThere => nomatch isThere

/-- The counters of a faithful cache make no difference. -/
theorem ofSameChecks {other : CheckCache} (faithful : cache.IsFaithful aliases)
    (sameAliases : other.aliases = cache.aliases)
    (sameRecent : other.recent = cache.recent)
    (samePinned : other.pinned = cache.pinned) : other.IsFaithful aliases := by
  refine ⟨sameAliases.trans faithful.aliases_eq, ?_, ?_⟩
  · rw [sameRecent]
    exact faithful.ofRecent
  · rw [samePinned]
    exact faithful.ofPinned

/-- Evicting checks leaves a cache faithful. -/
theorem evict (faithful : cache.IsFaithful aliases) : cache.evict.IsFaithful aliases := by
  rw [CheckCache.evict]
  split
  · exact faithful
  · exact ⟨faithful.aliases_eq,
      fun entry isKept => faithful.ofRecent entry (List.mem_of_mem_take isKept),
      faithful.ofPinned⟩

/-- Remembering the check of an expression under its key leaves a cache faithful. -/
theorem remember (faithful : cache.IsFaithful aliases)
    (isCheckOf : check.IsCheckOf aliases key) :
    (cache.remember key check).IsFaithful aliases := by
  refine evict ⟨faithful.aliases_eq, fun entry isThere => ?_, faithful.ofPinned⟩
  rcases CheckTable.mem_of_mem_put isThere with rfl | wasThere
  · exact isCheckOf
  · exact faithful.ofRecent entry wasThere

/-- Pinning the check of an expression under its key leaves a cache faithful. -/
theorem pin (faithful : cache.IsFaithful aliases)
    (isCheckOf : check.IsCheckOf aliases key) :
    (cache.pin key check).IsFaithful aliases := by
  refine ⟨faithful.aliases_eq, fun entry isThere => ?_, fun entry isThere => ?_⟩
  · exact faithful.ofRecent entry (CheckTable.mem_of_mem_erase isThere)
  · rcases CheckTable.mem_of_mem_put isThere with rfl | wasThere
    · exact isCheckOf
    · exact faithful.ofPinned entry wasThere

/-- A check that is used is the check of every expression with the key, and using it
leaves a cache faithful. -/
theorem use {after : CheckCache} (faithful : cache.IsFaithful aliases)
    (used : cache.use? key = some (check, after)) :
    check.IsCheckOf aliases key ∧ after.IsFaithful aliases := by
  rw [use?] at used
  split at used
  · rename_i found isPinned
    cases used
    exact ⟨faithful.ofPinned _ (CheckTable.mem_of_lookup isPinned),
      faithful.ofSameChecks rfl rfl rfl⟩
  · obtain ⟨found, isRecent, equal⟩ := Option.map_eq_some_iff.mp used
    cases equal
    have isCheckOf := faithful.ofRecent _ (CheckTable.mem_of_lookup isRecent)
    refine ⟨isCheckOf, faithful.aliases_eq, fun entry isThere => ?_, faithful.ofPinned⟩
    rcases CheckTable.mem_of_mem_put isThere with rfl | wasThere
    · exact isCheckOf
    · exact faithful.ofRecent entry wasThere

/-- Looking up an expression under its key in a faithful cache gives what compiling it
gives, and leaves the cache faithful. -/
theorem getKey {expression : Text} {placeholders : List Value}
    (faithful : cache.IsFaithful aliases)
    (hasKey : CacheKey.of? expression placeholders = some key) :
    (cache.getKey key expression placeholders).1.map CompiledCheck.check =
        Check.ofExpression aliases expression placeholders ∧
      (cache.getKey key expression placeholders).2.IsFaithful aliases := by
  rw [CheckCache.getKey]
  split
  · rename_i found after used
    obtain ⟨isCheckOf, isFaithful⟩ := faithful.use used
    exact ⟨(isCheckOf expression placeholders hasKey).symm, isFaithful⟩
  · obtain rfl := faithful.aliases_eq
    cases compiled : Check.ofExpression cache.aliases expression placeholders with
    | error error => exact ⟨rfl, faithful.ofSameChecks rfl rfl rfl⟩
    | ok check =>
        refine ⟨rfl, remember (faithful.ofSameChecks rfl rfl rfl) ?_⟩
        exact CompiledCheck.isCheckOf_of_ofExpression hasKey compiled _

/-- Looking up a text in a faithful cache gives what compiling it gives if the placeholder
values have a key, and leaves the cache faithful. -/
theorem getText (faithful : cache.IsFaithful aliases) (expression : Text)
    (placeholders : List Value) :
    (cache.getText expression placeholders).1.map CompiledCheck.check =
        (if placeholders.all Value.isKeyPart then Check.ofExpression aliases expression
          placeholders
          else .error .unwritable) ∧
      (cache.getText expression placeholders).2.IsFaithful aliases := by
  rw [CheckCache.getText]
  split
  · rename_i found hasKey
    have hasKeys := (CacheKey.of_eq_some_iff.mp hasKey).2
    have areParts := (PlaceholderKey.ofValues_eq_some_iff.mp hasKeys).1
    rw [if_pos (List.all_eq_true.mpr areParts)]
    exact faithful.getKey hasKey
  · rename_i noKey
    have notParts : ¬ placeholders.all Value.isKeyPart = true := by
      intro areParts
      simp [CacheKey.of?, PlaceholderKey.ofValues?, areParts] at noKey
    rw [if_neg notParts]
    exact ⟨rfl, faithful⟩

/-- Looking up an expression leaves a cache faithful. -/
theorem get (faithful : cache.IsFaithful aliases) (expression : Value)
    (placeholders : List Value) :
    (cache.get expression placeholders).2.IsFaithful aliases := by
  rw [CheckCache.get]
  split
  · exact (faithful.getText _ placeholders).2
  · exact faithful

/-- Registering an expression leaves a cache faithful. -/
theorem register (faithful : cache.IsFaithful aliases) (expression : Value)
    (placeholders : List Value) :
    (cache.register expression placeholders).2.IsFaithful aliases := by
  obtain rfl := faithful.aliases_eq
  rw [CheckCache.register]
  split
  · exact faithful
  · rename_i key check keyed
    exact pin (faithful.ofSameChecks rfl rfl rfl)
      (CompiledCheck.isCheckOf_of_compileKeyed keyed _)

/-- Loading a file leaves a cache faithful. -/
theorem preload (faithful : cache.IsFaithful aliases) (files : Files) (path : Text) :
    (cache.preload files path).2.IsFaithful aliases := by
  have ofRegister :
      ∀ (current : CheckCache) (expression : Value) (placeholders : List Value),
      current.IsFaithful aliases →
        (current.register expression placeholders).2.IsFaithful aliases :=
    fun _ expression placeholders isFaithful =>
      isFaithful.register expression placeholders
  exact preload_induction ofRegister faithful files path

/-- Clearing a cache leaves it faithful. -/
theorem clear (faithful : cache.IsFaithful aliases) : cache.clear.IsFaithful aliases := by
  refine ⟨faithful.aliases_eq, ?_, ?_⟩ <;> exact fun entry isThere => nomatch isThere

/-- Every operation leaves a cache faithful. -/
theorem perform (faithful : cache.IsFaithful aliases) (step : CacheStep) :
    (cache.perform step).2.IsFaithful aliases := by
  cases step with
  | get expression placeholders =>
      rw [perform_get_snd]
      exact faithful.get expression placeholders
  | register expression placeholders =>
      rw [perform_register_snd]
      exact faithful.register expression placeholders
  | preload files path =>
      rw [perform_preload_snd]
      exact faithful.preload files path
  | clear => exact faithful.clear
  | size => exact faithful
  | contains expression => exact faithful
  | statistics => exact faithful

/-- Every run from an empty cache leaves a faithful one. -/
theorem ofRun (aliases : AliasTable) (capacity : Option Nat) (steps : List CacheStep) :
    ((CheckCache.empty aliases capacity).afterRun steps).IsFaithful aliases :=
  afterRun_induction (fun _ step faithful => faithful.perform step)
    (.empty aliases capacity) steps

end IsFaithful

/-! ## Transparency -/

/-- After any run from an empty cache an expression that is looked up gives what
compiling it afresh gives, unless a placeholder value has to be shown and cannot be.
Expressions with equal keys are read in the same way. -/
theorem afterRun_get_eq_ofExpression (aliases : AliasTable) (capacity : Option Nat)
    (steps : List CacheStep) :
    (∀ (expression : Value) (text : Text) (placeholders : List Value),
      expression.text? = some text →
        (((empty aliases capacity).afterRun steps).get expression placeholders).1.map
            CompiledCheck.check =
          if placeholders.all Value.isKeyPart then
            Check.ofExpression aliases text placeholders
          else .error .unwritable) ∧
      ∀ (expression other : Text) (placeholders values : List Value) (key : CacheKey),
        CacheKey.of? expression placeholders = some key →
          CacheKey.of? other values = some key →
          parse expression placeholders = parse other values := by
  refine ⟨?_, fun _ _ _ _ _ => CacheKey.parse_eq⟩
  intro expression text placeholders isText
  rw [get, isText]
  exact ((IsFaithful.ofRun aliases capacity steps).getText text placeholders).1

/-- A cache for one check that forgets an expression before it is looked up again, and two
placeholder values with the same key. -/
theorem afterRun_get_eq_ofExpression_evicted :
    (((empty .standard (some 1)).afterRun
        [.get (.text "arr<$>") [.text "str"], .get (.text "num") [], .statistics]).get
          (.derivedText "arr<$>") [.text "str"]).1.map CompiledCheck.check =
        Check.ofExpression .standard "arr<$>" [.text "str"] ∧
      parse "arr<$>" [.derivedText "str", .null] =
        parse "arr<$>" [.text "str", .null] := by
  have transparent := afterRun_get_eq_ofExpression .standard (some 1)
    [.get (.text "arr<$>") [.text "str"], .get (.text "num") [], .statistics]
  exact ⟨transparent.1 (.derivedText "arr<$>") "arr<$>" [.text "str"] rfl,
    transparent.2 "arr<$>" "arr<$>" [.derivedText "str", .null]
      [.text "str", .null] _ rfl rfl⟩

/-- A value that is left over is not read, but it is shown in the key. -/
theorem get_ne_ofExpression_of_unwritable :
    ((empty .standard none).get (.text "str")
      [.fraction ⟨Int.ofNat (Nat.pow 10 5000), 1⟩]).1.map
        CompiledCheck.check ≠
      Check.ofExpression .standard "str"
        [.fraction ⟨Int.ofNat (Nat.pow 10 5000), 1⟩] := by
  have compiled : Check.ofExpression .standard "str"
      [.fraction ⟨Int.ofNat (Nat.pow 10 5000), 1⟩] =
      .ok (.kind "string" false) := rfl
  have noKey : CacheKey.of? "str"
      [.fraction ⟨Int.ofNat (Nat.pow 10 5000), 1⟩] = none := by
    decide +kernel
  have failed : ∀ value : Value, CacheKey.of? "str" [value] = none →
      ((empty .standard none).get (.text "str") [value]).1 = .error .unwritable := by
    intro value absent
    simp [get, Value.text?, getText, absent]
  rw [compiled, failed _ noKey]
  intro equal
  cases equal

end CheckCache
end KindExpr
