import Mathlib.Data.List.Forall2
import KindExpr.Cache.Basic

/-!
# Keys separate what is read differently

Under equal keys an expression is read in the same way, faults and their texts included.
What reading an expression takes from a placeholder value is the text that replaces the
placeholder and, where there is none, how the value is shown; both are determined by
what the value contributes to a key.
-/

namespace KindExpr

/-! ## Placeholder values -/

/-- Whether two placeholder values are the same for reading an expression. -/
def Value.ReadsLike (value other : Value) : Prop :=
  value.replacement? = other.replacement? ∧
    (value.replacement? = none → value.display? = other.display?)

/-- A value that is part of a key as it is shown replaces no
placeholder and can be shown. -/
theorem Value.display_of_placeholderKey {value : Value} {typeName shown : Text}
    (isPart : value.isKeyPart = true)
    (hasKey : value.placeholderKey = .other typeName shown) :
    value.replacement? = none ∧ value.display? = some shown := by
  have isWritable : value.isWritable = true := by simpa [isKeyPart, hasKey] using isPart
  have isDisplayed : value.display? = some value.display := by simp [display?, isWritable]
  cases value with
  | text _ | derivedText _ | pattern _ | bytePattern _ => cases hasKey
  | _ =>
      cases hasKey
      exact ⟨rfl, isDisplayed⟩

/-- Values with the same part in a key are the same for reading. -/
theorem Value.readsLike_of_placeholderKey {value other : Value}
    (isPart : value.isKeyPart = true) (isPartToo : other.isKeyPart = true)
    (same : value.placeholderKey = other.placeholderKey) : value.ReadsLike other := by
  cases hasKey : other.placeholderKey with
  | text content =>
      have texts : ∀ found : Value, found.placeholderKey = .text content →
          found.replacement? = some content := by
        intro found hasText
        cases found <;> cases hasText <;> rfl
      rw [ReadsLike, texts value (same.trans hasKey), texts other hasKey]
      simp
  | pattern source flags =>
      have patterns : ∀ found : Value, found.placeholderKey = .pattern source flags →
          ∃ compiled : Pattern, compiled.source = source ∧ compiled.flags = flags ∧
            found.replacement? = some (Literal.ofPattern compiled).source := by
        intro found hasPattern
        cases found <;> cases hasPattern
        exact ⟨_, rfl, rfl, rfl⟩
      obtain ⟨first, firstSource, firstFlags, firstReplaces⟩ :=
        patterns value (same.trans hasKey)
      obtain ⟨second, secondSource, secondFlags, secondReplaces⟩ := patterns other hasKey
      have literals : Literal.ofPattern first = Literal.ofPattern second := by
        rw [Literal.ofPattern, Literal.ofPattern, firstSource, firstFlags, secondSource,
          secondFlags]
      rw [ReadsLike, firstReplaces, secondReplaces, literals]
      simp
  | bytePattern source flags =>
      have patterns : ∀ found : Value, found.placeholderKey = .bytePattern source flags →
          found = .bytePattern ⟨source, flags⟩ := by
        intro found hasPattern
        cases found <;> cases hasPattern
        rfl
      rw [patterns value (same.trans hasKey), patterns other hasKey]
      exact ⟨rfl, fun _ => rfl⟩
  | other typeName shown =>
      obtain ⟨noReplacement, isShown⟩ :=
        display_of_placeholderKey isPart (same.trans hasKey)
      obtain ⟨noReplacementToo, isShownToo⟩ := display_of_placeholderKey isPartToo hasKey
      rw [ReadsLike, noReplacement, noReplacementToo, isShown, isShownToo]
      simp

/-- Values that are the same for reading are taken in the same way. -/
theorem scanValues_congr {values others : List Value}
    (alike : List.Forall₂ Value.ReadsLike values others) :
    scanValues values = scanValues others := by
  induction alike with
  | nil => rfl
  | @cons value other rest later readsLike alike inductionHypothesis =>
      funext text place scan
      cases replaced : other.replacement? with
      | none =>
          have replacedToo := readsLike.1.trans replaced
          simp only [scanValues, replaced, replacedToo, readsLike.2 replacedToo]
      | some replacement =>
          have replacedToo := readsLike.1.trans replaced
          simp only [scanValues, replaced, replacedToo, inductionHypothesis]

/-! ## Keys -/

/-- Placeholder values have a key if each is a part of one. -/
theorem PlaceholderKey.ofValues_eq_some_iff {values : List Value}
    {keys : List PlaceholderKey} :
    ofValues? values = some keys ↔
      (∀ value ∈ values, value.isKeyPart = true) ∧
        values.map Value.placeholderKey = keys := by
  rw [ofValues?]
  split
  · rename_i areParts
    rw [List.all_eq_true] at areParts
    simp only [Option.some.injEq]
    exact ⟨fun equal => ⟨areParts, equal⟩, fun both => both.2⟩
  · rename_i notParts
    rw [List.all_eq_true] at notParts
    simp only [reduceCtorEq, notParts, false_and]

/-- Placeholder values with the same key are the same for reading, one by one. -/
theorem readsLike_of_ofValues {values others : List Value} {keys : List PlaceholderKey}
    (hasKeys : PlaceholderKey.ofValues? values = some keys)
    (hasKeysToo : PlaceholderKey.ofValues? others = some keys) :
    List.Forall₂ Value.ReadsLike values others := by
  obtain ⟨areParts, keysEqual⟩ := PlaceholderKey.ofValues_eq_some_iff.mp hasKeys
  obtain ⟨arePartsToo, keysEqualToo⟩ := PlaceholderKey.ofValues_eq_some_iff.mp hasKeysToo
  have same := keysEqual.trans keysEqualToo.symm
  clear hasKeys hasKeysToo keysEqual keysEqualToo
  induction values generalizing others with
  | nil =>
      rw [List.map_nil, eq_comm, List.map_eq_nil_iff] at same
      rw [same]
      exact .nil
  | cons value rest inductionHypothesis =>
      cases others with
      | nil => cases same
      | cons other later =>
          rw [List.map_cons, List.map_cons, List.cons.injEq] at same
          rw [List.forall_mem_cons] at areParts arePartsToo
          exact .cons (Value.readsLike_of_placeholderKey areParts.1 arePartsToo.1 same.1)
            (inductionHypothesis areParts.2 arePartsToo.2 same.2)

/-- Texts are parts of a key. -/
theorem PlaceholderKey.ofValues_texts (texts : List Text) :
    ofValues? (texts.map Value.text) = some (texts.map .text) := by
  have areParts : (texts.map Value.text).all Value.isKeyPart = true := by
    rw [List.all_map, List.all_eq_true]
    intro text isMember
    rfl
  rw [ofValues?, if_pos areParts, List.map_map]
  rfl

namespace CacheKey

variable {expression other : Text} {placeholders values : List Value} {key : CacheKey}

/-- The key of a text holds the text and the key of its placeholder values. -/
theorem of_eq_some_iff :
    of? expression placeholders = some key ↔
      key.expression = .text expression ∧
        PlaceholderKey.ofValues? placeholders = some key.placeholders := by
  rw [of?, Option.map_eq_some_iff]
  constructor
  · rintro ⟨keys, hasKeys, rfl⟩
    exact ⟨rfl, hasKeys⟩
  · rintro ⟨isText, hasKeys⟩
    exact ⟨key.placeholders, hasKeys, by rw [← isText]⟩

/-- Under equal keys an expression is read in the same way. -/
theorem parse_eq (hasKey : of? expression placeholders = some key)
    (hasKeyToo : of? other values = some key) :
    parse expression placeholders = parse other values := by
  obtain ⟨isText, hasKeys⟩ := of_eq_some_iff.mp hasKey
  obtain ⟨isTextToo, hasKeysToo⟩ := of_eq_some_iff.mp hasKeyToo
  have sameText : expression = other := by
    rw [isText] at isTextToo
    exact ExpressionKey.text.inj isTextToo
  rw [parse, parse, sameText, scanValues_congr (readsLike_of_ofValues hasKeys hasKeysToo)]

/-- Under equal keys an expression compiles in the same way. -/
theorem ofExpression_eq (aliases : AliasTable)
    (hasKey : of? expression placeholders = some key)
    (hasKeyToo : of? other values = some key) :
    Check.ofExpression aliases expression placeholders =
      Check.ofExpression aliases other values := by
  rw [Check.ofExpression, Check.ofExpression, parse_eq hasKey hasKeyToo]

end CacheKey
end KindExpr
