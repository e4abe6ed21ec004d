import Mathlib.Data.List.Dedup
import Mathlib.Data.List.DropRight
import Mathlib.Data.List.Perm.Subperm
import KindExpr.Proofs.Cache.Run

/-!
# What a cache ought to remember

What matters of a run is which keys were got and which were registered since the cache
was last cleared, in this order. Whether an operation succeeds is a matter of compiling
its expression, so that this history is known without a cache.

A cache ought to remember a key that was registered. It also ought to remember a key
that was got, as long as its rivals never exceed the capacity: the other keys that were
got since then and that are not registered.
-/

namespace KindExpr

/-! ## Histories -/

/-- What an operation that succeeds does with a key. -/
inductive CacheEvent where
  | got (key : CacheKey)
  | registered (key : CacheKey)
  deriving DecidableEq

namespace CacheEvent

/-- The key that was got. -/
def got? : CacheEvent → Option CacheKey
  | got key => some key
  | registered _ => none

/-- The key that was registered. -/
def registered? : CacheEvent → Option CacheKey
  | got _ => none
  | registered key => some key

end CacheEvent

/-- The key under which an expression is looked up, if it has one. -/
def CacheKey.ofValue? (expression : Value) (placeholders : List Value) :
    Option CacheKey :=
  expression.text?.bind fun text => CacheKey.of? text placeholders

/-- The event of looking up an expression: there is one if the
expression has a key and compiles. -/
def gotEvents (aliases : AliasTable) (expression : Value) (placeholders : List Value) :
    List CacheEvent :=
  match CacheKey.ofValue? expression placeholders,
    Check.ofValue aliases expression placeholders with
  | some key, .ok _ => [.got key]
  | _, _ => []

/-- The event of registering an expression: there is one if the
expression compiles and has a key. -/
def registeredEvents (aliases : AliasTable) (expression : Value)
    (placeholders : List Value) :
    List CacheEvent :=
  match CheckCache.compileKeyed aliases expression placeholders with
  | .ok (key, _) => [.registered key]
  | .error _ => []

/-- The events of registering the entries of a list up to the
first that does not compile. -/
def registeredEventsOfAll (aliases : AliasTable) : List PreloadEntry → List CacheEvent
  | [] => []
  | entry :: rest =>
      match registeredEvents aliases (.text entry.expression)
        (entry.placeholders.map Value.text) with
      | [] => []
      | events => events ++ registeredEventsOfAll aliases rest

/-- The events of registering the entries of a file: there
are none if it cannot be read. -/
def registeredEventsOfFile (aliases : AliasTable) :
    Except PreloadFault (List PreloadEntry) → List CacheEvent
  | .ok entries => registeredEventsOfAll aliases entries
  | .error _ => []

/-- The history after an operation, from the history before it. -/
def CacheStep.extend (aliases : AliasTable) (past : List CacheEvent) :
    CacheStep → List CacheEvent
  | .get expression placeholders => past ++ gotEvents aliases expression placeholders
  | .register expression placeholders =>
      past ++ registeredEvents aliases expression placeholders
  | .preload files path =>
      past ++ registeredEventsOfFile aliases (PreloadEntry.ofFile files path)
  | .clear => []
  | .size => past
  | .contains _ => past
  | .statistics => past

/-- The history of a run since the cache was last cleared. -/
def history (aliases : AliasTable) (steps : List CacheStep) : List CacheEvent :=
  steps.foldl (CacheStep.extend aliases) []

/-- Nothing but clearing the cache takes anything out of the history. -/
theorem CacheStep.prefix_extend (aliases : AliasTable) (past : List CacheEvent)
    {step : CacheStep}
    (notClear : step ≠ .clear) : past <+: step.extend aliases past := by
  cases step with
  | get expression placeholders => exact List.prefix_append _ _
  | register expression placeholders => exact List.prefix_append _ _
  | preload files path => exact List.prefix_append _ _
  | clear => exact absurd rfl notClear
  | size => exact List.prefix_rfl
  | contains expression => exact List.prefix_rfl
  | statistics => exact List.prefix_rfl

/-- A history is the beginning of every later one until the cache is cleared. -/
theorem history_prefix_append (aliases : AliasTable) (steps : List CacheStep)
    {later : List CacheStep} (noClear : .clear ∉ later) :
    history aliases steps <+: history aliases (steps ++ later) := by
  rw [history, history, List.foldl_append]
  generalize steps.foldl (CacheStep.extend aliases) [] = past
  induction later generalizing past with
  | nil => exact List.prefix_rfl
  | cons step rest inductionHypothesis =>
      rw [List.mem_cons, not_or] at noClear
      exact (CacheStep.prefix_extend aliases past (Ne.symm noClear.1)).trans
        (inductionHypothesis noClear.2 _)

/-! ## Rivals -/

/-- The keys that were got in a history. -/
def gotKeys (events : List CacheEvent) : List CacheKey :=
  events.filterMap CacheEvent.got?

/-- The keys that were registered in a history. -/
def registeredKeys (events : List CacheEvent) : List CacheKey :=
  events.filterMap CacheEvent.registered?

/-- The rivals of a key: the distinct keys that were got since the key was last got
and that are not registered. As nothing undoes a registration, these were not
registered when they were got. -/
def rivals (key : CacheKey) (events : List CacheEvent) : List CacheKey :=
  ((gotKeys (events.rtakeWhile (· ≠ .got key))).filter (· ∉ registeredKeys events)).dedup

/-- Whether some number of keys is below a capacity. -/
def IsWithin (capacity : Option Nat) (count : Nat) : Prop :=
  ∀ bound ∈ capacity, count < bound

/-- Whether a key was got and at every moment since it was last got its
rivals were below the capacity. -/
structure IsKept (capacity : Option Nat) (key : CacheKey)
    (events : List CacheEvent) : Prop where
  wasGot : key ∈ gotKeys events
  isWithin : ∀ earlier later, events = earlier ++ later → key ∉ gotKeys later →
    IsWithin capacity (rivals key earlier).length

/-- Whether a cache of some capacity ought to have a key after a history. -/
def IsRemembered (capacity : Option Nat) (key : CacheKey)
    (events : List CacheEvent) : Prop :=
  key ∈ registeredKeys events ∨ IsKept capacity key events

/-! ## One more event -/

section

variable {capacity : Option Nat} {key other : CacheKey} {events : List CacheEvent}

@[simp] theorem mem_gotKeys_append_got :
    key ∈ gotKeys (events ++ [.got other]) ↔ key ∈ gotKeys events ∨ key = other := by
  simp [gotKeys, CacheEvent.got?]

@[simp] theorem gotKeys_append_registered :
    gotKeys (events ++ [.registered other]) = gotKeys events := by
  simp [gotKeys, CacheEvent.got?]

@[simp] theorem registeredKeys_append_got :
    registeredKeys (events ++ [.got other]) = registeredKeys events := by
  simp [registeredKeys, CacheEvent.registered?]

@[simp] theorem mem_registeredKeys_append_registered :
    key ∈ registeredKeys (events ++ [.registered other]) ↔
      key ∈ registeredKeys events ∨ key = other := by
  simp [registeredKeys, CacheEvent.registered?]

theorem nodup_rivals (key : CacheKey) (events : List CacheEvent) :
    (rivals key events).Nodup :=
  List.nodup_dedup _

/-- A key that is got has no rivals yet. -/
@[simp] theorem rivals_append_got_self (key : CacheKey) (events : List CacheEvent) :
    rivals key (events ++ [.got key]) = [] := by
  simp [rivals, gotKeys]

/-- Another key that is got becomes a rival unless it is registered. -/
theorem mem_rivals_append_got {third : CacheKey} (differs : other ≠ key) :
    third ∈ rivals key (events ++ [.got other]) ↔
      third ∈ rivals key events ∨ third = other ∧ other ∉ registeredKeys events := by
  have isOther : (CacheEvent.got other ≠ .got key) := by simpa using differs
  rw [rivals, rivals, List.rtakeWhile_concat_pos _ _ _ (by simpa using isOther)]
  simp only [List.mem_dedup, List.mem_filter, mem_gotKeys_append_got,
    registeredKeys_append_got, decide_eq_true_eq]
  constructor
  · rintro ⟨wasGot | rfl, notRegistered⟩
    · exact .inl ⟨wasGot, notRegistered⟩
    · exact .inr ⟨rfl, notRegistered⟩
  · rintro (⟨wasGot, notRegistered⟩ | ⟨rfl, notRegistered⟩)
    · exact ⟨.inl wasGot, notRegistered⟩
    · exact ⟨.inr rfl, notRegistered⟩

/-- A key that is registered is no rival any longer. -/
theorem mem_rivals_append_registered {third : CacheKey} :
    third ∈ rivals key (events ++ [.registered other]) ↔
      third ∈ rivals key events ∧ third ≠ other := by
  rw [rivals, rivals, List.rtakeWhile_concat_pos _ _ _ (by simp)]
  simp only [List.mem_dedup, List.mem_filter, gotKeys_append_registered,
    mem_registeredKeys_append_registered, decide_eq_true_eq, not_or, and_assoc]

/-- Where a history with one more event is split: after that event or before it. -/
theorem split_append_singleton {event : CacheEvent} {earlier later : List CacheEvent}
    (split : events ++ [event] = earlier ++ later) :
    later = [] ∧ earlier = events ++ [event] ∨
      ∃ rest, later = rest ++ [event] ∧ events = earlier ++ rest := by
  rcases List.eq_nil_or_concat later with rfl | ⟨rest, last, rfl⟩
  · exact .inl ⟨rfl, by rw [split, List.append_nil]⟩
  · rw [List.concat_eq_append, ← List.append_assoc, List.append_singleton_inj] at split
    exact .inr ⟨rest, by rw [List.concat_eq_append, split.2], split.1⟩

/-- After one more event a key is kept if it was got right then or kept before, and its
rivals are below the capacity now. -/
theorem isKept_append_iff {event : CacheEvent} :
    IsKept capacity key (events ++ [event]) ↔
      (event = .got key ∨ IsKept capacity key events) ∧
        IsWithin capacity (rivals key (events ++ [event])).length := by
  have gotKeys_append : ∀ first : List CacheEvent,
      key ∈ gotKeys (first ++ [event]) ↔ key ∈ gotKeys first ∨ event = .got key := by
    intro first
    cases event <;> simp [gotKeys, CacheEvent.got?, eq_comm]
  constructor
  · rintro ⟨wasGot, isWithin⟩
    refine ⟨?_, isWithin _ [] (by simp) (by simp [gotKeys])⟩
    by_cases isGot : event = .got key
    · exact .inl isGot
    · refine .inr ⟨((gotKeys_append events).mp wasGot).resolve_right isGot,
        fun earlier later split notLater => ?_⟩
      refine isWithin earlier (later ++ [event]) (by rw [split, List.append_assoc]) ?_
      rw [gotKeys_append]
      exact not_or.mpr ⟨notLater, isGot⟩
  · rintro ⟨isGot | kept, isWithinNow⟩
    · -- No moment but the present one is after the key was got.
      refine ⟨(gotKeys_append events).mpr (.inr isGot),
        fun earlier later split notLater => ?_⟩
      obtain ⟨-, rfl⟩ | ⟨rest, rfl, -⟩ := split_append_singleton split
      · exact isWithinNow
      · exact absurd ((gotKeys_append rest).mpr (.inr isGot)) notLater
    · refine ⟨(gotKeys_append events).mpr (.inl kept.wasGot),
        fun earlier later split notLater => ?_⟩
      obtain ⟨-, rfl⟩ | ⟨rest, rfl, splitBefore⟩ := split_append_singleton split
      · exact isWithinNow
      · refine kept.isWithin earlier rest splitBefore fun isLater => notLater ?_
        exact (gotKeys_append rest).mpr (.inl isLater)

/-- A key that is kept has fewer rivals than the capacity. -/
theorem IsKept.isWithinNow (kept : IsKept capacity key events) :
    IsWithin capacity (rivals key events).length :=
  kept.isWithin events [] (by simp) (by simp [gotKeys])

/-- Fewer rivals are below every capacity that more are below. -/
theorem IsWithin.mono {fewer more : List CacheKey}
    (isWithin : IsWithin capacity more.length)
    (nodup : fewer.Nodup) (subset : fewer ⊆ more) : IsWithin capacity fewer.length :=
  fun bound isBound => Nat.lt_of_le_of_lt (nodup.subperm subset).length_le
    (isWithin bound isBound)

end
end KindExpr
