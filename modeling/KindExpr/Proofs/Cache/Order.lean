import Mathlib.Data.List.Basic
import KindExpr.Proofs.Cache.History

/-!
# The order of use

The keys that a cache keeps without pinning them stand in a list, the one that was
used last first. The keys in front of a key are its rivals. This is kept by every
event, and it is why leaving out the end of the list leaves out the keys whose rivals
are no longer below the capacity.
-/

namespace KindExpr

variable {capacity : Option Nat} {key other : CacheKey} {keys : List CacheKey}

/-! ## The keys in front of a key -/

/-- The keys in front of a key. -/
def ahead (key : CacheKey) (keys : List CacheKey) : List CacheKey :=
  keys.takeWhile (· ≠ key)

@[simp] theorem ahead_cons_self (key : CacheKey) (keys : List CacheKey) :
    ahead key (key :: keys) = [] := by
  simp [ahead]

@[simp] theorem ahead_cons_of_ne (differs : other ≠ key) (keys : List CacheKey) :
    ahead key (other :: keys) = other :: ahead key keys := by
  simp [ahead, differs]

/-- Leaving out another key leaves it out in front of a key. -/
theorem ahead_filter_ne (differs : key ≠ other) (keys : List CacheKey) :
    ahead key (keys.filter (· ≠ other)) = (ahead key keys).filter (· ≠ other) := by
  rw [ahead, List.takeWhile_filter, ahead]
  congr 2
  funext current
  by_cases isOther : current = other
  · simp [isOther, differs.symm]
  · simp [isOther]

/-- What is behind a key makes no difference. -/
theorem ahead_append_of_mem (isThere : key ∈ keys) (rest : List CacheKey) :
    ahead key (keys ++ rest) = ahead key keys := by
  induction keys with
  | nil => nomatch isThere
  | cons first later inductionHypothesis =>
      by_cases isFirst : first = key
      · subst isFirst
        rw [List.cons_append, ahead_cons_self, ahead_cons_self]
      · have isLater := (List.mem_cons.mp isThere).resolve_left (Ne.symm isFirst)
        rw [List.cons_append, ahead_cons_of_ne isFirst, ahead_cons_of_ne isFirst,
          inductionHypothesis isLater]

theorem idxOf_eq_length_ahead (isThere : key ∈ keys) :
    keys.idxOf key = (ahead key keys).length := by
  induction keys with
  | nil => nomatch isThere
  | cons first later inductionHypothesis =>
      by_cases isFirst : first = key
      · subst isFirst
        rw [List.idxOf_cons_self, ahead_cons_self, List.length_nil]
      · have isLater := (List.mem_cons.mp isThere).resolve_left (Ne.symm isFirst)
        rw [List.idxOf_cons_ne _ isFirst, ahead_cons_of_ne isFirst, List.length_cons,
          inductionHypothesis isLater]

theorem nodup_ahead (nodup : keys.Nodup) : (ahead key keys).Nodup :=
  nodup.sublist (List.takeWhile_sublist _)

/-! ## Leaving out what is beyond the capacity -/

/-- The first keys, as many as there may be. -/
def capped (capacity : Option Nat) (keys : List CacheKey) : List CacheKey :=
  match capacity with
  | none => keys
  | some bound => keys.take bound

theorem isInitial_capped (capacity : Option Nat) (keys : List CacheKey) :
    capped capacity keys <+: keys := by
  cases capacity with
  | none => exact List.prefix_rfl
  | some bound => exact List.take_prefix bound keys

/-- Keys that are no more than there may be are left as they are. -/
theorem capped_of_length_le (fits : ∀ bound ∈ capacity, keys.length ≤ bound) :
    capped capacity keys = keys := by
  cases capacity with
  | none => rfl
  | some bound => exact List.take_of_length_le (fits bound rfl)

theorem length_capped_le (capacity : Option Nat) (keys : List CacheKey) :
    ∀ bound ∈ capacity, (capped capacity keys).length ≤ bound := by
  rintro bound rfl
  exact List.length_take_le bound keys

/-- A key is left if the keys in front of it are below the capacity. -/
theorem mem_capped_iff :
    key ∈ capped capacity keys ↔ key ∈ keys ∧
      IsWithin capacity (ahead key keys).length := by
  cases capacity with
  | none => simp [capped, IsWithin]
  | some bound =>
      have isTaken : key ∈ keys →
          (key ∈ keys.take bound ↔ (ahead key keys).length < bound) := by
        intro isThere
        rw [List.mem_take_iff_idxOf_lt isThere, idxOf_eq_length_ahead isThere]
      constructor
      · intro isLeft
        have isThere := List.mem_of_mem_take isLeft
        refine ⟨isThere, fun limit isLimit => ?_⟩
        rw [← Option.mem_some_iff.mp isLimit]
        exact (isTaken isThere).mp isLeft
      · rintro ⟨isThere, isWithin⟩
        exact (isTaken isThere).mpr (isWithin bound rfl)

/-- The keys in front of a key that is left are those that were there. -/
theorem ahead_capped (isLeft : key ∈ capped capacity keys) :
    ahead key (capped capacity keys) = ahead key keys := by
  obtain ⟨rest, whole⟩ := isInitial_capped capacity keys
  calc ahead key (capped capacity keys)
    _ = ahead key (capped capacity keys ++ rest) := (ahead_append_of_mem isLeft rest).symm
    _ = ahead key keys := by rw [whole]

/-! ## The order of use after a history -/

/-- Whether the keys in a list are those that a cache ought to keep after a history
without pinning them, and the keys in front of each are its rivals. -/
structure IsOrderOfUse (capacity : Option Nat) (events : List CacheEvent)
    (keys : List CacheKey) : Prop where
  nodup : keys.Nodup
  fits : ∀ bound ∈ capacity, keys.length ≤ bound
  mem_iff : ∀ key, key ∈ keys ↔ key ∉ registeredKeys events ∧ IsKept capacity key events
  mem_ahead_iff : ∀ key ∈ keys, ∀ other, other ∈ ahead key keys ↔
    other ∈ rivals key events

namespace IsOrderOfUse

variable {events : List CacheEvent}

theorem nil (capacity : Option Nat) : IsOrderOfUse capacity [] [] := by
  refine ⟨List.nodup_nil, fun bound _ => Nat.zero_le bound, fun key => ?_,
    fun key isThere => nomatch isThere⟩
  refine iff_of_false List.not_mem_nil fun both => ?_
  exact absurd both.2.wasGot List.not_mem_nil

/-- As many keys are in front of a key as it has rivals. -/
theorem length_ahead {events : List CacheEvent} (nodup : keys.Nodup)
    (same : ∀ other, other ∈ ahead key keys ↔ other ∈ rivals key events) :
    (ahead key keys).length = (rivals key events).length :=
  ((List.perm_ext_iff_of_nodup (nodup_ahead nodup) (nodup_rivals key events)).mpr
    same).length_eq

/-- To get a key that is not registered puts it in front of the others, of which those
that are beyond the capacity are left out. -/
theorem got (order : IsOrderOfUse capacity events keys)
    (notRegistered : key ∉ registeredKeys events) :
    IsOrderOfUse capacity (events ++ [.got key])
      (capped capacity (key :: keys.filter (· ≠ key))) := by
  have nodup : (key :: keys.filter (· ≠ key)).Nodup :=
    List.nodup_cons.mpr ⟨by simp, order.nodup.filter _⟩
  have mem_ahead_iff : ∀ current ∈ key :: keys.filter (· ≠ key), ∀ other,
      other ∈ ahead current (key :: keys.filter (· ≠ key)) ↔
        other ∈ rivals current (events ++ [.got key]) := by
    intro current isThere other
    by_cases isKey : current = key
    · simp [isKey]
    · have wasThere : current ∈ keys := by simpa [isKey] using isThere
      rw [ahead_cons_of_ne (Ne.symm isKey), ahead_filter_ne isKey,
        mem_rivals_append_got (Ne.symm isKey), ← order.mem_ahead_iff current wasThere]
      by_cases isGot : other = key
      · simp [isGot, notRegistered]
      · simp [isGot]
  refine ⟨nodup.sublist (isInitial_capped _ _).sublist, length_capped_le _ _,
    fun current => ?_,
    fun current isLeft => ?_⟩
  · rw [mem_capped_iff, registeredKeys_append_got, isKept_append_iff, ← and_assoc]
    have isThere_iff : current ∈ key :: keys.filter (· ≠ key) ↔
        current ∉ registeredKeys events ∧
          (CacheEvent.got key = .got current ∨ IsKept capacity current events) := by
      by_cases isKey : current = key
      · simp [isKey, notRegistered]
      · simp [isKey, Ne.symm isKey, order.mem_iff]
    rw [isThere_iff]
    refine and_congr_right fun isThere => ?_
    rw [length_ahead nodup (mem_ahead_iff current (isThere_iff.mpr isThere))]
  · rw [ahead_capped isLeft]
    exact mem_ahead_iff current ((isInitial_capped _ _).subset isLeft)

/-- To get a key that is in the list leaves out nothing. -/
theorem got_of_mem (order : IsOrderOfUse capacity events keys) (isThere : key ∈ keys) :
    IsOrderOfUse capacity (events ++ [.got key]) (key :: keys.filter (· ≠ key)) := by
  have fewer : (keys.filter (· ≠ key)).length < keys.length :=
    List.length_filter_lt_length_iff_exists.mpr ⟨key, isThere, by simp⟩
  have fits : ∀ bound ∈ capacity, (key :: keys.filter (· ≠ key)).length ≤ bound :=
    fun bound isBound => Nat.le_trans fewer (order.fits bound isBound)
  have moved := order.got ((order.mem_iff key).mp isThere).1
  rwa [capped_of_length_le fits] at moved

/-- To get a registered key changes nothing. -/
theorem got_registered (order : IsOrderOfUse capacity events keys)
    (isRegistered : key ∈ registeredKeys events) :
    IsOrderOfUse capacity (events ++ [.got key]) keys := by
  have sameRivals : ∀ current, current ∉ registeredKeys events → ∀ other,
      other ∈ rivals current (events ++ [.got key]) ↔ other ∈ rivals current events := by
    intro current notRegistered other
    have differs : key ≠ current := by
      rintro rfl
      exact notRegistered isRegistered
    rw [mem_rivals_append_got differs]
    simp [isRegistered]
  refine ⟨order.nodup, order.fits, fun current => ?_, fun current isThere other => ?_⟩
  · rw [registeredKeys_append_got, order.mem_iff, isKept_append_iff]
    refine and_congr_right fun notRegistered => ?_
    have notGot : CacheEvent.got key ≠ .got current :=
      fun equal => notRegistered (CacheEvent.got.inj equal ▸ isRegistered)
    simp only [notGot, false_or]
    refine ⟨fun kept => ⟨kept, kept.isWithinNow.mono (nodup_rivals _ _) fun other => ?_⟩,
      fun both => both.1⟩
    exact (sameRivals current notRegistered other).mp
  · rw [sameRivals current ((order.mem_iff current).mp isThere).1,
      order.mem_ahead_iff current isThere]

/-- To register a key takes it out of the list. -/
theorem registered (order : IsOrderOfUse capacity events keys) (key : CacheKey) :
    IsOrderOfUse capacity (events ++ [.registered key]) (keys.filter (· ≠ key)) := by
  refine ⟨order.nodup.filter _,
    fun bound isBound => (List.length_filter_le _ _).trans (order.fits bound isBound),
    fun current => ?_, fun current isLeft other => ?_⟩
  · have isKept_iff : IsKept capacity current (events ++ [.registered key]) ↔
        IsKept capacity current events := by
      rw [isKept_append_iff]
      simp only [reduceCtorEq, false_or]
      refine ⟨fun both => both.1, fun kept => ⟨kept, ?_⟩⟩
      refine kept.isWithinNow.mono (nodup_rivals _ _) fun other isRival => ?_
      exact (mem_rivals_append_registered.mp isRival).1
    rw [isKept_iff, mem_registeredKeys_append_registered, not_or, List.mem_filter,
      order.mem_iff, decide_eq_true_eq, and_right_comm]
  · obtain ⟨wasThere, differs⟩ := List.mem_filter.mp isLeft
    rw [ahead_filter_ne (of_decide_eq_true differs), List.mem_filter,
      mem_rivals_append_registered,
      order.mem_ahead_iff current wasThere, decide_eq_true_eq]

end IsOrderOfUse
end KindExpr
