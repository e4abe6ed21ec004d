/-!
# Outcomes of computations that can fail

A computation in several steps succeeds only if every step does. These lemmas take the
steps of a success apart.
-/

namespace KindExpr
namespace Outcome

variable {ε δ α β : Type}

/-- After a success the second step is taken with its result. -/
theorem ok_bind (found : α) (second : α → Except ε β) :
    (Except.ok found : Except ε α) >>= second = second found := rfl

/-- Two steps succeed if the first does and the second does with its result. -/
theorem bind_eq_ok_iff {first : Except ε α} {second : α → Except ε β} {result : β} :
    first >>= second = .ok result ↔ ∃ found, first = .ok found ∧
      second found = .ok result := by
  cases first with
  | error failure => simp [bind, Except.bind]
  | ok found => simp [bind, Except.bind]

/-- Two steps fail if the first does, or the second does with its result. -/
theorem bind_eq_error_iff {first : Except ε α} {second : α → Except ε β} {failure : ε} :
    first >>= second = .error failure ↔
      first = .error failure ∨ ∃ found, first = .ok found ∧
        second found = .error failure := by
  cases first with
  | error own => simp [bind, Except.bind]
  | ok found => simp [bind, Except.bind]

/-- A result that is changed afterwards comes from a success. -/
theorem map_eq_ok_iff {first : Except ε α} {change : α → β} {result : β} :
    first.map change = .ok result ↔ ∃ found, first = .ok found ∧
      change found = result := by
  cases first with
  | error failure => simp [Except.map]
  | ok found => simp [Except.map]

/-- A failure stays the same when results are changed. -/
theorem map_eq_error_iff {first : Except ε α} {change : α → β} {failure : ε} :
    first.map change = .error failure ↔ first = .error failure := by
  cases first with
  | error own => simp [Except.map]
  | ok found => simp [Except.map]

@[simp] theorem mapError_ok (change : ε → δ) (result : α) :
    (Except.ok result : Except ε α).mapError change = .ok result := rfl

@[simp] theorem mapError_error (change : ε → δ) (failure : ε) :
    (Except.error failure : Except ε α).mapError change = .error (change failure) := rfl

/-- A success stays the same when failures are changed. -/
theorem mapError_eq_ok_iff {first : Except ε α} {change : ε → δ} {result : α} :
    first.mapError change = .ok result ↔ first = .ok result := by
  cases first with
  | error failure => simp
  | ok found => simp

/-- An outcome for each item of a list is missing only if it is missing for one. -/
theorem exists_of_mapM_eq_none {find : α → Option β} {items : List α}
    (isMissing : items.mapM find = none) : ∃ item ∈ items, find item = none := by
  induction items with
  | nil => cases isMissing
  | cons first rest inductionHypothesis =>
      cases isFound : find first with
      | none => exact ⟨first, List.mem_cons_self, isFound⟩
      | some found =>
          have isMissingLater : rest.mapM find = none := by
            rw [List.mapM_cons, isFound] at isMissing
            cases areFound : rest.mapM find with
            | none => rfl
            | some others =>
                rw [areFound] at isMissing
                cases isMissing
          obtain ⟨item, isLater, notFound⟩ := inductionHypothesis isMissingLater
          exact ⟨item, List.mem_cons_of_mem first isLater, notFound⟩

/-- All items of a list are accepted, or there is a first one that is not. -/
theorem forall_or_exists_first (accepts : α → Prop) (items : List α) :
    (∀ item ∈ items, accepts item) ∨
      ∃ earlier item later, items = earlier ++ item :: later ∧
        (∀ other ∈ earlier, accepts other) ∧ ¬ accepts item := by
  induction items with
  | nil => exact .inl (List.forall_mem_nil _)
  | cons first rest inductionHypothesis =>
      by_cases isAccepted : accepts first
      · obtain all | ⟨earlier, item, later, rfl, all, isRefused⟩ := inductionHypothesis
        · exact .inl (List.forall_mem_cons.mpr ⟨isAccepted, all⟩)
        · exact .inr ⟨first :: earlier, item, later, rfl,
            List.forall_mem_cons.mpr ⟨isAccepted, all⟩, isRefused⟩
      · exact .inr ⟨[], first, rest, rfl, List.forall_mem_nil _, isAccepted⟩

end Outcome
end KindExpr
