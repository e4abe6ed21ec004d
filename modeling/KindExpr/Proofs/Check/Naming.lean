import KindExpr.Proofs.Check.Decision

/-!
# The names of values

The name that a value is checked under makes no difference to whether the check
accepts the value, rejects it or fails. It makes a difference to the messages
only: every member has a name that is made from that of its container, in another
form if the container has none.

Two runs of a check under two names go the same way at every step, because the members
of a value under one name are those under the other, each with another name.
-/

namespace KindExpr

/-! ## Outcomes that are alike -/

/-- Whether two outcomes are alike: both accept, both reject or
both fail for the same reason. -/
inductive Alike {ε α : Type} : Except ε (Option α) → Except ε (Option α) → Prop where
  | accepted : Alike (.ok none) (.ok none)
  | rejected (first second : α) : Alike (.ok (some first)) (.ok (some second))
  | failed (failure : ε) : Alike (.error failure) (.error failure)

namespace Alike

variable {ε δ α β : Type} {first second : Except ε (Option α)}

theorem refl (outcome : Except ε (Option α)) : Alike outcome outcome := by
  cases outcome with
  | error failure => exact .failed failure
  | ok found =>
      cases found with
      | none => exact .accepted
      | some rejection => exact .rejected rejection rejection

/-- Outcomes stay alike if their rejections are told in other words. -/
theorem map (alike : Alike first second) (tell : α → β) :
    Alike (first.map (Option.map tell)) (second.map (Option.map tell)) := by
  cases alike with
  | accepted => exact .accepted
  | rejected first second => exact .rejected (tell first) (tell second)
  | failed failure => exact .failed failure

/-- Outcomes stay alike if their failures are told in other words. -/
theorem mapError (alike : Alike first second) (tell : ε → δ) :
    Alike (first.mapError tell) (second.mapError tell) := by
  cases alike with
  | accepted => exact .accepted
  | rejected first second => exact .rejected first second
  | failed failure => exact .failed (tell failure)

/-- Outcomes that are followed by others only after acceptance stay alike. -/
theorem and {first second next other : Check.Outcome} (alike : Alike first second)
    (nextAlike : Alike next other) :
    Alike
      (first >>= fun
        | some rejection => .ok (some rejection)
        | none => next)
      (second >>= fun
        | some rejection => .ok (some rejection)
        | none => other) := by
  cases alike with
  | accepted => exact nextAlike
  | rejected first second => exact .rejected first second
  | failed failure => exact .failed failure

/-- Outcomes that are followed by others only after a rejection stay alike. -/
theorem or {first second next other : Check.Outcome} (alike : Alike first second)
    (nextAlike : Alike next other) :
    Alike
      (first >>= fun
        | none => .ok none
        | some _ => next)
      (second >>= fun
        | none => .ok none
        | some _ => other) := by
  cases alike with
  | accepted => exact .accepted
  | rejected _ _ => exact nextAlike
  | failed failure => exact .failed failure

end Alike

namespace Check

/-! ## Tests on the value itself -/

theorem reject_alike (value : Value) (name other reason : Text) :
    Alike (reject value name reason) (reject value other reason) := by
  unfold reject
  split
  · exact .rejected _ _
  · exact .failed _

theorem testKind_alike (tagOf : Value → Text) (tag : Text) (negated : Bool)
    (value : Value)
    (name other : Text) :
    Alike (testKind tagOf tag negated value name)
      (testKind tagOf tag negated value other) := by
  unfold testKind
  split
  · exact .accepted
  · exact reject_alike value name other _

theorem testFormat_alike (tagOf : Value → Text) (literal : Literal) (pattern : Pattern)
    (value : Value) (name other : Text) :
    Alike (testFormat tagOf literal pattern value name)
      (testFormat tagOf literal pattern value other) := by
  unfold testFormat
  split
  · split
    · split
      · exact .accepted
      · exact reject_alike value name other _
      · exact .failed _
    · exact .refl _
  · exact reject_alike value name other _

/-! ## Members -/

/-- Whether two members are the same but for their names. -/
structure IsRenamed (first second : Member) : Prop where
  key : Option.Rel (fun entry other => entry.1 = other.1) first.key second.key
  value_eq : first.value = second.value
  name : Option.Rel (fun _ _ => True) first.name second.name

/-- Members that are made from the same items are renamed if each of them is. -/
theorem forall₂_mapIdx {α : Type} (items : List α) {toMember toOther : Nat → α → Member}
    (isRenamed : ∀ index item, IsRenamed (toMember index item) (toOther index item)) :
    List.Forall₂ IsRenamed (items.mapIdx toMember) (items.mapIdx toOther) := by
  induction items generalizing toMember toOther with
  | nil => exact .nil
  | cons item rest inductionHypothesis =>
      rw [List.mapIdx_cons, List.mapIdx_cons]
      exact .cons (isRenamed 0 item)
        (inductionHypothesis fun index later => isRenamed (index + 1) later)

/-- The members of a value under two names are the same but for their names. -/
theorem members_renamed (shape : Shape) (value : Value) (name other : Text) :
    (∃ fault, shape.members value name = .error fault ∧
      shape.members value other = .error fault) ∨
    ∃ members others, shape.members value name = .ok members ∧
      shape.members value other = .ok others ∧ List.Forall₂ IsRenamed members others := by
  cases shape with
  | array =>
      unfold Shape.members
      cases value.elements? with
      | none => exact .inl ⟨_, rfl, rfl⟩
      | some items =>
          exact .inr ⟨_, _, rfl, rfl,
            forall₂_mapIdx items fun _ _ => ⟨.none, rfl, .some trivial⟩⟩
  | object =>
      unfold Shape.members
      cases value.entries with
      | error fault => exact .inl ⟨fault, rfl, rfl⟩
      | ok entries =>
          -- Whether a value is named by its key depends on the key alone.
          refine .inr ⟨_, _, rfl, rfl,
            forall₂_mapIdx entries fun _ entry => ⟨.some rfl, rfl, ?_⟩⟩
          unfold fieldName?
          cases entry.1.plain? with
          | none => exact .none
          | some field => exact .some trivial
  | map =>
      unfold Shape.members
      cases value.entries with
      | error fault => exact .inl ⟨fault, rfl, rfl⟩
      | ok entries =>
          exact .inr ⟨_, _, rfl, rfl,
            forall₂_mapIdx entries fun _ _ => ⟨.some rfl, rfl, .some trivial⟩⟩

/-- Going through members goes the same way through renamed ones, if this holds of the
tests for their keys and values. -/
theorem firstRejection_alike {keyTest test : Value → Text → Outcome}
    (keyAlike : ∀ key path other, Alike (keyTest key path) (keyTest key other))
    (valueAlike : ∀ value path other, Alike (test value path) (test value other))
    {members others : List Member} (renamed : List.Forall₂ IsRenamed members others) :
    Alike (firstRejection keyTest test members) (firstRejection keyTest test others) := by
  induction renamed with
  | nil => exact .accepted
  | @cons member other rest others isRenamed _ inductionHypothesis =>
      obtain ⟨key, value, name⟩ := member
      obtain ⟨otherKey, otherValue, otherName⟩ := other
      obtain ⟨keyRenamed, rfl, nameRenamed⟩ := isRenamed
      have goesOn :=
        fun path other => (valueAlike value path other).and inductionHypothesis
      rw [firstRejection_cons, firstRejection_cons]
      cases keyRenamed with
      | none =>
          cases nameRenamed with
          | none => exact Alike.accepted.and (.failed _)
          | @some path otherPath _ => exact Alike.accepted.and (goesOn path otherPath)
      | @some entry otherEntry sameKey =>
          obtain ⟨key, keyPath⟩ := entry
          obtain ⟨_, otherKeyPath⟩ := otherEntry
          cases sameKey
          have ofKey := keyAlike key keyPath otherKeyPath
          cases nameRenamed with
          | none => exact ofKey.and (.failed _)
          | @some path otherPath _ => exact ofKey.and (goesOn path otherPath)

/-! ## Runs -/

mutual

/-- A check accepts, rejects or fails alike under all names. -/
theorem run_alike : ∀ (check : Check) (value : Value) (name other : Text),
    Alike (check.run Value.tag value name) (check.run Value.tag value other)
  | .any checks, value, name, other => by
      rw [run, run]
      exact runAny_alike checks value name other
  | .kind tag negated, value, name, other => by
      rw [run, run]
      exact testKind_alike Value.tag tag negated value name other
  | .format literal pattern, value, name, other => by
      rw [run, run]
      exact testFormat_alike Value.tag literal pattern value name other
  | .container own shape member key, value, name, other => by
      have keyAlike : ∀ item path other,
          Alike (keyTest key item path) (keyTest key item other) := by
        intro item path other
        cases key with
        | none => exact .accepted
        | some check => exact run_alike check item path other
      rw [run_container, run_container]
      refine (run_alike own value name other).and ?_
      obtain ⟨fault, isFault, isOtherFault⟩ |
          ⟨members, others, areMembers, areOthers, renamed⟩ :=
        members_renamed shape value name other
      · rw [isFault, isOtherFault]
        exact .failed fault
      · rw [areMembers, areOthers]
        exact firstRejection_alike keyAlike (run_alike member) renamed

/-- The checks of a group accept, reject or fail alike under all names. -/
theorem runAny_alike : ∀ (checks : List Check) (value : Value) (name other : Text),
    Alike (runAny Value.tag checks value name) (runAny Value.tag checks value other)
  | [], _, _, _ => by
      rw [runAny, runAny]
      exact .accepted
  | [check], value, name, other => by
      rw [runAny, runAny]
      exact run_alike check value name other
  | check :: next :: rest, value, name, other => by
      rw [runAny, runAny]
      exact (run_alike check value name other).or
        (runAny_alike (next :: rest) value name other)

end

/-- The messages of a check tell of the same acceptances and failures under all names. -/
theorem apply_alike (check : Check) (value : Value) (name other : Text) :
    Alike (check.apply value name) (check.apply value other) :=
  (run_alike check value name other).map Rejection.message

end Check
end KindExpr
