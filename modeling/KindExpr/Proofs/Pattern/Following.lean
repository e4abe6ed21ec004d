import KindExpr.Pattern.Reader
import KindExpr.Proofs.Outcome
import KindExpr.Proofs.Pattern.Tokens

/-!
# Two readers side by side

One reader reads a pattern, the other one the body of a literal that holds the pattern.
They are at the same token all the time, and they know the same, except that the second
one has some further flags from the start.

`Follows` says that one reading step takes such readers to such readers when the first
one succeeds. There is a rule for each way in which steps are put together, and one for
each step that looks at tokens.
-/

namespace KindExpr
namespace Pattern

/-- Whether two readers are at the same token and know the same, where the second one
has some further flags. -/
structure IsBeside (extra : Flags) (tokens : List Token) (flags : Flags)
    (state other : ReaderState) : Prop where
  cursors : Cursor.IsBeside tokens state.cursor other.cursor
  forText : state.forText = true
  otherForText : other.forText = true
  flags_eq : state.flags = flags
  otherFlags_eq : other.flags = flags.union extra
  names_eq : other.names = state.names
  groups_eq : other.groups = state.groups
  lookBehind_eq : other.lookBehind = state.lookBehind
  conditions_eq : other.conditions.map Prod.fst = state.conditions.map Prod.fst

/-- The readers are in verbose mode together if the further
flags say nothing new about it. -/
theorem IsBeside.verbose_eq {extra : Flags} {tokens : List Token} {flags : Flags}
    {state other : ReaderState} (beside : IsBeside extra tokens flags state other)
    (aligned : extra.verbose = true → flags.verbose = true) :
    other.flags.verbose = state.flags.verbose := by
  rw [beside.flags_eq, beside.otherFlags_eq, Flags.union]
  cases isVerbose : extra.verbose with
  | false => rw [Bool.or_false]
  | true => rw [aligned isVerbose, Bool.true_or]

/-- Whether a reading step of one reader and one of the other take them from some tokens
to further ones, with results and flags that are related. -/
def Follows {α β : Type} (extra : Flags) (tokens : List Token) (flags : Flags)
    (reader : Reader α) (second : Reader β)
    (related : α → β → List Token → Flags → Prop) : Prop :=
  ∀ state other, IsBeside extra tokens flags state other →
    ∀ found final, reader.run state = .ok (found, final) →
      ∃ foundToo last later kept, second.run other = .ok (foundToo, last) ∧
        related found foundToo later kept ∧ Reaches tokens later ∧
          IsBeside extra later kept final last

/-- Whether two reading steps have the same result and keep the flags. -/
def Agrees {α : Type} (extra : Flags) (tokens : List Token) (flags : Flags)
    (reader second : Reader α) : Prop :=
  Follows extra tokens flags reader second fun found foundToo _ kept =>
    foundToo = found ∧ kept = flags

/-- Whether flags are kept, or some are added where that may be done. -/
structure IsKept (mayAdd : Prop) (flags kept : Flags) : Prop where
  grows : ∃ added, kept = flags.union added
  keeps : ¬ mayAdd → kept = flags

/-- Whether a reading step never succeeds. -/
def Fails {α : Type} (reader : Reader α) : Prop :=
  ∀ state result, reader.run state ≠ .ok result

variable {α β γ δ : Type} {extra : Flags} {tokens rest : List Token} {flags : Flags}

/-! ## Flags that are kept -/

namespace Flags

@[simp] theorem union_none (flags : Flags) : flags.union none = flags := by
  simp only [union, none, Bool.or_false]

theorem union_assoc (first second third : Flags) :
    (first.union second).union third = first.union (second.union third) := by
  simp only [union, Bool.or_assoc]

@[simp] theorem union_self (flags : Flags) : flags.union flags = flags := by
  simp only [union, Bool.or_self]

theorem union_right_comm (first second third : Flags) :
    (first.union second).union third = (first.union third).union second := by
  simp only [union, Bool.or_right_comm]

end Flags

namespace IsKept

variable {mayAdd mayAddToo : Prop} {kept last : Flags}

theorem refl (mayAdd : Prop) (flags : Flags) : IsKept mayAdd flags flags :=
  ⟨⟨.none, flags.union_none.symm⟩, fun _ => rfl⟩

theorem mono (isKept : IsKept mayAdd flags kept) (implies : mayAdd → mayAddToo) :
    IsKept mayAddToo flags kept :=
  ⟨isKept.grows, fun mayNot => isKept.keeps (mt implies mayNot)⟩

theorem trans (isKept : IsKept mayAdd flags kept) (further : IsKept mayAdd kept last) :
    IsKept mayAdd flags last := by
  refine ⟨?_, fun mayNot => (further.keeps mayNot).trans (isKept.keeps mayNot)⟩
  obtain ⟨added, rfl⟩ := isKept.grows
  obtain ⟨addedThen, rfl⟩ := further.grows
  exact ⟨added.union addedThen, flags.union_assoc added addedThen⟩

theorem staysVerbose (isKept : IsKept mayAdd flags kept)
    (isVerbose : flags.verbose = true) :
    kept.verbose = true := by
  obtain ⟨added, rfl⟩ := isKept.grows
  rw [Flags.union, isVerbose, Bool.true_or]

end IsKept

/-! ## Steps one after the other -/

/-- Two steps succeed if the first one does and the second one does with its result. -/
theorem Reader.run_bind_eq_ok_iff {reader : Reader α} {next : α → Reader β}
    {state : ReaderState}
    {result : β × ReaderState} :
    (reader >>= next).run state = .ok result ↔
      ∃ found middle, reader.run state = .ok (found, middle) ∧
        (next found).run middle = .ok result := by
  rw [StateT.run_bind, Outcome.bind_eq_ok_iff, Prod.exists]

namespace Fails

theorem throw (failure : Failure) : Fails (throw failure : Reader α) := by
  intro state result succeeded
  have failed : (MonadExcept.throw failure : Reader α).run state = .error failure := rfl
  rw [failed] at succeeded
  cases succeeded

theorem failAt (fault : Fault) (place : Nat) :
    Fails (Reader.failAt fault place : Reader α) :=
  throw _

theorem bind_left {reader : Reader α} (fails : Fails reader) (next : α → Reader β) :
    Fails (reader >>= next) := by
  intro state result succeeded
  obtain ⟨found, middle, isRead, -⟩ := Reader.run_bind_eq_ok_iff.mp succeeded
  exact fails state _ isRead

theorem bind_right {next : α → Reader β} (fails : ∀ found, Fails (next found))
    (reader : Reader α) : Fails (reader >>= next) := by
  intro state result succeeded
  obtain ⟨found, middle, -, isRead⟩ := Reader.run_bind_eq_ok_iff.mp succeeded
  exact fails found middle _ isRead

theorem failBack (fault : Fault) (distance : Nat) :
    Fails (Reader.failBack fault distance : Reader α) :=
  bind_right (fun _ => failAt _ _) _

/-- What fails is followed by anything. -/
theorem follows {reader : Reader α} (fails : Fails reader) (second : Reader β)
    (related : α → β → List Token → Flags → Prop) :
    Follows extra tokens flags reader second related :=
  fun state _ _ _ _ succeeded => absurd succeeded (fails state _)

end Fails

namespace Follows

variable {reader : Reader α} {second : Reader β} {next : α → Reader γ}
  {nextToo : β → Reader δ}
  {related : α → β → List Token → Flags → Prop}
  {result : γ → δ → List Token → Flags → Prop}

theorem pure {found : α} {foundToo : β}
    (isRelated : related found foundToo tokens flags) :
    Follows extra tokens flags (pure found) (pure foundToo) related := by
  intro state other beside _ _ succeeded
  cases succeeded
  exact ⟨foundToo, other, tokens, flags, rfl, isRelated, .refl tokens, beside⟩

theorem bind (first : Follows extra tokens flags reader second related)
    (further : ∀ found foundToo later kept, related found foundToo later kept →
      Reaches tokens later → Follows extra later kept (next found)
        (nextToo foundToo) result) :
    Follows extra tokens flags (reader >>= next) (second >>= nextToo) result := by
  intro state other beside found final succeeded
  obtain ⟨value, middle, isRead, goesOn⟩ := Reader.run_bind_eq_ok_iff.mp succeeded
  obtain ⟨valueToo, otherMiddle, later, kept, isReadToo, isRelated, reaches,
      besideMiddle⟩ :=
    first state other beside value middle isRead
  obtain ⟨foundToo, last, end_, keptThen, goesOnToo, isResult, reachesEnd, besideLast⟩ :=
    further value valueToo later kept isRelated reaches middle otherMiddle
      besideMiddle found final
      goesOn
  exact ⟨foundToo, last, end_, keptThen,
    Reader.run_bind_eq_ok_iff.mpr ⟨valueToo, otherMiddle, isReadToo, goesOnToo⟩, isResult,
    reaches.trans reachesEnd, besideLast⟩

/-- After a step with the same result on both sides. -/
theorem bind_agrees {second : Reader α} {nextToo : α → Reader δ}
    (first : Agrees extra tokens flags reader second)
    (further : ∀ found later, Reaches tokens later →
      Follows extra later flags (next found) (nextToo found) result) :
    Follows extra tokens flags (reader >>= next) (second >>= nextToo) result := by
  refine bind first ?_
  rintro found _ later _ ⟨rfl, rfl⟩ reaches
  exact further _ later reaches

/-- Both readers look at what they know. -/
theorem bind_get {next : ReaderState → Reader γ} {nextToo : ReaderState → Reader δ}
    (further : ∀ state other, IsBeside extra tokens flags state other →
      Follows extra tokens flags (next state) (nextToo other) result) :
    Follows extra tokens flags (get >>= next) (get >>= nextToo) result :=
  fun state other beside found final succeeded =>
    further state other beside state other beside found final succeeded

/-- Both readers change what they know. -/
theorem bind_modify {change changeToo : ReaderState → ReaderState}
    {next : Unit → Reader γ}
    {nextToo : Unit → Reader δ}
    (keeps : ∀ state other, IsBeside extra tokens flags state other →
      IsBeside extra tokens flags (change state) (changeToo other))
    (further : Follows extra tokens flags (next ()) (nextToo ()) result) :
    Follows extra tokens flags (modify change >>= next)
      (modify changeToo >>= nextToo) result :=
  fun state other beside found final succeeded =>
    further (change state) (changeToo other)
      (keeps state other beside) found final succeeded

/-- Both readers take a step that is no step of reading. -/
theorem bind_lift {first : Except Failure α} {second : Except Failure β}
    (further : ∀ found, first = .ok found → ∃ foundToo, second = .ok foundToo ∧
      Follows extra tokens flags (next found) (nextToo foundToo) result) :
    Follows extra tokens flags ((liftM first : Reader α) >>= next)
      ((liftM second : Reader β) >>= nextToo) result := by
  intro state other beside found final succeeded
  cases first with
  | error failure => cases succeeded
  | ok value =>
      obtain ⟨valueToo, rfl, follows⟩ := further value rfl
      exact follows state other beside found final succeeded

/-- A choice by a condition that is the same on both sides. -/
theorem ite {condition : Prop} [Decidable condition] {otherwise : Reader α}
    {otherwiseToo : Reader β}
    (ifTrue : condition → Follows extra tokens flags reader second related)
    (ifFalse : ¬ condition → Follows extra tokens flags otherwise otherwiseToo related) :
    Follows extra tokens flags (if condition then reader else otherwise)
      (if condition then second else otherwiseToo) related := by
  by_cases holds : condition
  · simpa only [if_pos holds] using ifTrue holds
  · simpa only [if_neg holds] using ifFalse holds

/-- What is related may be related less closely, and what is left is reached. -/
theorem imp (follows : Follows extra tokens flags reader second related)
    {weaker : α → β → List Token → Flags → Prop}
    (isWeaker : ∀ found foundToo later kept, related found foundToo later kept →
      Reaches tokens later → weaker found foundToo later kept) :
    Follows extra tokens flags reader second weaker := by
  intro state other beside found final succeeded
  obtain ⟨foundToo, last, later, kept, isRead, isRelated, reaches, besideLast⟩ :=
    follows state other beside found final succeeded
  exact ⟨foundToo, last, later, kept, isRead, isWeaker _ _ _ _ isRelated reaches, reaches,
    besideLast⟩

/-- A choice between two first steps. -/
theorem bind_choice {condition : Prop} [Decidable condition] {otherwise : Reader α}
    {otherwiseToo : Reader β}
    (first : Follows extra tokens flags (if condition then reader else otherwise)
      (if condition then second else otherwiseToo) related)
    (further : ∀ found foundToo later kept, related found foundToo later kept →
      Reaches tokens later → Follows extra later kept (next found)
        (nextToo foundToo) result) :
    Follows extra tokens flags (if condition then reader >>= next else otherwise >>= next)
      (if condition then second >>= nextToo else otherwiseToo >>= nextToo) result := by
  by_cases holds : condition
  · simp only [if_pos holds] at first ⊢
    exact first.bind further
  · simp only [if_neg holds] at first ⊢
    exact first.bind further

end Follows

theorem Agrees.pure (found : α) :
    Agrees extra tokens flags (Pure.pure found) (Pure.pure found) :=
  Follows.pure ⟨rfl, rfl⟩

/-! ## Steps that look at tokens -/

namespace Follows

variable {result : γ → δ → List Token → Flags → Prop}

/-- Both readers look at the token ahead. -/
theorem bind_peek {next : Option Token → Reader γ} {nextToo : Option Token → Reader δ}
    (further : Follows extra tokens flags (next tokens.head?)
      (nextToo (tokens.map Token.inBody).head?) result) :
    Follows extra tokens flags (Reader.peek >>= next)
      (Reader.peek >>= nextToo) result := by
  rw [Reader.peek, bind_assoc, bind_assoc]
  refine bind_get fun state other beside => ?_
  rw [beside.cursors.peek.1, beside.cursors.peek.2, pure_bind, pure_bind]
  exact further

/-- Both readers note where they are, which may be at different places. -/
theorem bind_position {next : Nat → Reader γ} {nextToo : Nat → Reader δ}
    (further : ∀ place otherPlace,
      Follows extra tokens flags (next place) (nextToo otherPlace) result) :
    Follows extra tokens flags (Reader.position >>= next) (Reader.position >>= nextToo)
      result := by
  rw [Reader.position, bind_assoc, bind_assoc]
  refine bind_get fun state other _ => ?_
  rw [pure_bind, pure_bind]
  exact further _ _

/-- The first reader notes where it is. -/
theorem position_left {next : Nat → Reader γ} {second : Reader δ}
    (further : ∀ place, Follows extra tokens flags (next place) second result) :
    Follows extra tokens flags (Reader.position >>= next) second result :=
  fun state other beside found final succeeded =>
    further state.cursor.position state other beside found final succeeded

/-- Both readers go to cursors that are side by side. -/
theorem bind_goTo {cursor other : Cursor} {later : List Token}
    {next : Unit → Reader γ} {nextToo : Unit → Reader δ}
    (beside : Cursor.IsBeside later cursor other) (reaches : Reaches tokens later)
    (further : Follows extra later flags (next ()) (nextToo ()) result) :
    Follows extra tokens flags (Reader.goTo cursor >>= next)
      (Reader.goTo other >>= nextToo)
      result := by
  intro state second besideBefore found final succeeded
  obtain ⟨foundToo, last, end_, kept, isRead, isResult, reachesEnd, besideLast⟩ :=
    further { state with cursor := cursor } { second with cursor := other }
      { besideBefore with cursors := beside } found final succeeded
  exact ⟨foundToo, last, end_, kept, isRead, isResult,
    reaches.trans reachesEnd, besideLast⟩

/-- Both readers move past the token ahead. -/
theorem bind_advance {next : Unit → Reader γ} {nextToo : Unit → Reader δ}
    (further : Follows extra tokens.tail flags (next ()) (nextToo ()) result) :
    Follows extra tokens flags (Reader.advance >>= next)
      (Reader.advance >>= nextToo) result := by
  rw [Reader.advance, bind_assoc, bind_assoc]
  refine bind_get fun state other beside => ?_
  rw [bind_assoc, bind_assoc]
  refine bind_lift fun cursor advanced => ?_
  obtain ⟨second, advancedToo, besideNext, reaches⟩ := beside.cursors.advance advanced
  exact ⟨second, advancedToo, bind_goTo besideNext reaches further⟩

/-- Both readers take the token ahead. -/
theorem bind_take {next : Option Token → Reader γ} {nextToo : Option Token → Reader δ}
    (further : Follows extra tokens.tail flags (next tokens.head?)
      (nextToo (tokens.map Token.inBody).head?) result) :
    Follows extra tokens flags (Reader.take >>= next)
      (Reader.take >>= nextToo) result := by
  rw [Reader.take, bind_assoc, bind_assoc]
  refine bind_peek ?_
  rw [bind_assoc, bind_assoc]
  refine bind_advance ?_
  rw [pure_bind, pure_bind]
  exact further

/-- Both readers take the same token, where the first one goes on neither at the end of
the tokens nor at a slash. -/
theorem bind_take_same {next : Option Token → Reader γ}
    {nextToo : Option Token → Reader δ}
    (atEnd : Fails (next none)) (atDelimiter : Fails (next (some (.plain '/'))))
    (ofToken : ∀ token rest, tokens = token :: rest →
      Follows extra rest flags (next (some token)) (nextToo (some token)) result) :
    Follows extra tokens flags (Reader.take >>= next)
      (Reader.take >>= nextToo) result := by
  refine bind_take ?_
  cases tokens with
  | nil => exact atEnd.follows _ _
  | cons token rest =>
      simp only [List.map_cons, List.head?_cons, List.tail_cons]
      obtain rfl | isSame := token.eq_delimiter_or_inBody_eq
      · exact atDelimiter.follows _ _
      · rw [isSame]
        exact ofToken token rest rfl

/-- Both readers take a character if it is ahead. -/
theorem bind_accept {c : Code} (notDelimiter : c ≠ '/') {next : Bool → Reader γ}
    {nextToo : Bool → Reader δ}
    (ifTaken : ∀ rest, tokens = .plain c :: rest →
      Follows extra rest flags (next true) (nextToo true) result)
    (ifNot : Follows extra tokens flags (next false) (nextToo false) result) :
    Follows extra tokens flags (Reader.accept c >>= next)
      (Reader.accept c >>= nextToo) result := by
  rw [Reader.accept, bind_assoc, bind_assoc]
  refine bind_peek ?_
  simp only [head?_map_inBody_eq_plain_iff notDelimiter]
  by_cases isAhead : tokens.head? = some (.plain c)
  · obtain ⟨rest, rfl⟩ := List.head?_eq_some_iff.mp isAhead
    rw [if_pos isAhead, bind_assoc, bind_assoc]
    exact bind_advance (ifTaken rest rfl)
  · rw [if_neg isAhead, pure_bind, pure_bind]
    exact ifNot

end Follows

/-! ## Going back -/

/-- As `Follows`, but the tokens afterwards are reached from earlier
ones: these steps may go back. -/
def FollowsFrom {α β : Type} (extra : Flags) (earlier tokens : List Token) (flags : Flags)
    (reader : Reader α) (second : Reader β)
    (related : α → β → List Token → Flags → Prop) : Prop :=
  ∀ state other, IsBeside extra tokens flags state other →
    ∀ found final, reader.run state = .ok (found, final) →
      ∃ foundToo last later kept, second.run other = .ok (foundToo, last) ∧
        related found foundToo later kept ∧ Reaches earlier later ∧
          IsBeside extra later kept final last

namespace FollowsFrom

variable {earlier : List Token} {result : γ → δ → List Token → Flags → Prop}

theorem of_follows {reader : Reader γ} {second : Reader δ}
    (reaches : Reaches earlier tokens)
    (follows : Follows extra tokens flags reader second result) :
    FollowsFrom extra earlier tokens flags reader second result := by
  intro state other beside found final succeeded
  obtain ⟨foundToo, last, later, kept, isRead, isResult, reachesLater, besideLast⟩ :=
    follows state other beside found final succeeded
  exact ⟨foundToo, last, later, kept, isRead, isResult,
    reaches.trans reachesLater, besideLast⟩

theorem bind_agrees {reader second : Reader α} {next : α → Reader γ}
    {nextToo : α → Reader δ}
    (first : Agrees extra tokens flags reader second)
    (further : ∀ found later, Reaches tokens later →
      FollowsFrom extra earlier later flags (next found) (nextToo found) result) :
    FollowsFrom extra earlier tokens flags (reader >>= next)
      (second >>= nextToo) result := by
  intro state other beside found final succeeded
  obtain ⟨value, middle, isRead, goesOn⟩ := Reader.run_bind_eq_ok_iff.mp succeeded
  obtain ⟨_, otherMiddle, later, _, isReadToo, ⟨rfl, rfl⟩, reaches, besideMiddle⟩ :=
    first state other beside value middle isRead
  obtain ⟨foundToo, last, end_, kept, goesOnToo, isResult, reachesEnd, besideLast⟩ :=
    further _ later reaches middle otherMiddle besideMiddle found final goesOn
  exact ⟨foundToo, last, end_, kept,
    Reader.run_bind_eq_ok_iff.mpr ⟨_, otherMiddle, isReadToo, goesOnToo⟩,
    isResult, reachesEnd,
    besideLast⟩

/-- A choice between two first steps. -/
theorem bind_choice {condition : Prop} [Decidable condition]
    {reader second otherwise : Reader α}
    {otherwiseToo : Reader α} {next : α → Reader γ} {nextToo : α → Reader δ}
    (first : Agrees extra tokens flags (if condition then reader else otherwise)
      (if condition then second else otherwiseToo))
    (further : ∀ found later, Reaches tokens later →
      FollowsFrom extra earlier later flags (next found) (nextToo found) result) :
    FollowsFrom extra earlier tokens flags
      (if condition then reader >>= next else otherwise >>= next)
      (if condition then second >>= nextToo else otherwiseToo >>= nextToo) result := by
  by_cases holds : condition
  · simp only [if_pos holds] at first ⊢
    exact bind_agrees first further
  · simp only [if_neg holds] at first ⊢
    exact bind_agrees first further

/-- Both readers go back to cursors that are side by side. -/
theorem bind_goTo {cursor other : Cursor} {next : Unit → Reader γ}
    {nextToo : Unit → Reader δ}
    (beside : Cursor.IsBeside earlier cursor other)
    (further : Follows extra earlier flags (next ()) (nextToo ()) result) :
    FollowsFrom extra earlier tokens flags (Reader.goTo cursor >>= next)
      (Reader.goTo other >>= nextToo) result := by
  intro state second besideBefore found final succeeded
  exact further { state with cursor := cursor } { second with cursor := other }
    { besideBefore with cursors := beside } found final succeeded

end FollowsFrom
end Pattern
end KindExpr
