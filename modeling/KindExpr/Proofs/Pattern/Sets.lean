import KindExpr.Proofs.Pattern.Escapes

/-!
# Character sets and repetitions side by side

The items of a set are as many with a backslash before each slash. The
bounds of a repetition hold no slash, and where no bounds are written both
readers go back to the same token.
-/

namespace KindExpr
namespace Pattern
namespace Reader

variable {extra : Flags} {tokens : List Token} {flags : Flags}

open Follows (bind_get bind_peek bind_take bind_advance bind_accept bind_agrees
  bind_lift bind_goTo)

/-! ## Character sets -/

/-- In a set, an escaped slash stands for a slash. -/
theorem readSetEscape_delimiter : readSetEscape '/' = pure (.code '/'.toNat) := by
  funext state
  rfl

/-- The set item that a token stands for is the same in the body of a literal. -/
theorem readSetItem_agrees (token : Token) :
    Agrees extra tokens flags (readSetItem token) (readSetItem token.inBody) := by
  cases token with
  | escaped c => exact readSetEscape_agrees c
  | plain c =>
      by_cases isDelimiter : c = '/'
      · subst isDelimiter
        rw [Token.inBody, readSetItem, readSetItem, readSetEscape_delimiter]
        exact Agrees.pure _
      · rw [Token.inBody_plain isDelimiter]
        exact Agrees.pure _

/-- The items of a set are read alike, from wherever their set starts, if there is no
bound on the second reader that matters. -/
theorem readSetItems_agrees {start otherStart bound second : Nat} {isFirst : Bool}
    (few : tokens.length < second) :
    Agrees extra tokens flags (readSetItems start bound isFirst)
      (readSetItems otherStart second isFirst) := by
  induction bound generalizing tokens second isFirst with
  | zero => exact (Fails.failAt _ _).follows _ _
  | succ bound inductionHypothesis =>
      obtain ⟨second, rfl⟩ : ∃ less, second = less + 1 := ⟨second - 1, by omega⟩
      have isEnd : ∀ token : Token, token.inBody = .plain ']' ↔ token = .plain ']' :=
        fun token =>
        Token.inBody_eq_plain_iff.trans (and_iff_left (by decide))
      have further : ∀ item : SetItem, ∀ later : List Token, later.length < second →
          Agrees extra later flags
            (do return item :: (← readSetItems start bound false))
            (do return item :: (← readSetItems otherStart second false)) :=
        fun item later fewer =>
          bind_agrees (inductionHypothesis fewer) fun items _ _ => Agrees.pure _
      rw [readSetItems, readSetItems]
      refine bind_take ?_
      cases tokens with
      | nil => exact (Fails.failAt _ _).follows _ _
      | cons low rest =>
          have fewer : rest.length < second := Nat.lt_of_succ_lt_succ few
          simp only [List.map_cons, List.head?_cons, List.tail_cons, isEnd]
          refine .ite (fun _ => Agrees.pure []) fun _ => ?_
          refine bind_agrees (readSetItem_agrees low) fun item later reaches => ?_
          have fewerLater : later.length < second :=
            Nat.lt_of_le_of_lt reaches.length_le fewer
          refine bind_accept (by decide) (fun others isThere => ?_)
            (further item later fewerLater)
          subst isThere
          refine bind_take ?_
          cases others with
          | nil => exact (Fails.failAt _ _).follows _ _
          | cons high last =>
              simp only [List.map_cons, List.head?_cons, List.tail_cons, isEnd]
              refine .ite (fun _ => Agrees.pure _) fun _ => ?_
              refine bind_agrees (readSetItem_agrees high) fun other end_ reachesEnd => ?_
              have fewerEnd : end_.length < second := by
                have fewerHigh := reachesEnd.length_le
                simp only [List.length_cons] at fewerLater
                omega
              cases item with
              | code first =>
                  cases other with
                  | code final =>
                      refine .ite (fun _ => ?_) fun _ => further _ _ fewerEnd
                      exact ((Fails.failBack _ _).bind_left _).follows _ _
                  | range _ _ => exact (Fails.failBack _ _).follows _ _
                  | category _ _ => exact (Fails.failBack _ _).follows _ _
              | range _ _ => exact (Fails.failBack _ _).follows _ _
              | category _ _ => exact (Fails.failBack _ _).follows _ _

/-- A set is read alike. -/
theorem readSet_agrees {start otherStart bound second : Nat}
    (few : tokens.length < second) :
    Agrees extra tokens flags (readSet bound start) (readSet second otherStart) := by
  rw [readSet, readSet]
  refine bind_agrees (accept_agrees (by decide)) fun negated later reaches => ?_
  refine bind_agrees (readSetItems_agrees (Nat.lt_of_le_of_lt reaches.length_le few))
    fun items last _ => ?_
  split <;> exact Agrees.pure _

/-! ## Repetitions -/

/-- The bound of a repetition is read alike. -/
theorem readBound?_agrees (digits : List Code) :
    Agrees extra tokens flags (readBound? digits) (readBound? digits) := by
  rw [readBound?]
  refine .ite (fun _ => Agrees.pure none) fun _ => ?_
  refine .ite (fun _ => ((Fails.throw _).bind_left _).follows _ _) fun _ => ?_
  refine .ite (fun _ => ((Fails.throw _).bind_left _).follows _ _) fun _ => ?_
  exact Agrees.pure _

/-- The bounds of a repetition are read alike, if there is no bound
on their digits that matters. -/
theorem readBounds_agrees {mark : Code} {bound second : Nat} (few : tokens.length < bound)
    (fewToo : tokens.length < second) :
    Agrees extra tokens flags (readBounds bound mark) (readBounds second mark) := by
  have sameDigits : ∀ later : List Token, later.length ≤ tokens.length →
      Agrees extra later flags (takeWhile Text.isAsciiDigit bound)
        (takeWhile Text.isAsciiDigit second) :=
    fun later fewer => takeWhile_agrees (by decide) (.inr (by omega))
  rw [readBounds, readBounds]
  refine .ite (fun _ => Agrees.pure _) fun _ => ?_
  refine .ite (fun _ => Agrees.pure _) fun _ => ?_
  refine .ite (fun _ => Agrees.pure _) fun _ => ?_
  refine bind_get fun state other beside => bind_peek ?_
  simp only [head?_map_inBody_eq_plain_iff (show Code.char '\x7d' ≠ '/' by decide)]
  refine .ite (fun _ => Agrees.pure none) fun _ => ?_
  refine FollowsFrom.bind_agrees
    (sameDigits tokens (Nat.le_refl _)) fun low afterLow reachesLow => ?_
  refine FollowsFrom.bind_agrees
    (accept_agrees (by decide)) fun hasHigh afterMark reachesMark => ?_
  have fewer : afterMark.length ≤ tokens.length :=
    Nat.le_trans reachesMark.length_le reachesLow.length_le
  refine FollowsFrom.bind_choice
    (.ite (fun _ => sameDigits afterMark fewer) fun _ => Agrees.pure low)
    fun high afterHigh reachesHigh => ?_
  refine FollowsFrom.bind_agrees
    (accept_agrees (by decide)) fun isClosed later reaches => ?_
  cases isClosed with
  | false => exact FollowsFrom.bind_goTo beside.cursors (Agrees.pure none)
  | true =>
      have reachesLater :=
        reachesLow.trans (reachesMark.trans (reachesHigh.trans reaches))
      refine .of_follows reachesLater ?_
      refine bind_agrees (readBound?_agrees low) fun least _ _ => ?_
      refine bind_agrees (readBound?_agrees high) fun most _ _ => ?_
      cases most with
      | none => exact Agrees.pure _
      | some count =>
          refine .ite (fun _ => ((Fails.failAt _ _).bind_left _).follows _ _) fun _ => ?_
          exact Agrees.pure _

/-- A repetition is read alike, wherever its mark is. It leaves an item. -/
theorem readRepetition_follows {place otherPlace : Nat} (bounds : Nat × Option Nat)
    (items : List Node) :
    Follows extra tokens flags (readRepetition place bounds items)
      (readRepetition otherPlace bounds items)
      fun found foundToo _ kept => foundToo = found ∧ found ≠ [] ∧ kept = flags := by
  cases items with
  | nil => exact (Fails.failAt _ _).follows _ _
  | cons last earlier =>
      rw [readRepetition, readRepetition]
      refine .ite (fun _ => ((Fails.failAt _ _).bind_left _).follows _ _) fun _ => ?_
      refine .ite (fun _ => ((Fails.failAt _ _).bind_left _).follows _ _) fun _ => ?_
      have repeated : ∀ greed later, Follows extra later flags
          (pure (Node.repetition greed bounds.1 bounds.2
            (.ofList last.unpacked) :: earlier))
          (pure (Node.repetition greed bounds.1 bounds.2
            (.ofList last.unpacked) :: earlier))
          fun found foundToo _ kept => foundToo = found ∧ found ≠ [] ∧ kept = flags :=
        fun _ _ => Follows.pure ⟨rfl, List.cons_ne_nil _ _, rfl⟩
      refine bind_agrees (accept_agrees (by decide)) fun isLazy _ _ => ?_
      simp only [pure_bind]
      refine .ite (fun _ => repeated _ _) fun _ => ?_
      refine bind_agrees (accept_agrees (by decide)) fun isPossessive _ _ => ?_
      exact .ite (fun _ => repeated _ _) fun _ => repeated _ _

end Reader
end Pattern
end KindExpr
