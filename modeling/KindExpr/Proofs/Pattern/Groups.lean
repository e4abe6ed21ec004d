import KindExpr.Proofs.Pattern.Sets

/-!
# The heads of groups side by side

The names and the numbers of groups hold no slash, and no flag is written with one. What
a group says before its body is read alike. The flags that a pattern sets for itself are
the only ones that its reader keeps.
-/

namespace KindExpr

/-! ## Numerals -/

namespace Numeral

/-- What is no digit and no underscore is left over. -/
theorem mem_rest_of_mem {text : List Code} {c : Code} (isThere : c ∈ text)
    (notDigit : Text.digitValue? c = none) (notSeparator : c ≠ '_') :
    c ∈ (readSeparatedDigits text).2 := by
  have notHead : ∀ {d digit rest}, c ∈ d :: rest → Text.digitValue? d = some digit →
      c ∈ rest := by
    intro d digit rest isThere isDigit
    obtain rfl | isLater := List.mem_cons.mp isThere
    · rw [notDigit] at isDigit
      cases isDigit
    · exact isLater
  induction text using readSeparatedDigits.induct with
  | case1 => exact isThere
  | case2 d rest digit isDigit others remaining equal inductionHypothesis =>
      rw [readSeparatedDigits]
      simp only [isDigit]
      exact inductionHypothesis
        (notHead (List.mem_of_ne_of_mem notSeparator isThere) isDigit)
  | case3 d rest notDigit =>
      rw [readSeparatedDigits]
      simp only [notDigit]
      exact isThere
  | case4 d rest notPair digit isDigit others remaining equal inductionHypothesis =>
      rw [readSeparatedDigits]
      · simp only [isDigit]
        exact inductionHypothesis (notHead isThere isDigit)
      · exact notPair
  | case5 d rest notPair notDigit =>
      rw [readSeparatedDigits]
      · simp only [notDigit]
        exact isThere
      · exact notPair

/-- There is no slash in an integer. -/
theorem no_delimiter_of_integer {text : List Code} {number : Int}
    (isInteger : integer? text = some number) : .char '/' ∉ text := by
  intro isThere
  have inTrimmed : .char '/' ∈ trimmed text := by
    rw [trimmed, List.mem_reverse]
    refine Text.mem_dropWhile
      (List.mem_reverse.mpr (Text.mem_dropWhile isThere ?_)) ?_ <;> decide
  have inBody : .char '/' ∈ (readSign (trimmed text)).2 := by
    rw [readSign.eq_def]
    split
    · simpa [*] using inTrimmed
    · simpa [*] using inTrimmed
    · exact inTrimmed
  have inRest : .char '/' ∈ (readDigits (readSign (trimmed text)).2).2 := by
    rw [readDigits.eq_def]
    split
    · simpa [*] using inBody
    · exact mem_rest_of_mem inBody (by decide +kernel) (by decide)
  have noInteger : integer? text = none :=
    if_pos (.inr (.inl (List.ne_nil_of_mem inRest)))
  rw [noInteger] at isInteger
  cases isInteger
end Numeral

namespace Pattern
namespace Reader

variable {extra : Flags} {tokens : List Token} {flags : Flags}

open Follows (bind_get bind_peek bind_take_same bind_advance bind_accept bind_agrees
  bind_lift bind_goTo bind_modify bind_position bind_choice)

/-! ## Names and numbers of groups -/

/-- There is no slash in an identifier. -/
theorem no_delimiter_of_isIdentifier {name : List Code}
    (isName : Text.isIdentifier name = true) :
    .char '/' ∉ name := by
  have notStart : Text.isIdentifierStart '/' = false := by decide +kernel
  have notContinue : Text.isIdentifierContinue '/' = false := by decide +kernel
  intro isThere
  cases name with
  | nil => cases isThere
  | cons c rest =>
      rw [Text.isIdentifier, Bool.and_eq_true, List.all_eq_true] at isName
      obtain rfl | isLater := List.mem_cons.mp isThere
      · exact absurd isName.1 (by rw [notStart]; decide)
      · exact absurd (isName.2 '/' isLater) (by rw [notContinue]; decide)

/-- A name that is accepted is spelled only by itself. -/
theorem checkGroupName_follows {name nameToo : List Code}
    (spelled : Cursor.IsSpelled name nameToo) :
    Follows extra tokens flags (checkGroupName name) (checkGroupName nameToo)
      fun _ _ _ kept => nameToo = name ∧ kept = flags := by
  cases isName : Text.isIdentifier name with
  | false =>
      rw [checkGroupName, isName]
      exact (Fails.failBack _ _).follows _ _
  | true =>
      have sameName := spelled.eq_of_no_delimiter (no_delimiter_of_isIdentifier isName)
      rw [sameName, checkGroupName, isName]
      exact Follows.pure ⟨rfl, rfl⟩

/-- The number of a named group is the same. -/
theorem groupNumber_agrees (name : List Code) :
    Agrees extra tokens flags (groupNumber name) (groupNumber name) := by
  rw [groupNumber]
  refine bind_get fun state other beside => ?_
  rw [beside.names_eq]
  cases state.names.lookup (Text.ofList name) with
  | none => exact (Fails.failBack _ _).follows _ _
  | some number => exact Agrees.pure number

/-- A reference to a named group is read alike. -/
theorem readNamedReference_agrees :
    Agrees extra tokens flags readNamedReference readNamedReference := by
  rw [readNamedReference]
  refine Follows.bind (takeName_follows (by decide) _) ?_
  rintro name nameToo later _ ⟨spelled, rfl⟩ -
  refine Follows.bind (checkGroupName_follows spelled) ?_
  rintro _ _ afterName _ ⟨rfl, rfl⟩ -
  refine bind_agrees (groupNumber_agrees _) fun number _ _ => ?_
  refine bind_agrees (closedWidth?_agrees number) fun width _ _ => ?_
  cases width with
  | none => exact (Fails.failBack _ _).follows _ _
  | some width =>
      exact bind_agrees (checkLookBehind_agrees number) fun _ _ _ => Agrees.pure _

/-- Whether a number is looked up successfully depends on the numbers only. -/
theorem lookup_isSome_congr {number : Nat} {entries others : List (Nat × Nat)}
    (sameNumbers : others.map Prod.fst = entries.map Prod.fst) :
    (others.lookup number).isSome = (entries.lookup number).isSome := by
  have byNumbers : ∀ entries : List (Nat × Nat),
      (entries.lookup number).isSome = (entries.map Prod.fst).contains number := by
    intro entries
    induction entries with
    | nil => rfl
    | cons entry rest inductionHypothesis =>
        rw [List.lookup_cons, List.map_cons, List.contains_cons]
        cases number == entry.1 with
        | true => rfl
        | false => exact inductionHypothesis
  rw [byNumbers, byNumbers, sameNumbers]

/-- The numbers that conditions mention are noted alike, wherever they are. -/
theorem isBeside_mention {state other : ReaderState}
    (beside : IsBeside extra tokens flags state other) (number place otherPlace : Nat) :
    IsBeside extra tokens flags
      (if (state.conditions.lookup number).isSome then state
        else { state with conditions := state.conditions ++ [(number, place)] })
      (if (other.conditions.lookup number).isSome then other
        else { other with
          conditions := other.conditions ++ [(number, otherPlace)] }) := by
  rw [lookup_isSome_congr beside.conditions_eq]
  split
  · exact beside
  · refine { beside with conditions_eq := ?_ }
    rw [List.map_append, List.map_append, beside.conditions_eq]
    rfl

/-- A condition asks for the same group. -/
theorem readCondition_agrees : Agrees extra tokens flags readCondition readCondition := by
  rw [readCondition]
  refine Follows.bind (takeName_follows (by decide) _) ?_
  rintro name nameToo later _ ⟨spelled, rfl⟩ -
  cases isName : Text.isIdentifier name with
  | true =>
      rw [spelled.eq_of_no_delimiter (no_delimiter_of_isIdentifier isName)]
      simp only [isName, if_true]
      refine bind_agrees (groupNumber_agrees name) fun number _ _ => ?_
      exact bind_agrees (checkLookBehind_agrees number) fun _ _ _ => Agrees.pure number
  | false =>
      cases isInteger : Numeral.integer? name with
      | none =>
          simp only [Bool.false_eq_true, if_false]
          exact ((Fails.failBack _ _).bind_left _).follows _ _
      | some number =>
          rw [spelled.eq_of_no_delimiter (Numeral.no_delimiter_of_integer isInteger)]
          simp only [isName, Bool.false_eq_true, if_false, isInteger, pure_bind]
          cases number with
          | negSucc less => exact ((Fails.failBack _ _).bind_left _).follows _ _
          | ofNat number =>
              refine .ite (fun _ =>
                ((Fails.failBack _ _).bind_left _).follows _ _) fun _ => ?_
              refine .ite (fun _ =>
                ((Fails.failBack _ _).bind_left _).follows _ _) fun _ => ?_
              refine bind_position fun place otherPlace => ?_
              refine bind_modify (fun _ _ beside => isBeside_mention beside number _ _) ?_
              exact bind_agrees (checkLookBehind_agrees number) fun _ _ _ =>
                Agrees.pure number

/-- Groups are opened alike. -/
theorem openGroup_agrees (name : Option (List Code)) :
    Agrees extra tokens flags (openGroup name) (openGroup name) := by
  rw [openGroup]
  refine bind_agrees groupCount_agrees fun number _ _ => ?_
  refine bind_modify (fun state other beside => ?_) ?_
  · exact { beside with groups_eq := congrArg (· ++ [none]) beside.groups_eq }
  cases name with
  | none => exact Agrees.pure number
  | some name =>
      refine bind_get fun state other beside => ?_
      rw [beside.names_eq]
      cases state.names.lookup (Text.ofList name) with
      | some earlier => exact ((Fails.failBack _ _).bind_left _).follows _ _
      | none =>
          refine bind_modify (fun state other beside => ?_) (Agrees.pure number)
          exact { beside with names_eq := congrArg (List.cons _) beside.names_eq }

/-- Groups are closed alike. -/
theorem closeGroup_agrees (number : Nat) (width : Width) :
    Agrees extra tokens flags (closeGroup number width) (closeGroup number width) := by
  rw [closeGroup, ← bind_pure (modify _)]
  refine bind_modify (fun state other beside => ?_) (Agrees.pure ())
  exact { beside with
    groups_eq := congrArg (List.set · (number - 1) (some width)) beside.groups_eq }

/-! ## Inline flags -/

/-- A flag is checked alike against those added before. -/
theorem checkClassification_agrees (flag added : Flags) :
    Agrees extra tokens flags (checkClassification flag added)
      (checkClassification flag added) := by
  rw [checkClassification]
  exact .ite (fun _ => (Fails.failBack _ _).follows _ _) fun _ => Agrees.pure ()

/-- What is no flag is refused. -/
theorem failFlag_fails {α : Type} (token : Token) (expected : Text) :
    Fails (failFlag token expected : Reader α) :=
  Fails.failBack _ _

/-- The flags that are turned on are read alike, if there is no bound on the second
reader that matters. -/
theorem readAddedFlags_agrees {bound second : Nat} {letter : Code} {flag added : Flags}
    (few : tokens.length < second) :
    Agrees extra tokens flags (readAddedFlags bound letter flag added)
      (readAddedFlags second letter flag added) := by
  induction bound generalizing tokens second letter flag added with
  | zero => exact (Fails.failBack _ _).follows _ _
  | succ bound inductionHypothesis =>
      obtain ⟨second, rfl⟩ : ∃ less, second = less + 1 := ⟨second - 1, by omega⟩
      rw [readAddedFlags, readAddedFlags]
      refine bind_get fun state other beside => ?_
      rw [beside.forText, beside.otherForText]
      simp only [if_true]
      refine .ite (fun _ => ((Fails.failBack _ _).bind_left _).follows _ _) fun _ => ?_
      refine bind_agrees (checkClassification_agrees flag _) fun _ later reaches => ?_
      refine bind_take_same (Fails.failBack _ _) (failFlag_fails _ _) ?_
      rintro token rest rfl
      have fewer : rest.length < second := by
        have lengths := reaches.length_le
        simp only [List.length_cons] at lengths
        omega
      dsimp only
      split
      · exact Agrees.pure _
      · exact Agrees.pure _
      · exact Agrees.pure _
      · split
        · exact inductionHypothesis fewer
        · exact (failFlag_fails _ _).follows _ _

/-- The flags that are turned off are read alike. -/
theorem readRemovedFlags_agrees {bound second : Nat} {flag removed : Flags}
    (few : tokens.length < second) :
    Agrees extra tokens flags (readRemovedFlags bound flag removed)
      (readRemovedFlags second flag removed) := by
  induction bound generalizing tokens second flag removed with
  | zero => exact (Fails.failBack _ _).follows _ _
  | succ bound inductionHypothesis =>
      obtain ⟨second, rfl⟩ : ∃ less, second = less + 1 := ⟨second - 1, by omega⟩
      rw [readRemovedFlags, readRemovedFlags]
      refine .ite (fun _ => ((Fails.failBack _ _).bind_left _).follows _ _) fun _ => ?_
      refine bind_take_same (Fails.failBack _ _) ?_ ?_
      · dsimp only
        rw [if_neg (by decide)]
        exact failFlag_fails _ _
      · rintro token rest rfl
        refine .ite (fun _ => Agrees.pure _) fun _ => ?_
        split
        · exact inductionHypothesis (Nat.lt_of_succ_lt_succ few)
        · exact (failFlag_fails _ _).follows _ _

/-- The flags before the end of a group or a minus sign are read alike. -/
theorem readAdditions_agrees {bound second : Nat} (first : Code)
    (few : tokens.length < second) :
    Agrees extra tokens flags (readAdditions bound first)
      (readAdditions second first) := by
  rw [readAdditions, readAdditions]
  cases Flags.ofLetter? first with
  | none => exact Agrees.pure _
  | some flag => exact readAddedFlags_agrees few

/-- The flags after a minus sign are read alike. -/
theorem readRemovals_agrees {bound second : Nat} (last : Code)
    (few : tokens.length < second) :
    Agrees extra tokens flags (readRemovals bound last) (readRemovals second last) := by
  rw [readRemovals, readRemovals]
  refine .ite (fun _ => bind_take_same (Fails.failBack _ _) (failFlag_fails _ _) ?_)
    fun _ => Agrees.pure _
  rintro token rest rfl
  dsimp only
  cases flagOf? token with
  | none => exact (failFlag_fails _ _).follows _ _
  | some flag => exact readRemovedFlags_agrees (Nat.lt_of_succ_lt few)

/-- Inline flags are read alike. Those for the whole pattern are added on both sides. -/
theorem readFlags_follows {bound second : Nat} (first : Code)
    (few : tokens.length < second) :
    Follows extra tokens flags (readFlags bound first) (readFlags second first)
      fun found foundToo _ kept => foundToo = found ∧
        IsKept (found = none) flags kept := by
  rw [readFlags, readFlags]
  refine bind_agrees (readAdditions_agrees first few) fun additions later reaches => ?_
  obtain ⟨added, last⟩ := additions
  have fewer : later.length < second := Nat.lt_of_le_of_lt reaches.length_le few
  refine .ite (fun _ => ?_) fun _ => ?_
  · intro state other beside found final succeeded
    cases succeeded
    refine ⟨none, _, later, flags.union added, rfl,
      ⟨rfl, ⟨added, rfl⟩, fun isSome => absurd rfl isSome⟩, .refl later, ?_⟩
    refine { beside with flags_eq := ?_, otherFlags_eq := ?_ }
    · exact congrArg (Flags.union · added) beside.flags_eq
    · refine (congrArg (Flags.union · added) beside.otherFlags_eq).trans ?_
      exact Flags.union_right_comm flags extra added
  · refine .ite (fun _ => ((Fails.failBack _ _).bind_left _).follows _ _) fun _ => ?_
    refine bind_agrees (readRemovals_agrees last fewer) fun removed _ _ => ?_
    refine .ite (fun _ => ((Fails.failBack _ _).bind_left _).follows _ _) fun _ => ?_
    refine .ite (fun _ => ((Fails.failBack _ _).bind_left _).follows _ _) fun _ => ?_
    exact Follows.pure ⟨rfl, .refl _ _⟩

/-! ## Heads -/

/-- The head of a named group, or a reference by name, is read alike. -/
theorem readNamedHead_agrees : Agrees extra tokens flags readNamedHead readNamedHead := by
  rw [readNamedHead]
  refine bind_accept (by decide) (fun rest _ => ?_) ?_
  · refine Follows.bind (takeName_follows (by decide) _) ?_
    rintro name nameToo later _ ⟨spelled, rfl⟩ -
    refine Follows.bind (checkGroupName_follows spelled) ?_
    rintro _ _ afterName _ ⟨rfl, rfl⟩ -
    exact bind_agrees (openGroup_agrees _) fun number _ _ => Agrees.pure _
  · refine bind_accept (by decide) (fun rest _ => ?_) ?_
    · exact bind_agrees readNamedReference_agrees fun node _ _ => Agrees.pure _
    · refine (Fails.bind_right (fun token => ?_) _).follows _ _
      cases token with
      | none => exact Fails.failBack _ _
      | some token => exact Fails.failBack _ _

/-- A comment is passed over alike. -/
theorem readComment_agrees {start otherStart : Nat} :
    Agrees extra tokens flags (readComment start) (readComment otherStart) := by
  rw [readComment, readComment]
  refine bind_get fun state other beside => bind_lift fun result collected => ?_
  obtain ⟨text, found, cursor⟩ := result
  obtain ⟨textToo, last, later, collectedToo, -, besideLater, reaches⟩ :=
    beside.cursors.upTo (by decide) collected
  refine ⟨(textToo, found, last), collectedToo, bind_goTo besideLater reaches ?_⟩
  exact .ite (fun _ => ((Fails.failAt _ _).bind_left _).follows _ _) fun _ =>
    Agrees.pure _

/-- The head of a look-behind is read alike. -/
theorem readLookBehind_agrees :
    Agrees extra tokens flags readLookBehind readLookBehind := by
  rw [readLookBehind]
  refine bind_take_same (Fails.failBack _ _) (Fails.failBack _ _) fun token rest _ => ?_
  split
  · exact (Fails.failBack _ _).follows _ _
  · exact Agrees.pure _
  · exact Agrees.pure _
  · exact (Fails.failBack _ _).follows _ _

/-- The head of a group is read alike. Only flags for the whole pattern are kept. -/
theorem readHead_follows {bound second start otherStart : Nat}
    (few : tokens.length < second) :
    Follows extra tokens flags (readHead bound start) (readHead second otherStart)
      fun found foundToo _ kept => foundToo = found ∧
        IsKept (found = .globalFlags) flags kept := by
  have isKept : ∀ {later : List Token} {head headToo : Reader GroupHead},
      Agrees extra later flags head headToo →
        Follows extra later flags head headToo fun found foundToo _ kept =>
          foundToo = found ∧
          IsKept (found = .globalFlags) flags kept := by
    intro later head headToo agrees
    refine Follows.imp agrees ?_
    rintro found _ _ _ ⟨rfl, rfl⟩ -
    exact ⟨rfl, .refl _ _⟩
  rw [readHead, readHead]
  refine bind_accept (by decide) (fun rest isThere => ?_) ?_
  · subst isThere
    refine bind_take_same (Fails.failBack _ _) (Fails.failBack _ _) ?_
    rintro token rest rfl
    cases token with
    | escaped c => exact (Fails.failBack _ _).follows _ _
    | plain c =>
        dsimp only
        split
        · exact isKept readNamedHead_agrees
        · exact isKept (Agrees.pure _)
        · exact isKept readComment_agrees
        · exact isKept (Agrees.pure _)
        · exact isKept (Agrees.pure _)
        · exact isKept readLookBehind_agrees
        · refine isKept (bind_agrees readCondition_agrees fun group _ _ => ?_)
          exact Agrees.pure _
        · exact isKept (Agrees.pure _)
        · refine .ite (fun _ => ?_) fun _ => (Fails.failBack _ _).follows _ _
          have fewer : rest.length < second := Nat.lt_of_succ_lt (Nat.lt_of_succ_lt few)
          refine Follows.bind (readFlags_follows c fewer) ?_
          rintro _ found later kept ⟨rfl, isKept⟩ -
          cases found with
          | none => exact Follows.pure ⟨rfl, isKept.mono fun _ => rfl⟩
          | some change =>
              exact Follows.pure ⟨rfl, isKept.mono fun isNone => by cases isNone⟩
  · exact isKept (bind_agrees (openGroup_agrees none) fun number _ _ => Agrees.pure _)

end Reader
end Pattern
end KindExpr
