import KindExpr.Proofs.Pattern.Following

/-!
# Escapes and character sets side by side

A slash stands for itself, with a backslash before it or without one, in a character set
and outside of it. Everything else that a backslash starts is read from the same tokens.
-/

namespace KindExpr
namespace Pattern
namespace Reader

variable {extra : Flags} {tokens : List Token} {flags : Flags}

open Follows (bind_get bind_peek bind_take bind_advance bind_accept bind_agrees
  bind_lift bind_goTo)

/-! ## Characters of a class -/

/-- A character other than the slash is taken alike. -/
theorem accept_agrees {c : Code} (notDelimiter : c ≠ '/') :
    Agrees extra tokens flags (accept c) (accept c) := by
  rw [← bind_pure (accept c)]
  refine bind_accept notDelimiter (fun rest isThere => ?_) (Agrees.pure false)
  exact Agrees.pure true

/-- Characters of a class without the slash are taken alike, if there is the same bound
on them or none that matters. -/
theorem takeWhile_agrees {accepts : Code → Bool} (notDelimiter : accepts '/' = false)
    {bound second : Nat}
    (enough : bound = second ∨ tokens.length < bound ∧ tokens.length < second) :
    Agrees extra tokens flags (takeWhile accepts bound) (takeWhile accepts second) := by
  induction bound generalizing tokens second with
  | zero =>
      obtain rfl | ⟨few, -⟩ := enough
      · exact Agrees.pure []
      · nomatch few
  | succ bound inductionHypothesis =>
      obtain ⟨second, rfl⟩ : ∃ less, second = less + 1 := ⟨second - 1, by omega⟩
      rw [takeWhile, takeWhile]
      refine bind_peek ?_
      cases tokens with
      | nil => exact Agrees.pure []
      | cons token rest =>
          cases token with
          | escaped c => exact Agrees.pure []
          | plain c =>
              by_cases isDelimiter : c = '/'
              · subst isDelimiter
                simp only [List.head?_cons, notDelimiter]
                exact Agrees.pure []
              · simp only [List.map_cons, List.head?_cons, Token.inBody_plain isDelimiter]
                refine .ite (fun _ => ?_) fun _ => Agrees.pure []
                refine bind_advance
                  (bind_agrees (inductionHypothesis ?_) fun found later _ => ?_)
                · simp only [List.length_cons, List.tail_cons] at enough ⊢
                  omega
                · exact Agrees.pure _

/-- A fixed number of characters of a class without the slash is taken alike. -/
theorem takeWhile_agrees_same {accepts : Code → Bool} (notDelimiter : accepts '/' = false)
    (bound : Nat) :
    Agrees extra tokens flags (takeWhile accepts bound) (takeWhile accepts bound) :=
  takeWhile_agrees notDelimiter (.inl rfl)

/-- Names are taken that spell each other. -/
theorem takeName_follows {terminator : Code} (notDelimiter : terminator ≠ '/')
    (what : Text) :
    Follows extra tokens flags (takeName terminator what) (takeName terminator what)
      fun name nameToo _ kept => Cursor.IsSpelled name nameToo ∧ kept = flags := by
  rw [takeName]
  refine bind_get fun state other beside => bind_lift fun result collected => ?_
  obtain ⟨name, found, cursor⟩ := result
  obtain ⟨nameToo, last, later, collectedToo, spelled, besideLater, reaches⟩ :=
    beside.cursors.upTo notDelimiter collected
  refine ⟨(nameToo, found, last), collectedToo, bind_goTo besideLater reaches ?_⟩
  have sameEmpty : nameToo.isEmpty = name.isEmpty := by
    rw [Bool.eq_iff_iff, List.isEmpty_iff, List.isEmpty_iff, spelled.eq_nil_iff]
  rw [sameEmpty]
  refine .ite (fun _ => ?_) fun _ => ?_
  · refine .ite (fun _ => ((Fails.failBack _ _).bind_left _).follows _ _) fun _ => ?_
    exact Follows.pure ⟨spelled, rfl⟩
  · refine .ite (fun _ => ((Fails.failBack _ _).bind_left _).follows _ _) fun _ => ?_
    exact (Fails.failBack _ _).follows _ _

/-! ## Escapes -/

/-- A code point with a fixed number of hexadecimal digits is read alike. -/
theorem readHexCode_agrees (letter : Code) (size : Nat) :
    Agrees extra tokens flags (readHexCode letter size) (readHexCode letter size) := by
  rw [readHexCode]
  refine bind_agrees (takeWhile_agrees_same (by decide) size) fun digits later _ => ?_
  refine .ite (fun _ => ((Fails.failBack _ _).bind_left _).follows _ _) fun _ => ?_
  refine .ite (fun _ => ((Fails.failBack _ _).bind_left _).follows _ _) fun _ => ?_
  exact Agrees.pure _

/-- There is no slash in the name of a character. -/
theorem no_delimiter_of_codeOfName {name : List Code} {code : Nat}
    (isNamed : Text.codeOfName? (Text.ofList name) = some code) : .char '/' ∉ name := by
  obtain ⟨characters, areCharacters, isNaming⟩ := Option.bind_eq_some_iff.mp isNamed
  cases Text.string?_eq_some_iff.mp areCharacters
  intro hasDelimiter
  obtain ⟨delimiter, isThere, isDelimiter⟩ := List.mem_map.mp hasDelimiter
  cases isDelimiter
  have notNaming : ¬ characters.toList.all Text.isNaming = true := by
    rw [List.all_eq_true]
    intro areNaming
    exact absurd (areNaming '/' isThere) (by decide)
  simp only [Text.codeOfNaming?, if_neg notNaming] at isNaming
  cases isNaming

/-- A code point with a name is read alike. -/
theorem readNamedCode_agrees :
    Agrees extra tokens flags readNamedCode readNamedCode := by
  rw [readNamedCode]
  refine bind_accept (by decide) (fun rest _ => ?_)
    (((Fails.failBack _ _).bind_left _).follows _ _)
  refine Follows.bind (takeName_follows (by decide) _) ?_
  rintro name nameToo later _ ⟨spelled, rfl⟩ -
  cases isNamed : Text.codeOfName? (Text.ofList name) with
  | none => exact (Fails.failBack _ _).follows _ _
  | some code =>
      rw [spelled.eq_of_no_delimiter (no_delimiter_of_codeOfName isNamed), isNamed]
      exact Agrees.pure code

/-- The value of an octal escape is checked alike. -/
theorem octalCode_agrees (digits : List Code) :
    Agrees extra tokens flags (octalCode digits) (octalCode digits) := by
  rw [octalCode]
  refine .ite (fun _ => ((Fails.failBack _ _).bind_left _).follows _ _) fun _ => ?_
  exact Agrees.pure _

/-- An escape that stands for a code point by a number or a name is read alike. -/
theorem readNumberedCode?_agrees (letter : Code) :
    Agrees extra tokens flags (readNumberedCode? letter) (readNumberedCode? letter) := by
  have forCode : ∀ reader : Reader Nat, Agrees extra tokens flags reader reader →
      Agrees extra tokens flags (do return some (← reader)) (do return some (← reader)) :=
    fun reader agrees => bind_agrees agrees fun code _ _ => Agrees.pure (some code)
  rw [readNumberedCode?]
  refine bind_get fun state other beside => ?_
  rw [beside.forText, beside.otherForText]
  refine .ite (fun _ => forCode _ (readHexCode_agrees letter 2)) fun _ => ?_
  refine .ite (fun _ => forCode _ (readHexCode_agrees letter 4)) fun _ => ?_
  refine .ite (fun _ => forCode _ (readHexCode_agrees letter 8)) fun _ => ?_
  exact .ite (fun _ => forCode _ readNamedCode_agrees) fun _ => Agrees.pure none

/-- What has no meaning of its own is escaped alike. -/
theorem literalCode_agrees (letter : Code) :
    Agrees extra tokens flags (literalCode letter) (literalCode letter) := by
  rw [literalCode]
  refine .ite (fun _ => ((Fails.failBack _ _).bind_left _).follows _ _) fun _ => ?_
  exact Agrees.pure _

/-- The set item that an escape stands for is read alike. -/
theorem readSetEscape_agrees (letter : Code) :
    Agrees extra tokens flags (readSetEscape letter) (readSetEscape letter) := by
  rw [readSetEscape]
  cases controlCode? letter with
  | some code => exact Agrees.pure _
  | none =>
      cases category? letter with
      | some item => exact Agrees.pure _
      | none =>
          refine bind_agrees (readNumberedCode?_agrees letter) fun code later _ => ?_
          cases code with
          | some code => exact Agrees.pure _
          | none =>
              refine .ite (fun _ => ?_) fun _ => ?_
              · refine bind_agrees (takeWhile_agrees_same (by decide) 2)
                  fun digits _ _ => ?_
                exact bind_agrees (octalCode_agrees _) fun code _ _ => Agrees.pure _
              · exact bind_agrees (literalCode_agrees letter) fun code _ _ =>
                  Agrees.pure _

/-- The number of the next group is the same. -/
theorem groupCount_agrees : Agrees extra tokens flags groupCount groupCount := by
  rw [groupCount]
  refine bind_get fun state other beside => ?_
  rw [beside.groups_eq]
  exact Agrees.pure _

/-- The width of a closed group is the same. -/
theorem closedWidth?_agrees (number : Nat) :
    Agrees extra tokens flags (closedWidth? number) (closedWidth? number) := by
  rw [closedWidth?]
  refine bind_get fun state other beside => ?_
  rw [beside.groups_eq]
  exact Agrees.pure _

/-- Groups are checked alike inside a look-behind. -/
theorem checkLookBehind_agrees (number : Nat) :
    Agrees extra tokens flags (checkLookBehind number) (checkLookBehind number) := by
  rw [checkLookBehind]
  refine bind_get fun state other beside => ?_
  rw [beside.lookBehind_eq]
  cases state.lookBehind with
  | none => exact Agrees.pure ()
  | some first =>
      refine bind_agrees (closedWidth?_agrees number) fun width later _ => ?_
      refine .ite (fun _ => ((Fails.failBack _ _).bind_left _).follows _ _) fun _ => ?_
      exact .ite (fun _ => (Fails.failBack _ _).follows _ _) fun _ => Agrees.pure ()

/-- A reference to a numbered group is read alike. -/
theorem readReference_agrees (number size : Nat) :
    Agrees extra tokens flags (readReference number size)
      (readReference number size) := by
  rw [readReference]
  refine bind_agrees groupCount_agrees fun count later _ => ?_
  refine .ite (fun _ => ?_) fun _ => (Fails.failBack _ _).follows _ _
  refine bind_agrees (closedWidth?_agrees number) fun width further _ => ?_
  cases width with
  | none => exact (Fails.failBack _ _).follows _ _
  | some width =>
      exact bind_agrees (checkLookBehind_agrees number) fun _ _ _ => Agrees.pure _

/-- An escape with a digit other than zero is read alike. -/
theorem readDigitEscape_agrees (first : Code) :
    Agrees extra tokens flags (readDigitEscape first) (readDigitEscape first) := by
  rw [readDigitEscape]
  refine bind_agrees (takeWhile_agrees_same (by decide) 1) fun digits later _ => ?_
  split
  · refine .ite (fun _ => ?_) fun _ => readReference_agrees _ _
    refine bind_agrees (takeWhile_agrees_same (by decide) 1) fun digits further _ => ?_
    split
    · exact bind_agrees (octalCode_agrees _) fun code _ _ => Agrees.pure _
    · exact readReference_agrees _ _
  · exact readReference_agrees _ _

/-- What an escape stands for outside of a character set is read alike. -/
theorem readEscape_agrees (letter : Code) :
    Agrees extra tokens flags (readEscape letter) (readEscape letter) := by
  rw [readEscape]
  cases anchor? letter with
  | some anchor => exact Agrees.pure _
  | none =>
      cases category? letter with
      | some item => exact Agrees.pure _
      | none =>
          cases controlCode? letter with
          | some code => exact Agrees.pure _
          | none =>
              refine bind_agrees (readNumberedCode?_agrees letter) fun code later _ => ?_
              cases code with
              | some code => exact Agrees.pure _
              | none =>
                  refine .ite (fun _ => ?_) fun _ => .ite (fun _ => ?_) fun _ => ?_
                  · exact bind_agrees (takeWhile_agrees_same (by decide) 2)
                      fun digits _ _ =>
                      Agrees.pure _
                  · exact readDigitEscape_agrees letter
                  · exact bind_agrees (literalCode_agrees letter) fun code _ _ =>
                      Agrees.pure _

end Reader
end Pattern
end KindExpr
