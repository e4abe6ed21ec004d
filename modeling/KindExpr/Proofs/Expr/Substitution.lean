import KindExpr.Proofs.Expr.Reading
import KindExpr.Proofs.Outcome

/-!
# Placeholders as substitution

When placeholders are replaced while an expression is parsed, the outcome carries the
text with the replacements in it. Parsing that text without values gives the same
outcome, where a fault of a placeholder becomes the fault that its value is missing.

There is one exception. A placeholder ends the flags of a literal that it follows, so a
letter that replaces it is no flag and parsing fails there, while in the text with the
replacement the letter is a flag. The main result says that this is the only one.
-/

namespace KindExpr

/-! ## Outcomes and their texts -/

/-- The text of an outcome, with the placeholders replaced that were reached. -/
def outcomeText : Except ParseError Parsed → Text
  | .ok parsed => parsed.text
  | .error error => error.text

/-- The same error where there are no values for placeholders. -/
def ParseError.withoutValues (error : ParseError) : ParseError :=
  { error with
    fault := if error.fault.isOfPlaceholder then .missingValue else error.fault }

/-- Whether an error is at a letter that directly follows a literal. -/
def ParseError.FollowsLiteral (error : ParseError) : Prop :=
  ∃ seen c rest scan text letters,
    error.text = Text.ofList (seen ++ c :: rest) ∧ error.position = seen.length ∧
      Text.isAsciiLetter c = true ∧ Scan.start.readText seen = .ok scan ∧
      scan.mode = .flags text letters

/-- Whether an outcome is the error of a letter that directly follows a literal. -/
def FailsAfterLiteral (outcome : Except ParseError Parsed) : Prop :=
  ∃ error, outcome = .error error ∧ error.FollowsLiteral

/-- Whether parsing an expression with some values comes to the same as parsing the text
in which the values replace the placeholders. -/
def IsSubstitution (expression : Text) (placeholders : List Value) : Prop :=
  parse (outcomeText (parse expression placeholders)) [] =
    (parse expression placeholders).mapError ParseError.withoutValues

/-! ## Characters after a literal -/

namespace Scan

/-- After a literal no letter is accepted once its flags have ended. -/
theorem step_endFlags_letter {scan next : Scan} {text letters : List Code} {c : Code}
    (mode : scan.mode = .flags text letters)
    (isLetter : Text.isAsciiLetter c = true) : scan.endFlags.step c ≠ .ok next := by
  intro accepted
  have settled : scan.IsSettled := by simp [IsSettled, endFlags, mode]
  have hasLiteral : scan.endFlags.current.literal = some (literalOf text letters) := by
    simp [endFlags, mode, current, update, OpenList.update]
  rw [step_of_plain settled] at accepted
  cases plainStep_of_stepPlain accepted with
  | blank isBlank =>
      rw [Text.isBlank_of_isAsciiLetter isLetter] at isBlank
      cases isBlank
  | nameChar isName noLiteral noMembers =>
      rw [hasLiteral] at noLiteral
      cases noLiteral
  | _ => exact absurd isLetter (by decide)

/-- A character that is accepted after the flags of a literal have ended is accepted
before they have ended, and does the same. -/
theorem step_of_step_endFlags {scan next : Scan} {c : Code}
    (settled : scan.IsSettled)
    (accepted : scan.endFlags.step c = .ok next) : scan.step c = .ok next := by
  by_cases isLetter : Text.isAsciiLetter c = true
  · cases mode : scan.mode with
    | plain => rwa [endFlags_of_plain mode] at accepted
    | body text => simp [IsSettled, endFlags, mode] at settled
    | escaped text => simp [IsSettled, endFlags, mode] at settled
    | flags text letters => exact absurd accepted (step_endFlags_letter mode isLetter)
  · rw [step_endFlags settled (by simpa using isLetter), accepted]

/-- A character at fault after the flags of a literal have ended is at fault before they
have ended, unless it is a letter. -/
theorem step_error_of_step_endFlags {scan : Scan} {c : Code} {fault : ParseFault}
    (settled : scan.IsSettled)
    (failed : scan.endFlags.step c = .error fault) :
    scan.step c = .error fault ∨
      Text.isAsciiLetter c = true ∧ ∃ text letters, scan.mode = .flags text letters := by
  by_cases isLetter : Text.isAsciiLetter c = true
  · cases mode : scan.mode with
    | plain =>
        rw [endFlags_of_plain mode] at failed
        exact .inl failed
    | body text => simp [IsSettled, endFlags, mode] at settled
    | escaped text => simp [IsSettled, endFlags, mode] at settled
    | flags text letters => exact .inr ⟨isLetter, text, letters, rfl⟩
  · rw [step_endFlags settled (by simpa using isLetter)]
    exact .inl failed

/-- Before a placeholder the flags of a literal end. -/
theorem settle_placeholder (scan : Scan) : scan.settle '$' = scan.endFlags := by
  simp [settle]

end Scan

/-! ## Replaying an outcome -/

/-- Whether an outcome comes about again when what its text holds after a place is parsed
from there without values. -/
def Replays (outcome : Except ParseError Parsed) (seen : List Code)
    (scan : Scan) : Prop :=
  ∃ remainder, outcomeText outcome = Text.ofList (seen.reverse ++ remainder) ∧
    scanText (scanValues []) remainder ⟨seen, 0⟩ scan =
      outcome.mapError ParseError.withoutValues

namespace Replays

variable {outcome : Except ParseError Parsed} {place : Place}
  {scan next : Scan} {c : Code}

/-- An outcome that is replayed after a character is replayed before it. -/
theorem cons (replays : Replays outcome (c :: place.seen) next)
    (stepped : scan.step c = .ok next) : Replays outcome place.seen scan := by
  obtain ⟨remainder, textEqual, replayed⟩ := replays
  refine ⟨c :: remainder, by simpa using textEqual, ?_⟩
  rw [scanText_cons_of_step _ stepped]
  exact replayed

/-- The end of a text is replayed. -/
theorem nil (onPlaceholder : List Code → Place → Scan → Except ParseError Parsed) :
    Replays (scanText onPlaceholder [] place scan) place.seen scan := by
  cases finished : scan.finish with
  | ok alternatives =>
      refine ⟨[], by simp [scanText, finished, outcomeText, Place.textWith], ?_⟩
      simp [scanText, finished, Place.textWith]
  | error failure =>
      have notOfPlaceholder := Scan.isOfPlaceholder_of_finish finished
      refine ⟨[], by simp [scanText, finished, outcomeText, Place.textWith], ?_⟩
      simp [scanText, finished, ParseError.withoutValues, notOfPlaceholder,
        Place.textWith, Place.position]

/-- A character at fault is replayed. -/
theorem fault {fault : ParseFault}
    (noPlaceholder : ¬ (c = '$' ∧ (scan.settle c).mode = .plain))
    (failed : scan.step c = .error fault) (rest : List Code) :
    Replays (.error (place.error (c :: rest) fault)) place.seen scan := by
  have notOfPlaceholder := Scan.isOfPlaceholder_of_step failed
  refine ⟨c :: rest, rfl, ?_⟩
  rw [scanText_cons_of_fault _ noPlaceholder failed]
  simp [ParseError.withoutValues, Place.error, notOfPlaceholder, Place.position,
    Place.textWith]

/-- A placeholder at fault is replayed as one without a value. -/
theorem placeholder {fault : ParseFault}
    (plain : (scan.settle '$').mode = .plain)
    (ofPlaceholder : fault.isOfPlaceholder = true) (rest : List Code) :
    Replays (.error (place.error (.char '$' :: rest) fault)) place.seen scan := by
  refine ⟨.char '$' :: rest, rfl, ?_⟩
  rw [scanText_cons_of_placeholder _ plain, scanValues_nil rfl]
  simp [ParseError.withoutValues, Place.error, ofPlaceholder, Place.position,
    Place.textWith]

end Replays

/-- Whether what is done at placeholders is replayed from before the placeholder. -/
def HandsOverReplayed
    (onPlaceholder : List Code → Place → Scan → Except ParseError Parsed) : Prop :=
  ∀ rest place scan, Scan.start.readText place.seen.reverse = .ok scan →
    (scan.settle '$').mode = .plain →
    ¬ FailsAfterLiteral (onPlaceholder rest place (scan.settle '$')) →
    Replays (onPlaceholder rest place (scan.settle '$')) place.seen scan

/-- One more character is read. -/
theorem readText_advance {place : Place} {scan next : Scan} {c : Code}
    (isRead : Scan.start.readText place.seen.reverse = .ok scan)
    (stepped : scan.step c = .ok next) :
    Scan.start.readText (place.advance c).seen.reverse = .ok next := by
  rw [Place.advance, List.reverse_cons, Scan.readText_append_eq_ok_iff]
  exact ⟨scan, isRead, by rw [Scan.readText_cons_of_step stepped, Scan.readText_nil]⟩

/-- Parsing a text is replayed if what is done at its placeholders is. -/
theorem scanText_replays
    {onPlaceholder : List Code → Place → Scan → Except ParseError Parsed}
    (handsOver : HandsOverReplayed onPlaceholder)
    {text : List Code} {place : Place} {scan : Scan}
    (isRead : Scan.start.readText place.seen.reverse = .ok scan)
    (notAfterLiteral : ¬ FailsAfterLiteral (scanText onPlaceholder text place scan)) :
    Replays (scanText onPlaceholder text place scan) place.seen scan := by
  induction text generalizing place scan with
  | nil => exact .nil onPlaceholder
  | cons c rest inductionHypothesis =>
      by_cases handedOver : c = '$' ∧ (scan.settle c).mode = .plain
      · obtain ⟨rfl, plain⟩ := handedOver
        rw [scanText_cons_of_placeholder _ plain] at notAfterLiteral ⊢
        exact handsOver rest place scan isRead plain notAfterLiteral
      · cases stepped : scan.step c with
        | ok next =>
            rw [scanText_cons_of_step _ stepped] at notAfterLiteral ⊢
            have replays :=
              inductionHypothesis (readText_advance isRead stepped) notAfterLiteral
            exact replays.cons stepped
        | error fault =>
            rw [scanText_cons_of_fault _ handedOver stepped]
            exact .fault handedOver stepped rest

/-- In what replaces a placeholder there is none. -/
theorem scanValues_spliced (values : List Value) {place : Place}
    (spliced : place.spliced > 0)
    (rest : List Code) (scan : Scan) :
    scanValues values rest place scan =
      .error (place.error (.char '$' :: rest) .nestedPlaceholder) := by
  cases values with
  | nil => simp [scanValues, spliced]
  | cons value values => simp [scanValues, spliced]

/-- A replacement is replayed from before its placeholder. -/
theorem scanText_replacement_replays {values : List Value}
    (handsOver : HandsOverReplayed (scanValues values))
    {first : Code} {others : List Code} {place : Place} {scan : Scan}
    (spliced : place.spliced > 0)
    (isRead : Scan.start.readText place.seen.reverse = .ok scan)
    (settled : scan.IsSettled)
    (notAfterLiteral :
      ¬ FailsAfterLiteral
        (scanText (scanValues values) (first :: others) place scan.endFlags)) :
    Replays (scanText (scanValues values) (first :: others) place scan.endFlags)
      place.seen scan := by
  by_cases nested : first = '$' ∧ (scan.endFlags.settle first).mode = .plain
  · obtain ⟨rfl, plain⟩ := nested
    rw [scanText_cons_of_placeholder _ plain, scanValues_spliced _ spliced]
    exact .placeholder (by rwa [Scan.settle_placeholder]) rfl others
  · cases stepped : scan.endFlags.step first with
    | ok next =>
        have accepted := Scan.step_of_step_endFlags settled stepped
        rw [scanText_cons_of_step _ stepped] at notAfterLiteral ⊢
        have replays :=
          scanText_replays handsOver (readText_advance isRead accepted) notAfterLiteral
        exact replays.cons accepted
    | error fault =>
        rw [scanText_cons_of_fault _ nested stepped] at notAfterLiteral ⊢
        rcases Scan.step_error_of_step_endFlags settled stepped with
          failed | ⟨isLetter, text, letters, mode⟩
        · refine .fault ?_ failed others
          rintro ⟨rfl, plain⟩
          rw [Scan.settle_of_plain settled] at nested
          exact nested ⟨rfl, settled⟩
        · refine absurd ⟨_, rfl, ?_⟩ notAfterLiteral
          refine ⟨place.seen.reverse, first, others, scan, text, letters, rfl,
            ?_, isLetter,
            isRead, mode⟩
          simp [Place.error, Place.position]

/-- Going on with some values is replayed from before the placeholder. -/
theorem handsOverReplayed_scanValues (values : List Value) :
    HandsOverReplayed (scanValues values) := by
  induction values with
  | nil =>
      intro rest place scan isRead plain notAfterLiteral
      refine .placeholder plain ?_ rest
      split <;> rfl
  | cons value values inductionHypothesis =>
      intro rest place scan isRead plain notAfterLiteral
      by_cases spliced : place.spliced > 0
      · rw [scanValues_spliced _ spliced]
        exact .placeholder plain rfl rest
      · cases replaced : value.replacement? with
        | none =>
            simp only [scanValues, spliced, if_false, replaced]
            refine .placeholder plain ?_ rest
            cases value.display? <;> rfl
        | some replacement =>
            by_cases isEmpty : replacement.isEmpty = true
            · simp only [scanValues, spliced, if_false, replaced, isEmpty, if_true]
              exact .placeholder plain rfl rest
            · cases characters : replacement.toList with
              | nil =>
                  simp [Text.isEmpty, characters] at isEmpty
              | cons first others =>
                  have positive : replacement.length > 0 := by
                    rw [← Text.length_toList, characters]
                    simp
                  rw [Scan.settle_placeholder] at plain notAfterLiteral ⊢
                  simp only [scanValues, spliced, if_false, replaced, isEmpty, characters,
                    List.cons_append] at notAfterLiteral ⊢
                  exact scanText_replacement_replays inductionHypothesis positive
                    isRead plain
                    notAfterLiteral

/-! ## Substitution -/

/-- Without values no text fails at a letter that directly follows a literal. -/
theorem ParseError.FollowsLiteral.position_ne {error second : ParseError}
    (follows : error.FollowsLiteral)
    (failed : parse error.text [] = .error second) :
    second.position ≠ error.position := by
  obtain ⟨seen, c, rest, scan, text, letters, textEqual, position, isLetter,
      isRead, mode⟩ :=
    follows
  have stepped : scan.step c = .ok { scan with mode := .flags text (c :: letters) } := by
    simp [Scan.step, mode, isLetter]
  rw [parse, textEqual, Text.toList_ofList, scanText_append_of_readText _ isRead,
    scanText_cons_of_step _ stepped] at failed
  have unspliced : (Place.start.spliced - seen.length) - 1 = 0 := by simp [Place.start]
  have later := (position_le_of_scanText_error unspliced failed).2 (by simp)
  simp only [Place.advance, Place.position, Place.start, List.append_nil,
    List.length_cons, List.length_reverse] at later
  omega

/-- Parsing with values is parsing the text in which they replace the placeholders, except
where a letter that replaces a placeholder directly follows a literal. -/
theorem isSubstitution_iff (expression : Text) (placeholders : List Value) :
    IsSubstitution expression placeholders ↔
      ¬ FailsAfterLiteral (parse expression placeholders) := by
  constructor
  · rintro isSubstitution ⟨error, failed, follows⟩
    rw [IsSubstitution, failed] at isSubstitution
    exact follows.position_ne isSubstitution rfl
  · intro notAfterLiteral
    have isRead : Scan.start.readText Place.start.seen.reverse = .ok .start := rfl
    obtain ⟨remainder, textEqual, replayed⟩ :=
      scanText_replays (handsOverReplayed_scanValues placeholders) isRead notAfterLiteral
    have remainderEqual :
        (outcomeText (parse expression placeholders)).toList = remainder := by
      rw [parse, textEqual, Text.toList_ofList]
      rfl
    rw [IsSubstitution, parse, remainderEqual]
    exact replayed

/-- In `/a/$` the letter that replaces the placeholder is at
fault, in `/a/i` it is a flag. -/
theorem not_isSubstitution_letter_after_literal :
    ¬ IsSubstitution "/a/$" [.text "i"] := by
  intro isSubstitution
  have failed : parse "/a/$" [.text "i"] = .error ⟨.nameAfterLiteral 'i', 3, "/a/i"⟩ :=
    rfl
  have accepted : (parse "/a/i" []).isOk = true := rfl
  rw [IsSubstitution, failed] at isSubstitution
  simp only [outcomeText] at isSubstitution
  rw [isSubstitution] at accepted
  cases accepted

end KindExpr
