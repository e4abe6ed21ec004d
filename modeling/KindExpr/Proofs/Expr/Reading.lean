import KindExpr.Expr.Parse

/-!
# Reading without placeholders

What one character does to a scan is said once here, as a relation with one case
for each kind of character. Reading a whole text is the repetition of that step,
and a text that is parsed without placeholder values is read in exactly this way.
-/

namespace KindExpr

/-! ## Faults of placeholders -/

/-- Whether a fault is that of a placeholder: there is no value for it, or the value
cannot stand in its place. -/
def ParseFault.isOfPlaceholder : ParseFault → Bool
  | .nestedPlaceholder => true
  | .missingValue => true
  | .unsupportedValue _ => true
  | .unwritableValue => true
  | .emptyValue => true
  | _ => false

/-! ## Classes of characters -/

@[simp] theorem isAsciiLetter_placeholder : Text.isAsciiLetter '$' = false := by decide

@[simp] theorem isBlank_placeholder : Text.isBlank '$' = false := by decide

namespace Text

/-- No character from the digit zero to the small letter z is blank. -/
theorem isBlank_of_toNat_between {c : Code} (between : 48 ≤ c.toNat ∧ c.toNat ≤ 122) :
    isBlank c = false := by
  simp only [isBlank, blankRanges, inRanges_cons, inRanges_nil, Bool.or_eq_false_iff,
    Bool.and_eq_false_iff, decide_eq_false_iff_not, and_true]
  omega

/-- The letters by their code points. -/
theorem isAsciiLetter_iff {c : Code} :
    isAsciiLetter c = true ↔
      (97 ≤ c.toNat ∧ c.toNat ≤ 122) ∨ (65 ≤ c.toNat ∧ c.toNat ≤ 90) := by
  simp only [isAsciiLetter, Bool.or_eq_true, Bool.and_eq_true, decide_eq_true_eq,
    Code.le_def]
  rfl

/-- Letters are not blank. -/
theorem isBlank_of_isAsciiLetter {c : Code} (isLetter : isAsciiLetter c = true) :
    isBlank c = false := by
  rw [isAsciiLetter_iff] at isLetter
  apply isBlank_of_toNat_between
  omega

end Text

namespace Scan

/-- Characters of type names are not blank. -/
theorem isBlank_of_isNameChar {c : Code} (isName : isNameChar c = true) :
    Text.isBlank c = false := by
  apply Text.isBlank_of_toNat_between
  simp only [isNameChar, Text.isAsciiDigit, Bool.or_eq_true, Bool.and_eq_true,
    decide_eq_true_eq, Code.le_def, Code.toNat_char] at isName
  have lowerFirst : 'a'.toNat = 97 := rfl
  have lowerLast : 'z'.toNat = 122 := rfl
  have digitFirst : '0'.toNat = 48 := rfl
  have digitLast : '9'.toNat = 57 := rfl
  omega

/-- A character of a type name is none of those that are not. -/
theorem ne_of_isNameChar {c other : Code}
    (isName : isNameChar c = true)
    (notName : isNameChar other = false) : c ≠ other := by
  intro equal
  rw [equal, notName] at isName
  cases isName

/-! ## One character -/

/-- What a character outside of literals does to a scan that accepts it. -/
inductive PlainStep (scan : Scan) : Code → Scan → Prop
  | blank {c : Code} (isBlank : Text.isBlank c = true) : PlainStep scan c scan
  | openLiteral
      (noContent : scan.current.hasContent = false)
      (noMembers : scan.current.members = []) :
      PlainStep scan '/' { scan with mode := .body [] }
  | negate (noContent : scan.current.hasContent = false) :
      PlainStep scan '!' (scan.update fun node => { node with negated := !node.negated })
  | nameChar {c : Code}
      (isName : isNameChar c = true)
      (noLiteral : scan.current.literal = none)
      (noMembers : scan.current.members = []) :
      PlainStep scan c (scan.update fun node => { node with name := node.name.push c })
  | openMembers
      (content : scan.current.hasContent = true)
      (noMembers : scan.current.members = []) :
      PlainStep scan '<' ⟨.plain, .start, scan.list :: scan.outer⟩
  | closeMembers {parent : OpenList} {outer : List OpenList}
      (content : scan.current.hasContent = true)
      (nested : scan.outer = parent :: outer) :
      PlainStep scan '>'
        ⟨.plain, parent.update fun node =>
          { node with members := scan.list.alternatives }, outer⟩
  | nextAlternative (content : scan.current.hasContent = true) :
      PlainStep scan '|' { scan with list := scan.list.next }
  | declareKey
      (content : scan.current.hasContent = true)
      (nested : scan.outer ≠ [])
      (noKey : scan.current.key = none)
      (noMembers : scan.current.members = []) :
      PlainStep scan ':' (scan.update Scan.declareKey)

/-- A character that is accepted after a type name or a literal does what
its case of the relation says. -/
theorem plainStep_of_stepAfterContent {scan next : Scan} {c : Code}
    (content : scan.current.hasContent = true)
    (accepted : scan.stepAfterContent c = .ok next) : PlainStep scan c next := by
  simp only [stepAfterContent] at accepted
  split at accepted
  · by_cases noMembers : scan.current.members = []
    · simp only [noMembers, List.isEmpty_nil, Bool.not_true, Bool.false_eq_true,
        if_false] at accepted
      cases accepted
      exact .openMembers content noMembers
    · simp [noMembers] at accepted
  · cases around : scan.outer with
    | nil => simp [around] at accepted
    | cons parent outer =>
        simp only [around] at accepted
        cases accepted
        exact .closeMembers content around
  · cases accepted
    exact .nextAlternative content
  · by_cases nested : scan.outer = []
    · simp [nested] at accepted
    · by_cases noKey : scan.current.key = none
      · by_cases noMembers : scan.current.members = []
        · simp only [nested, noKey, noMembers, Alternative.hasKey, List.isEmpty_iff,
            List.isEmpty_nil, Option.isSome_none, Bool.not_true, Bool.false_eq_true,
            if_false] at accepted
          cases accepted
          exact .declareKey content nested noKey noMembers
        · simp [nested, noKey, noMembers, Alternative.hasKey] at accepted
      · have hasKey : scan.current.hasKey = true := by
          simpa [Alternative.hasKey, Option.isSome_iff_ne_none] using noKey
        simp [nested, hasKey] at accepted
  · cases accepted

/-- A character outside of literals that is accepted does what
its case of the relation says. -/
theorem plainStep_of_stepPlain {scan next : Scan} {c : Code}
    (accepted : scan.stepPlain c = .ok next) : PlainStep scan c next := by
  simp only [stepPlain] at accepted
  by_cases isBlank : Text.isBlank c = true
  · rw [if_pos isBlank] at accepted
    cases accepted
    exact .blank isBlank
  rw [if_neg isBlank] at accepted
  by_cases isDelimiter : c = '/'
  · rw [if_pos isDelimiter] at accepted
    subst isDelimiter
    by_cases clear : (scan.current.hasContent || !scan.current.members.isEmpty) = true
    · rw [if_pos clear] at accepted
      cases accepted
    · rw [if_neg clear] at accepted
      cases accepted
      exact .openLiteral (by simp_all) (by simp_all)
  rw [if_neg isDelimiter] at accepted
  by_cases isNegation : c = '!'
  · rw [if_pos isNegation] at accepted
    subst isNegation
    by_cases content : scan.current.hasContent = true
    · rw [if_pos content] at accepted
      cases accepted
    · rw [if_neg content] at accepted
      cases accepted
      exact .negate (by simpa using content)
  rw [if_neg isNegation] at accepted
  by_cases isName : isNameChar c = true
  · rw [if_pos isName] at accepted
    by_cases literal : scan.current.literal.isSome = true
    · rw [if_pos literal] at accepted
      cases accepted
    rw [if_neg literal] at accepted
    by_cases members : (!scan.current.members.isEmpty) = true
    · rw [if_pos members] at accepted
      cases accepted
    · rw [if_neg members] at accepted
      cases accepted
      exact .nameChar isName (by simpa using literal) (by simpa using members)
  rw [if_neg isName] at accepted
  by_cases content : scan.current.hasContent = true
  · rw [content] at accepted
    exact plainStep_of_stepAfterContent content accepted
  · simp [content] at accepted

/-- A scan accepts every character that a case of the relation describes. -/
theorem stepPlain_of_plainStep {scan next : Scan} {c : Code}
    (step : PlainStep scan c next) : scan.stepPlain c = .ok next := by
  cases step with
  | blank isBlank => simp [stepPlain, isBlank]
  | openLiteral noContent noMembers =>
      have notBlank : Text.isBlank '/' = false := by decide
      simp [stepPlain, notBlank, noContent, noMembers]
  | negate noContent =>
      have notBlank : Text.isBlank '!' = false := by decide
      simp [stepPlain, notBlank, noContent]
  | nameChar isName noLiteral noMembers =>
      have notBlank := isBlank_of_isNameChar isName
      have notDelimiter : c ≠ '/' := ne_of_isNameChar isName (by decide)
      have notNegation : c ≠ '!' := ne_of_isNameChar isName (by decide)
      simp [stepPlain, notBlank, notDelimiter, notNegation, isName, noLiteral, noMembers]
  | openMembers content noMembers =>
      have mark : Text.isBlank '<' = false ∧ isNameChar '<' = false := by decide
      simp [stepPlain, mark, content, stepAfterContent, noMembers]
  | closeMembers content nested =>
      have mark : Text.isBlank '>' = false ∧ isNameChar '>' = false := by decide
      simp [stepPlain, mark, content, stepAfterContent, nested]
  | nextAlternative content =>
      have mark : Text.isBlank '|' = false ∧ isNameChar '|' = false := by decide
      simp [stepPlain, mark, content, stepAfterContent]
  | declareKey content nested noKey noMembers =>
      have mark : Text.isBlank ':' = false ∧ isNameChar ':' = false := by decide
      simp [stepPlain, mark, content, stepAfterContent, nested, Alternative.hasKey, noKey,
        noMembers]

/-- No character fails with the fault of a placeholder. -/
theorem isOfPlaceholder_of_stepPlain {scan : Scan} {c : Code} {fault : ParseFault}
    (failed : scan.stepPlain c = .error fault) : fault.isOfPlaceholder = false := by
  simp only [stepPlain, stepAfterContent] at failed
  repeat' split at failed
  all_goals
    cases failed
    try rfl

/-- A placeholder is no character that is accepted outside of literals. -/
theorem not_plainStep_placeholder {scan next : Scan} : ¬ PlainStep scan '$' next := by
  intro step
  cases step with
  | blank isBlank => simp at isBlank
  | nameChar isName noLiteral noMembers => exact absurd isName (by decide)

/-! ## Modes of a scan -/

/-- Whether the scan is outside of the body of a literal. -/
def IsSettled (scan : Scan) : Prop :=
  scan.endFlags.mode = .plain

theorem endFlags_of_plain {scan : Scan} (plain : scan.mode = .plain) :
    scan.endFlags = scan := by
  simp [endFlags, plain]

theorem settle_of_plain {scan : Scan} (plain : scan.mode = .plain) (c : Code) :
    scan.settle c = scan := by
  simp [settle, endFlags_of_plain plain]

theorem step_of_plain {scan : Scan} (plain : scan.mode = .plain) (c : Code) :
    scan.step c = scan.stepPlain c := by
  simp [step, plain]

/-- Where the flags of a literal end, the next character is read
as if they had ended before. -/
theorem step_endFlags {scan : Scan} {c : Code}
    (settled : scan.IsSettled)
    (noLetter : Text.isAsciiLetter c = false) : scan.step c = scan.endFlags.step c := by
  rw [step_of_plain settled]
  cases mode : scan.mode with
  | plain => rw [step_of_plain mode, endFlags_of_plain mode]
  | body text => simp [IsSettled, endFlags, mode] at settled
  | escaped text => simp [IsSettled, endFlags, mode] at settled
  | flags text letters => simp [step, mode, noLetter]

/-- A scan that would hand over a placeholder does not accept it. -/
theorem exists_step_placeholder_eq_error {scan : Scan}
    (plain : (scan.settle '$').mode = .plain) :
    ∃ fault, scan.step '$' = .error fault := by
  have settled : scan.IsSettled := by
    simpa [settle, IsSettled] using plain
  rw [step_endFlags settled isAsciiLetter_placeholder, step_of_plain settled]
  cases result : scan.endFlags.stepPlain '$' with
  | error fault => exact ⟨fault, rfl⟩
  | ok next => exact absurd (plainStep_of_stepPlain result) not_plainStep_placeholder

/-- No character fails with the fault of a placeholder, in whatever mode. -/
theorem isOfPlaceholder_of_step {scan : Scan} {c : Code} {fault : ParseFault}
    (failed : scan.step c = .error fault) : fault.isOfPlaceholder = false := by
  simp only [step] at failed
  split at failed
  · exact isOfPlaceholder_of_stepPlain failed
  · split at failed
    · cases failed
    · split at failed <;> cases failed
  · cases failed
  · split at failed
    · cases failed
    · exact isOfPlaceholder_of_stepPlain failed

/-- No end of a text fails with the fault of a placeholder. -/
theorem isOfPlaceholder_of_finish {scan : Scan} {fault : ParseFault} {distance : Nat}
    (failed : scan.finish = .error (fault, distance)) :
    fault.isOfPlaceholder = false := by
  simp only [finish] at failed
  repeat' split at failed
  all_goals
    cases failed
    try rfl

/-- The fault at the end of a text is at the end, or at a backslash before it. -/
theorem distance_of_finish {scan : Scan} {fault : ParseFault} {distance : Nat}
    (failed : scan.finish = .error (fault, distance)) :
    distance = 0 ∨ distance = 1 ∧ ∃ text, scan.mode = .escaped text := by
  cases mode : scan.mode with
  | escaped text =>
      simp only [finish, mode, Except.error.injEq, Prod.mk.injEq] at failed
      exact .inr ⟨failed.2.symm, text, rfl⟩
  | body text =>
      simp only [finish, mode, Except.error.injEq, Prod.mk.injEq] at failed
      exact .inl failed.2.symm
  | _ =>
      simp only [finish, mode] at failed
      repeat' split at failed
      all_goals
        cases failed
        try exact .inl rfl

/-! ## Several characters -/

/-- Read the characters of a text. -/
def readText (scan : Scan) : List Code → Except ParseFault Scan
  | [] => .ok scan
  | c :: rest =>
      match scan.step c with
      | .ok next => next.readText rest
      | .error fault => .error fault

@[simp] theorem readText_nil (scan : Scan) : scan.readText [] = .ok scan := rfl

theorem readText_cons_of_step {scan next : Scan} {c : Code}
    (stepped : scan.step c = .ok next) (rest : List Code) :
    scan.readText (c :: rest) = next.readText rest := by
  simp [readText, stepped]

theorem readText_cons_eq_ok_iff {scan final : Scan} {c : Code} {rest : List Code} :
    scan.readText (c :: rest) = .ok final ↔
      ∃ next, scan.step c = .ok next ∧ next.readText rest = .ok final := by
  cases stepped : scan.step c with
  | ok next => simp [readText, stepped]
  | error fault => simp [readText, stepped]

/-- A text is read part by part. -/
theorem readText_append_eq_ok_iff {scan final : Scan} {first second : List Code} :
    scan.readText (first ++ second) = .ok final ↔
      ∃ middle, scan.readText first = .ok middle ∧
        middle.readText second = .ok final := by
  induction first generalizing scan with
  | nil => simp
  | cons c rest inductionHypothesis =>
      rw [List.cons_append, readText_cons_eq_ok_iff]
      constructor
      · rintro ⟨next, stepped, restRead⟩
        obtain ⟨middle, firstRead, secondRead⟩ := inductionHypothesis.mp restRead
        exact ⟨middle, readText_cons_eq_ok_iff.mpr ⟨next, stepped, firstRead⟩, secondRead⟩
      · rintro ⟨middle, firstRead, secondRead⟩
        obtain ⟨next, stepped, restRead⟩ := readText_cons_eq_ok_iff.mp firstRead
        exact ⟨next, stepped, inductionHypothesis.mpr ⟨middle, restRead, secondRead⟩⟩

end Scan

/-! ## Parsing -/

section

variable (onPlaceholder : List Code → Place → Scan → Except ParseError Parsed)

/-- A character that the scan accepts is no placeholder, and parsing goes on after it. -/
theorem scanText_cons_of_step {scan next : Scan} {c : Code}
    (stepped : scan.step c = .ok next) (rest : List Code) (place : Place) :
    scanText onPlaceholder (c :: rest) place scan =
      scanText onPlaceholder rest (place.advance c) next := by
  have noPlaceholder : ¬ (c = '$' ∧ (scan.settle c).mode = .plain) := by
    rintro ⟨rfl, plain⟩
    obtain ⟨fault, failed⟩ := Scan.exists_step_placeholder_eq_error plain
    rw [failed] at stepped
    cases stepped
  simp [scanText, noPlaceholder, stepped]

/-- Characters that the scan accepts are no placeholders, and
parsing goes on after them. -/
theorem scanText_append_of_readText {first : List Code} {place : Place} {scan next : Scan}
    (isRead : scan.readText first = .ok next) (rest : List Code) :
    scanText onPlaceholder (first ++ rest) place scan =
      scanText onPlaceholder rest
        ⟨first.reverse ++ place.seen, place.spliced - first.length⟩ next := by
  induction first generalizing place scan with
  | nil =>
      cases isRead
      rfl
  | cons c others inductionHypothesis =>
      obtain ⟨middle, stepped, othersRead⟩ := Scan.readText_cons_eq_ok_iff.mp isRead
      rw [List.cons_append, scanText_cons_of_step _ stepped,
        inductionHypothesis othersRead]
      simp [Place.advance, Nat.sub_sub, Nat.add_comm]

/-- Outside of literals a placeholder is handed over. -/
theorem scanText_cons_of_placeholder {scan : Scan}
    (plain : (scan.settle '$').mode = .plain) (rest : List Code) (place : Place) :
    scanText onPlaceholder (.char '$' :: rest) place scan =
      onPlaceholder rest place (scan.settle '$') := by
  simp [scanText, plain]

/-- A character that the scan does not accept ends parsing where it stands. -/
theorem scanText_cons_of_fault {scan : Scan} {c : Code} {fault : ParseFault}
    (noPlaceholder : ¬ (c = '$' ∧ (scan.settle c).mode = .plain))
    (failed : scan.step c = .error fault) (rest : List Code) (place : Place) :
    scanText onPlaceholder (c :: rest) place scan =
      .error (place.error (c :: rest) fault) := by
  simp [scanText, noPlaceholder, failed]

/-- Parsing fails at the end of a text as the scan does there. -/
theorem finish_eq_of_scanText_nil {scan : Scan} {place : Place} {error : ParseError}
    (failed : scanText onPlaceholder [] place scan = .error error) :
    ∃ distance, scan.finish = .error (error.fault, distance) ∧
      error.position = place.position - distance := by
  cases finished : scan.finish with
  | ok alternatives => simp [scanText, finished] at failed
  | error failure =>
      simp only [scanText, finished, Except.error.injEq] at failed
      subst failed
      exact ⟨failure.2, rfl, rfl⟩

end

/-- Without values a placeholder is at fault. -/
theorem scanValues_nil {place : Place} (unspliced : place.spliced = 0) (rest : List Code)
    (scan : Scan) :
    scanValues [] rest place scan =
      .error (place.error (.char '$' :: rest) .missingValue) := by
  simp [scanValues, unspliced]

/-- Without values a character that the scan does not accept ends parsing where it
stands, be it a placeholder or not. -/
theorem exists_scanText_cons_eq_error {scan : Scan} {c : Code} {fault : ParseFault}
    {place : Place}
    (unspliced : place.spliced = 0) (failed : scan.step c = .error fault)
    (rest : List Code) :
    ∃ own, scanText (scanValues []) (c :: rest) place scan =
      .error (place.error (c :: rest) own) := by
  by_cases handedOver : c = '$' ∧ (scan.settle c).mode = .plain
  · obtain ⟨rfl, plain⟩ := handedOver
    exact ⟨_, by rw [scanText_cons_of_placeholder _ plain, scanValues_nil unspliced]⟩
  · exact ⟨_, scanText_cons_of_fault _ handedOver failed rest place⟩

/-- Without placeholder values a text is parsed exactly when it is read to an end. -/
theorem scanText_without_values_eq_ok_iff {text : List Code} {place : Place} {scan : Scan}
    {parsed : Parsed} (unspliced : place.spliced = 0) :
    scanText (scanValues []) text place scan = .ok parsed ↔
      ∃ final, scan.readText text = .ok final ∧
        final.finish = .ok parsed.alternatives ∧ parsed.text = place.textWith text := by
  induction text generalizing place scan with
  | nil =>
      cases finished : scan.finish with
      | ok alternatives =>
          simp only [scanText, finished, Scan.readText_nil, Except.ok.injEq,
            exists_eq_left']
          constructor
          · rintro rfl
            exact ⟨rfl, rfl⟩
          · rintro ⟨rfl, textEqual⟩
            rw [← textEqual]
      | error failure => simp [scanText, finished]
  | cons c rest inductionHypothesis =>
      cases stepped : scan.step c with
      | ok next =>
          have unsplicedNext : (place.advance c).spliced =
              0 := by simp [Place.advance, unspliced]
          rw [scanText_cons_of_step _ stepped, inductionHypothesis unsplicedNext,
            Scan.readText_cons_of_step stepped]
          simp [Place.textWith, Place.advance]
      | error fault =>
          have unread : ∀ final, scan.readText (c :: rest) ≠ .ok final := by
            simp [Scan.readText, stepped]
          obtain ⟨own, fails⟩ := exists_scanText_cons_eq_error unspliced stepped rest
          simp [fails, unread]

/-- A fault of a placeholder arises where a placeholder is handed over. Up to there no
characters come from a placeholder value unless some did before. -/
theorem exists_handedOver_of_fault
    {onPlaceholder : List Code → Place → Scan → Except ParseError Parsed}
    {text : List Code} {place : Place} {scan : Scan} {error : ParseError}
    (failed : scanText onPlaceholder text place scan = .error error)
    (ofPlaceholder : error.fault.isOfPlaceholder = true) :
    ∃ rest later last, later.spliced ≤ place.spliced ∧
      onPlaceholder rest later last = .error error := by
  induction text generalizing place scan with
  | nil =>
      obtain ⟨distance, finished, -⟩ := finish_eq_of_scanText_nil _ failed
      have notOfPlaceholder := Scan.isOfPlaceholder_of_finish finished
      simp [notOfPlaceholder] at ofPlaceholder
  | cons c rest inductionHypothesis =>
      by_cases handedOver : c = '$' ∧ (scan.settle c).mode = .plain
      · obtain ⟨rfl, plain⟩ := handedOver
        rw [scanText_cons_of_placeholder _ plain] at failed
        exact ⟨rest, place, _, Nat.le_refl _, failed⟩
      · cases stepped : scan.step c with
        | ok next =>
            rw [scanText_cons_of_step _ stepped] at failed
            obtain ⟨after, later, last, isBelow, fails⟩ := inductionHypothesis failed
            exact ⟨after, later, last, Nat.le_trans isBelow (Nat.sub_le _ _), fails⟩
        | error fault =>
            rw [scanText_cons_of_fault _ handedOver stepped] at failed
            cases failed
            have notOfPlaceholder := Scan.isOfPlaceholder_of_step stepped
            simp [Place.error, notOfPlaceholder] at ofPlaceholder

/-- Without placeholder values the only fault of a placeholder
is that its value is missing. -/
theorem fault_of_scanText_without_values {text : List Code} {place : Place} {scan : Scan}
    {error : ParseError}
    (unspliced : place.spliced = 0)
    (failed : scanText (scanValues []) text place scan = .error error)
    (ofPlaceholder : error.fault.isOfPlaceholder = true) :
    error.fault = .missingValue := by
  obtain ⟨rest, later, last, isBelow, fails⟩ :=
    exists_handedOver_of_fault failed ofPlaceholder
  rw [scanValues_nil (Nat.le_zero.mp (unspliced ▸ isBelow))] at fails
  cases fails
  rfl

/-- Texts can stand for placeholders, whatever else is wrong with them. -/
theorem scanValues_fault_ne_unwritableValue {texts : List Text} {rest : List Code}
    {place : Place} {scan : Scan} {error : ParseError}
    (failed : scanValues (texts.map Value.text) rest place scan = .error error) :
    error.fault ≠ .unwritableValue := by
  intro isUnwritable
  induction texts generalizing rest place scan with
  | nil =>
      cases failed
      unfold Place.error at isUnwritable
      dsimp only at isUnwritable
      split at isUnwritable <;> cases isUnwritable
  | cons text others inductionHypothesis =>
      rw [List.map_cons, scanValues] at failed
      split at failed
      · cases failed
        cases isUnwritable
      · dsimp only [Value.replacement?] at failed
        split at failed
        · cases failed
          cases isUnwritable
        · obtain ⟨after, later, last, -, fails⟩ :=
            exists_handedOver_of_fault failed (isUnwritable ▸ rfl)
          exact inductionHypothesis fails

/-- Parsing with texts for the placeholders does not fail
because a value cannot be shown. -/
theorem parse_fault_ne_unwritableValue {expression : Text} {texts : List Text}
    {error : ParseError}
    (failed : parse expression (texts.map Value.text) = .error error) :
    error.fault ≠ .unwritableValue := by
  intro isUnwritable
  obtain ⟨rest, later, last, -, fails⟩ :=
    exists_handedOver_of_fault failed (isUnwritable ▸ rfl)
  exact scanValues_fault_ne_unwritableValue fails isUnwritable

/-- An error is not before the place where parsing was, except that a backslash at the end
of a text is at fault itself. -/
theorem position_le_of_scanText_error {text : List Code} {place : Place} {scan : Scan}
    {error : ParseError}
    (unspliced : place.spliced = 0)
    (failed : scanText (scanValues []) text place scan = .error error) :
    place.position ≤ error.position + 1 ∧
      ((∀ body, scan.mode ≠ .escaped body) → place.position ≤ error.position) := by
  induction text generalizing place scan with
  | nil =>
      obtain ⟨distance, finished, position⟩ := finish_eq_of_scanText_nil _ failed
      have near := Scan.distance_of_finish finished
      constructor
      · omega
      · intro notEscaped
        rcases near with rfl | ⟨rfl, body, mode⟩
        · omega
        · exact absurd mode (notEscaped body)
  | cons c rest inductionHypothesis =>
      cases stepped : scan.step c with
      | ok next =>
          rw [scanText_cons_of_step _ stepped] at failed
          have later :=
            (inductionHypothesis (by simp [Place.advance, unspliced]) failed).1
          have advanced : (place.advance c).position = place.position + 1 := rfl
          constructor
          · omega
          · intro _
            omega
      | error fault =>
          obtain ⟨own, fails⟩ := exists_scanText_cons_eq_error unspliced stepped rest
          rw [fails] at failed
          cases failed
          exact ⟨Nat.le_succ _, fun _ => Nat.le_refl _⟩

/-- A text is parsed without placeholder values exactly when it is read to an end, and
then it is its own text. -/
theorem parse_without_values_eq_ok_iff {expression : Text} {parsed : Parsed} :
    parse expression [] = .ok parsed ↔
      ∃ final, Scan.start.readText expression.toList = .ok final ∧
        final.finish = .ok parsed.alternatives ∧ parsed.text = expression := by
  rw [parse, scanText_without_values_eq_ok_iff rfl]
  simp [Place.textWith, Place.start]

end KindExpr
