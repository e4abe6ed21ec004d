import KindExpr.Proofs.Expr.Reading

/-!
# Symbols and their spelling

An expression is a sequence of symbols: single characters, and literals as
wholes. Blanks may stand around every symbol, but not inside a literal. `Spells`
relates a text to its symbols.

Reading a text character by character comes to the same as reading its symbols, so
that the grammar of expressions can be stated about symbols alone.
-/

namespace KindExpr

/-- A part of an expression that blanks may stand around. -/
inductive Symbol where
  | mark (c : Code)
  | literal (written : Literal)
  deriving Repr, DecidableEq

/-- The bodies of literals: pairs of a backslash and any character, and characters other
than slash and backslash. -/
inductive Literal.IsBody : List Code → Prop
  | nil : IsBody []
  | pair {rest : List Code} (c : Code) (isBody : IsBody rest) :
        IsBody (.char '\\' :: c :: rest)
  | plain {c : Code} {rest : List Code}
      (notEscape : c ≠ '\\')
      (notDelimiter : c ≠ '/')
      (isBody : IsBody rest) :
      IsBody (c :: rest)

/-- The texts that spell a sequence of symbols. The flags of a literal are all the
letters that follow it. -/
inductive Spells : List Code → List Symbol → Prop
  | nil : Spells [] []
  | blank {c : Code} {rest : List Code} {symbols : List Symbol}
      (isBlank : Text.isBlank c = true)
      (spells : Spells rest symbols) :
      Spells (c :: rest) symbols
  | mark {c : Code} {rest : List Code} {symbols : List Symbol}
      (notBlank : Text.isBlank c = false)
      (notDelimiter : c ≠ '/')
      (spells : Spells rest symbols) :
      Spells (c :: rest) (.mark c :: symbols)
  | literal {body flags rest : List Code} {symbols : List Symbol}
      (isBody : Literal.IsBody body)
      (letters : ∀ c ∈ flags, Text.isAsciiLetter c = true)
      (flagsEnd : ∀ c ∈ rest.head?, Text.isAsciiLetter c = false)
      (spells : Spells rest symbols) :
      Spells (.char '/' :: (body ++ .char '/' :: (flags ++ rest)))
        (.literal ⟨Text.ofList body, Text.ofList flags⟩ :: symbols)

namespace Scan

/-! ## Reading symbols -/

/-- Give the current alternative a literal. -/
def setLiteral (scan : Scan) (written : Literal) : Scan :=
  scan.update fun node => { node with literal := some written }

/-- Read a symbol. -/
def readSymbol (scan : Scan) : Symbol → Except ParseFault Scan
  | .mark c => scan.stepPlain c
  | .literal written =>
      if scan.current.hasContent || !scan.current.members.isEmpty then
        .error (.lateLiteral '/')
      else .ok (scan.setLiteral written)

theorem readSymbol_mark (scan : Scan) (c : Code) :
    scan.readSymbol (.mark c) = scan.stepPlain c := rfl

/-- Read several symbols. -/
def readSymbols (scan : Scan) : List Symbol → Except ParseFault Scan
  | [] => .ok scan
  | symbol :: rest =>
      match scan.readSymbol symbol with
      | .ok next => next.readSymbols rest
      | .error fault => .error fault

@[simp] theorem readSymbols_nil (scan : Scan) : scan.readSymbols [] = .ok scan := rfl

theorem readSymbols_cons_eq_ok_iff {scan final : Scan} {symbol : Symbol}
    {rest : List Symbol} :
    scan.readSymbols (symbol :: rest) = .ok final ↔
      ∃ next, scan.readSymbol symbol = .ok next ∧ next.readSymbols rest = .ok final := by
  cases isRead : scan.readSymbol symbol with
  | ok next => simp [readSymbols, isRead]
  | error fault => simp [readSymbols, isRead]

/-- Symbols are read part by part. -/
theorem readSymbols_append_eq_ok_iff {scan final : Scan} {first second : List Symbol} :
    scan.readSymbols (first ++ second) = .ok final ↔
      ∃ middle, scan.readSymbols first = .ok middle ∧
        middle.readSymbols second = .ok final := by
  induction first generalizing scan with
  | nil => simp
  | cons symbol rest inductionHypothesis =>
      rw [List.cons_append, readSymbols_cons_eq_ok_iff]
      constructor
      · rintro ⟨next, isRead, restRead⟩
        obtain ⟨middle, firstRead, secondRead⟩ := inductionHypothesis.mp restRead
        exact ⟨middle, readSymbols_cons_eq_ok_iff.mpr
          ⟨next, isRead, firstRead⟩, secondRead⟩
      · rintro ⟨middle, firstRead, secondRead⟩
        obtain ⟨next, isRead, restRead⟩ := readSymbols_cons_eq_ok_iff.mp firstRead
        exact ⟨next, isRead, inductionHypothesis.mpr ⟨middle, restRead, secondRead⟩⟩

/-- A literal is accepted where nothing else was written. -/
theorem readSymbol_literal_eq_ok_iff {scan next : Scan} {written : Literal} :
    scan.readSymbol (.literal written) = .ok next ↔
      scan.current.hasContent = false ∧ scan.current.members = [] ∧
        next = scan.setLiteral written := by
  by_cases clear : scan.current.hasContent = false ∧ scan.current.members = []
  · simp [readSymbol, clear, eq_comm]
  · simp only [readSymbol]
    split
    · simp only [reduceCtorEq, false_iff]
      rintro ⟨noContent, noMembers, -⟩
      exact clear ⟨noContent, noMembers⟩
    · simp_all

/-! ## Characters of literals -/

/-- What can be the body of a literal is read as part of a body. -/
theorem readText_inBody {body : List Code} (isBody : Literal.IsBody body)
    (scan : Scan) (text rest : List Code) :
    { scan with mode := .body text }.readText (body ++ rest) =
      { scan with mode := .body (body.reverse ++ text) }.readText rest := by
  induction isBody generalizing text with
  | nil => rfl
  | pair c isBody inductionHypothesis =>
      have afterPair := inductionHypothesis (c :: .char '\\' :: text)
      simp only [List.cons_append, readText, step, if_true, List.reverse_cons,
        List.append_assoc]
      simpa using afterPair
  | @plain c rest notEscape notDelimiter isBody inductionHypothesis =>
      have afterCharacter := inductionHypothesis (c :: text)
      simp only [List.cons_append, readText, step, notEscape, notDelimiter, if_false,
        List.reverse_cons, List.append_assoc]
      simpa using afterCharacter

/-- The body of a literal is read up to the slash after it. -/
theorem readText_body {body : List Code} (isBody : Literal.IsBody body)
    (scan : Scan) (text rest : List Code) :
    { scan with mode := .body text }.readText (body ++ Code.char '/' :: rest) =
      { scan with mode := .flags (body.reverse ++ text) [] }.readText rest := by
  rw [readText_inBody isBody]
  simp [readText, step]

/-- The flags of a literal are read up to the last letter. -/
theorem readText_flags {flags : List Code}
    (letters : ∀ c ∈ flags, Text.isAsciiLetter c = true)
    (scan : Scan) (text earlier rest : List Code) :
    { scan with mode := .flags text earlier }.readText (flags ++ rest) =
      { scan with mode := .flags text (flags.reverse ++ earlier) }.readText rest := by
  induction flags generalizing earlier with
  | nil => rfl
  | cons c others inductionHypothesis =>
      have isLetter := letters c (by simp)
      have otherLetters : ∀ d ∈ others, Text.isAsciiLetter d = true := by
        intro d present
        exact letters d (by simp [present])
      have afterLetter := inductionHypothesis otherLetters (c :: earlier)
      simp only [List.cons_append, readText, step, isLetter, if_true, List.reverse_cons,
        List.append_assoc]
      simpa using afterLetter

/-- What is read after a slash is a body that ends with a slash. -/
theorem exists_body_of_readText {scan final : Scan} (settled : final.IsSettled) :
    ∀ (rest text : List Code),
      { scan with mode := .body text }.readText rest = .ok final →
      ∃ body after, rest = body ++ .char '/' :: after ∧ Literal.IsBody body ∧
        { scan with mode := .flags (body.reverse ++ text) [] }.readText after = .ok final
  | [], text, isRead => by
      cases isRead
      simp [IsSettled, endFlags] at settled
  | [c], text, isRead => by
      by_cases isEscape : c = '\\'
      · simp only [readText, step, isEscape, if_true] at isRead
        cases isRead
        simp [IsSettled, endFlags] at settled
      · by_cases isDelimiter : c = '/'
        · subst isDelimiter
          exact ⟨[], [], rfl, .nil, by simpa [readText, step] using isRead⟩
        · simp only [readText, step, isEscape, isDelimiter, if_false] at isRead
          cases isRead
          simp [IsSettled, endFlags] at settled
  | c :: d :: others, text, isRead => by
      by_cases isEscape : c = '\\'
      · subst isEscape
        have pairRead :
            { scan with mode := .body (d :: .char '\\' :: text) }.readText others =
              .ok final := by
          simpa [readText, step] using isRead
        obtain ⟨body, after, othersEqual, isBody, afterRead⟩ :=
          exists_body_of_readText settled others _ pairRead
        refine ⟨.char '\\' :: d :: body, after, ?_, .pair d isBody, ?_⟩
        · rw [othersEqual, List.cons_append, List.cons_append]
        · simpa using afterRead
      · by_cases isDelimiter : c = '/'
        · subst isDelimiter
          exact ⟨[], d :: others, rfl, .nil, by simpa [readText, step] using isRead⟩
        · have characterRead :
              { scan with mode := .body (c :: text) }.readText (d :: others) =
                .ok final := by
            rw [← isRead]
            simp [readText, step, isEscape, isDelimiter]
          obtain ⟨body, after, othersEqual, isBody, afterRead⟩ :=
            exists_body_of_readText settled (d :: others) _ characterRead
          refine ⟨c :: body, after, ?_, .plain isEscape isDelimiter isBody, ?_⟩
          · rw [othersEqual, List.cons_append]
          · simpa using afterRead

/-- The flags of a literal are the letters at the beginning of what is read. -/
theorem exists_flags_of_readText {scan final : Scan} {text : List Code}
    {rest : List Code} {earlier : List Code}
    (isRead : { scan with mode := .flags text earlier }.readText rest = .ok final) :
    ∃ flags after, rest = flags ++ after ∧ (∀ c ∈ flags, Text.isAsciiLetter c = true) ∧
      (∀ c ∈ after.head?, Text.isAsciiLetter c = false) ∧
      { scan with mode := .flags text (flags.reverse ++ earlier) }.readText after =
        .ok final := by
  induction rest generalizing earlier with
  | nil => exact ⟨[], [], rfl, by simp, by simp, isRead⟩
  | cons c others inductionHypothesis =>
      by_cases isLetter : Text.isAsciiLetter c = true
      · have letterRead :
            { scan with mode := .flags text (c :: earlier) }.readText others =
              .ok final := by
          simpa [readText, step, isLetter] using isRead
        obtain ⟨flags, after, othersEqual, letters, flagsEnd, afterRead⟩ :=
          inductionHypothesis letterRead
        refine ⟨c :: flags, after, ?_, ?_, flagsEnd, ?_⟩
        · rw [othersEqual, List.cons_append]
        · simpa [isLetter] using letters
        · simpa using afterRead
      · exact ⟨[], c :: others,
          rfl, by simp, by simpa using isLetter, by simpa using isRead⟩

/-- A scan that has read a literal, its flags included. -/
def afterLiteral (scan : Scan) (body flags : List Code) : Scan :=
  { scan with mode := .flags body.reverse flags.reverse }

theorem isSettled_afterLiteral (scan : Scan) (body flags : List Code) :
    (scan.afterLiteral body flags).IsSettled := rfl

theorem endFlags_afterLiteral {scan : Scan} (plain : scan.mode = .plain)
    (body flags : List Code) :
    (scan.afterLiteral body flags).endFlags =
      scan.setLiteral ⟨Text.ofList body, Text.ofList flags⟩ := by
  simp [afterLiteral, endFlags, setLiteral, literalOf, update, plain]

/-- Between a literal and what follows it the flags end. -/
theorem readText_endFlags {scan : Scan} {rest : List Code}
    (settled : scan.IsSettled)
    (notEmpty : rest ≠ [])
    (flagsEnd : ∀ c ∈ rest.head?, Text.isAsciiLetter c = false) :
    scan.readText rest = scan.endFlags.readText rest := by
  cases rest with
  | nil => exact absurd rfl notEmpty
  | cons c others =>
      have noLetter : Text.isAsciiLetter c = false := flagsEnd c (by simp)
      simp only [readText, step_endFlags settled noLetter]

/-! ## Texts and their symbols -/

/-- The mode of a scan stays plain when symbols other than slashes are read. -/
theorem mode_of_plainStep {scan next : Scan} {c : Code}
    (plain : scan.mode = .plain)
    (notDelimiter : c ≠ '/')
    (step : PlainStep scan c next) : next.mode = .plain := by
  cases step with
  | openLiteral noContent noMembers => exact absurd rfl notDelimiter
  | openMembers content noMembers => rfl
  | closeMembers content nested => rfl
  | _ => exact plain

/-- A text is read like the symbols it spells. -/
theorem exists_readText_of_spells {text : List Code} {symbols : List Symbol}
    (spells : Spells text symbols) {scan final : Scan}
    (plain : scan.mode = .plain)
    (isRead : scan.readSymbols symbols = .ok final) :
    ∃ last, scan.readText text = .ok last ∧ last.IsSettled ∧ last.endFlags = final := by
  induction spells generalizing scan with
  | nil =>
      cases isRead
      have unchanged := endFlags_of_plain plain
      exact ⟨final, rfl, by rw [IsSettled, unchanged, plain], unchanged⟩
  | @blank c rest symbols isBlank spells inductionHypothesis =>
      obtain ⟨last, restRead, settled, ended⟩ := inductionHypothesis plain isRead
      have stepped : scan.stepPlain c = .ok scan :=
        stepPlain_of_plainStep (.blank isBlank)
      rw [← step_of_plain plain] at stepped
      exact ⟨last, by rw [readText_cons_of_step stepped, restRead], settled, ended⟩
  | mark notBlank notDelimiter spells inductionHypothesis =>
      obtain ⟨next, stepped, restRead⟩ := readSymbols_cons_eq_ok_iff.mp isRead
      have nextPlain :=
        mode_of_plainStep plain notDelimiter (plainStep_of_stepPlain stepped)
      obtain ⟨last, textRead, settled, ended⟩ := inductionHypothesis nextPlain restRead
      rw [readSymbol, ← step_of_plain plain] at stepped
      exact ⟨last, by rw [readText_cons_of_step stepped, textRead], settled, ended⟩
  | @literal body flags rest symbols isBody letters flagsEnd spells inductionHypothesis =>
      obtain ⟨next, literalRead, restRead⟩ := readSymbols_cons_eq_ok_iff.mp isRead
      obtain ⟨noContent, noMembers, rfl⟩ := readSymbol_literal_eq_ok_iff.mp literalRead
      have opened := stepPlain_of_plainStep (.openLiteral noContent noMembers)
      rw [← step_of_plain plain] at opened
      have literalText : scan.readText
          (.char '/' :: (body ++ .char '/' :: (flags ++ rest))) =
          (scan.afterLiteral body flags).readText rest := by
        rw [readText_cons_of_step opened, readText_body isBody, readText_flags letters]
        simp [afterLiteral]
      rw [literalText]
      have ended := endFlags_afterLiteral plain body flags
      by_cases atEnd : rest = []
      · subst atEnd
        cases spells
        cases restRead
        exact ⟨_, rfl, isSettled_afterLiteral scan body flags, ended⟩
      · rw [readText_endFlags (isSettled_afterLiteral scan body flags) atEnd flagsEnd,
          ended]
        exact inductionHypothesis plain restRead

/-- A text that is read to its end spells symbols that are read alike. -/
theorem exists_spells_of_readText {scan last : Scan} {text : List Code}
    (plain : scan.mode = .plain)
    (settled : last.IsSettled)
    (isRead : scan.readText text = .ok last) :
    ∃ symbols, Spells text symbols ∧ scan.readSymbols symbols = .ok last.endFlags := by
  match text with
  | [] =>
      cases isRead
      exact ⟨[], .nil, by rw [endFlags_of_plain plain, readSymbols_nil]⟩
  | c :: rest =>
      obtain ⟨next, stepped, restRead⟩ := readText_cons_eq_ok_iff.mp isRead
      rw [step_of_plain plain] at stepped
      have step := plainStep_of_stepPlain stepped
      by_cases isDelimiter : c = '/'
      · subst isDelimiter
        cases step with
        | blank isBlank => exact absurd isBlank (by decide)
        | nameChar isName noLiteral noMembers => exact absurd isName (by decide)
        | openLiteral noContent noMembers =>
            obtain ⟨body, afterBody, restEqual, isBody, bodyRead⟩ :=
              exists_body_of_readText settled rest [] restRead
            obtain ⟨flags, after, afterBodyEqual, letters, flagsEnd, flagsRead⟩ :=
              exists_flags_of_readText bodyRead
            have literalRead : (scan.afterLiteral body flags).readText after =
                .ok last := by
              simpa [afterLiteral] using flagsRead
            have ended := endFlags_afterLiteral plain body flags
            have afterShorter : after.length < rest.length := by
              simp only [restEqual, afterBodyEqual, List.length_append, List.length_cons]
              omega
            have afterSpelled : ∃ symbols, Spells after symbols ∧
                (scan.afterLiteral body flags).endFlags.readSymbols symbols =
                  .ok last.endFlags := by
              by_cases atEnd : after = []
              · subst atEnd
                cases literalRead
                exact ⟨[], .nil, rfl⟩
              · rw [readText_endFlags (isSettled_afterLiteral scan body flags)
                  atEnd flagsEnd]
                  at literalRead
                exact exists_spells_of_readText
                  (isSettled_afterLiteral scan body flags) settled
                  literalRead
            obtain ⟨symbols, spells, symbolsRead⟩ := afterSpelled
            rw [ended] at symbolsRead
            subst afterBodyEqual
            subst restEqual
            refine ⟨_, .literal isBody letters flagsEnd spells, ?_⟩
            rw [readSymbols_cons_eq_ok_iff]
            exact ⟨_, readSymbol_literal_eq_ok_iff.mpr ⟨noContent, noMembers, rfl⟩,
              symbolsRead⟩
      · have nextPlain := mode_of_plainStep plain isDelimiter step
        obtain ⟨symbols, spells, symbolsRead⟩ :=
          exists_spells_of_readText nextPlain settled restRead
        by_cases isBlank : Text.isBlank c = true
        · have unchanged : scan.stepPlain c = .ok scan :=
            stepPlain_of_plainStep (.blank isBlank)
          rw [stepped] at unchanged
          cases unchanged
          exact ⟨symbols, .blank isBlank spells, symbolsRead⟩
        · refine ⟨.mark c :: symbols,
            .mark (by simpa using isBlank) isDelimiter spells, ?_⟩
          rw [readSymbols_cons_eq_ok_iff]
          exact ⟨next, stepped, symbolsRead⟩
termination_by text.length

/-- What ends a text that is read to its end. -/
theorem isSettled_of_finish {scan : Scan} {alternatives : List Alternative}
    (finished : scan.finish = .ok alternatives) : scan.IsSettled := by
  cases mode : scan.mode with
  | plain => simp [IsSettled, endFlags, mode]
  | flags text letters => simp [IsSettled, endFlags, mode]
  | body text => simp [finish, mode] at finished
  | escaped text => simp [finish, mode] at finished

/-- At the end of a text it makes no difference whether flags have ended. -/
theorem finish_endFlags {scan : Scan} (settled : scan.IsSettled) :
    scan.endFlags.finish = scan.finish := by
  cases mode : scan.mode with
  | plain => rw [endFlags_of_plain mode]
  | flags text letters => simp [finish, endFlags, mode]
  | body text => simp [IsSettled, endFlags, mode] at settled
  | escaped text => simp [IsSettled, endFlags, mode] at settled

/-- A text gives the alternatives that its symbols give. -/
theorem readText_finish_iff {text : List Code} {alternatives : List Alternative} :
    (∃ last, start.readText text = .ok last ∧ last.finish = .ok alternatives) ↔
      ∃ symbols final, Spells text symbols ∧ start.readSymbols symbols = .ok final ∧
        final.finish = .ok alternatives := by
  constructor
  · rintro ⟨last, isRead, finished⟩
    have settled := isSettled_of_finish finished
    obtain ⟨symbols, spells, symbolsRead⟩ := exists_spells_of_readText rfl settled isRead
    exact ⟨symbols, last.endFlags, spells,
      symbolsRead, by rw [finish_endFlags settled, finished]⟩
  · rintro ⟨symbols, final, spells, symbolsRead, finished⟩
    obtain ⟨last, isRead, settled, rfl⟩ :=
      exists_readText_of_spells spells rfl symbolsRead
    exact ⟨last, isRead, by rw [← finish_endFlags settled, finished]⟩

end Scan
end KindExpr
