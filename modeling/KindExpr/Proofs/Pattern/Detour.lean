import KindExpr.Proofs.Cache.Transparency
import KindExpr.Proofs.Check.Denotation
import KindExpr.Proofs.Expr.Placement
import KindExpr.Proofs.Pattern.Body
import KindExpr.Session.Basic

/-!
# The detour of a pattern through expression text

A pattern that is a type argument, or that replaces a placeholder, becomes the text of a
literal, which is read and compiled again. The pattern survives this detour: the literal
is read as one alternative wherever a literal may stand, it compiles to a pattern that
matches as the first one does, and the literal of that pattern is the same again.
-/

namespace KindExpr

/-! ## The literal of a pattern -/

section Literals

variable {source : Text} {letters : List Code} {given : Pattern.Flags} {pattern : Pattern}

/-- A compiled pattern is compiled again from its text with the slashes escaped and with
the flags in force that can be written. Its text does not end with a lone backslash. -/
theorem Pattern.compile_escapeDelimiters (isGiven : given.written = given)
    (isCompiled : Pattern.compile source given = .ok pattern) :
    .plain '\\' ∉ Pattern.tokensOf pattern.source.toList ∧
      Pattern.compile (Literal.ofPattern pattern).body pattern.flags.written =
        .ok { pattern with source := (Literal.ofPattern pattern).body } := by
  unfold Pattern.compile at isCompiled
  split at isCompiled
  · rename_i reading isRead
    cases isCompiled
    obtain ⟨notLone, isReadToo⟩ := Pattern.read_escapeDelimiters isGiven isRead
    refine ⟨notLone, ?_⟩
    unfold Pattern.compile
    rw [Literal.ofPattern, Text.toList_ofList, isReadToo]
  · cases isCompiled

namespace Literal

/-- The literal of a pattern is read as itself. -/
theorem isWritten_ofPattern (isGiven : readFlags letters = .ok given)
    (isCompiled : Pattern.compile source given = .ok pattern) :
    (ofPattern pattern).IsWritten := by
  have notLone :=
    (Pattern.compile_escapeDelimiters (written_of_readFlags isGiven) isCompiled).1
  constructor
  · rw [ofPattern, Text.toList_ofList]
    exact isBody_escapeDelimiters notLone
  · intro c isThere
    rw [ofPattern, Text.toList_ofList] at isThere
    exact isAsciiLetter_of_mem_lettersOf isThere

/-- The literal of a pattern compiles to the pattern, with the
slashes escaped in its text. -/
theorem compile_ofPattern (isGiven : readFlags letters = .ok given)
    (isCompiled : Pattern.compile source given = .ok pattern) :
    (ofPattern pattern).compile =
      .ok { pattern with source := (ofPattern pattern).body } := by
  have compiledAgain :=
    (Pattern.compile_escapeDelimiters (written_of_readFlags isGiven) isCompiled).2
  have flagsRead : readFlags (ofPattern pattern).flags.toList =
      .ok pattern.flags.written := by
    rw [ofPattern, Text.toList_ofList, readFlags_lettersOf]
  unfold compile
  rw [flagsRead]
  simp only [compiledAgain]

/-- A pattern whose slashes are escaped has the same literal. -/
theorem ofPattern_escaped (isGiven : readFlags letters = .ok given)
    (isCompiled : Pattern.compile source given = .ok pattern) :
    ofPattern { pattern with source := (ofPattern pattern).body } =
      ofPattern pattern := by
  have isBody := (isWritten_ofPattern isGiven isCompiled).isBody
  rw [ofPattern, escapeDelimiters_of_isBody isBody, Text.ofList_toList, ofPattern]

end Literal
end Literals

/-! ## A literal as an expression -/

/-- A literal as an expression tests the format of a value. -/
theorem Check.ofExpression_source {written : Literal} {pattern : Pattern}
    (isWritten : written.IsWritten) (compiled : written.compile = .ok pattern)
    (aliases : AliasTable) (values : List Value) :
    Check.ofExpression aliases written.source values = .ok (.format written pattern) := by
  rw [ofExpression, parse_source isWritten]
  refine Outcome.bind_eq_ok_iff.mpr ⟨_, rfl, ?_⟩
  have own : compileAlternative aliases
      { Alternative.blank with literal := some written } =
      .ok (.format written pattern) := by
    simp only [compileAlternative, Alternative.blank, compileOwn, compiled]
    rfl
  simp only [compileGroup, compileEach, own]
  rfl

/-- A value passes the test of a format if it is a text in which the pattern is found. -/
theorem Check.testFormat_eq_none_iff {written : Literal} {pattern : Pattern}
    {value : Value}
    {name : Text} :
    testFormat Value.tag written pattern value name = .ok none ↔
      value.kind = .string ∧ ∃ text, value.text? = some text ∧
        pattern.search text = .ok true := by
  have notPassed : ∀ reason, reject value name reason ≠ .ok none := by
    intro reason
    rw [reject]
    split
    · intro equal
      cases equal
    · intro equal
      cases equal
  unfold testFormat
  split
  · rename_i isString
    have isStringKind := Value.tag_eq_iff.mp isString
    obtain ⟨text, isText⟩ := Value.exists_text_of_kind isStringKind
    rw [isText]
    cases searched : pattern.search text with
    | ok isFound =>
        cases isFound with
        | true => simp [isStringKind, searched]
        | false => simp [notPassed, searched]
    | error fault => simp [searched]
  · rename_i notString
    refine ⟨fun passed => absurd passed (notPassed _), fun admits => ?_⟩
    exact absurd (Value.tag_eq_iff.mpr admits.1) notString

/-- A check accepts a value if its run finds no rejection. -/
theorem Check.isNone_apply_iff {check : Check} {value : Value} {name : Text} :
    ((check.apply value name).mapError Error.run).map Option.isNone = .ok true ↔
      check.run Value.tag value name = .ok none := by
  rw [apply]
  cases check.run Value.tag value name with
  | error fault => simp [Except.map]
  | ok found => simp [Except.map]

/-! ## A pattern as a type argument -/

namespace Session

/-- Whatever was looked up before, a value has the type of a pattern if it is a
text in which the pattern is found. Where a placeholder value has to be shown and
cannot be, there is an error. -/
theorem isType_pattern {source : Text} {letters : List Code} {given : Pattern.Flags}
    {pattern : Pattern} (isGiven : Literal.readFlags letters = .ok given)
    (isCompiled : Pattern.compile source given = .ok pattern) {session : Session}
    {aliases : AliasTable} (isFaithful : session.cache.IsFaithful aliases) (value : Value)
    (placeholders : List Value) :
    (placeholders.all Value.isKeyPart = true →
      ((session.isType value (.pattern pattern) placeholders).1 = .ok true ↔
        value.kind = .string ∧
          ∃ text, value.text? = some text ∧ pattern.search text = .ok true)) ∧
      (placeholders.all Value.isKeyPart = false →
        (session.isType value (.pattern pattern) placeholders).1 =
          .error .unwritable) := by
  have isWritten := Literal.isWritten_ofPattern isGiven isCompiled
  have compiledAgain := Literal.compile_ofPattern isGiven isCompiled
  have isLookedUp :=
    (isFaithful.getText (Literal.ofPattern pattern).source placeholders).1
  simp only [isType, check, TypeSpec.ofValue, evaluate, evaluateExpression]
  generalize session.cache.getText
    (Literal.ofPattern pattern).source placeholders = result at *
  obtain ⟨found, cache⟩ := result
  constructor
  · intro areParts
    rw [if_pos areParts, Check.ofExpression_source isWritten compiledAgain] at isLookedUp
    obtain ⟨compiled, rfl, isFormat⟩ := Outcome.map_eq_ok_iff.mp isLookedUp
    simp only [isFormat]
    rw [Check.isNone_apply_iff, Check.run]
    exact Check.testFormat_eq_none_iff
  · intro notParts
    rw [notParts] at isLookedUp
    cases found with
    | ok compiled => cases isLookedUp
    | error error =>
        cases isLookedUp
        rfl

/-- A value that is left over is not read, but it is shown in the key. -/
theorem isType_pattern_of_unwritable :
    ∃ pattern, Pattern.compile "a" .none = .ok pattern ∧ pattern.search "a" = .ok true ∧
      (start.isType (.text "a") (.pattern pattern)
        [.fraction ⟨Int.ofNat (Nat.pow 10 5000), 1⟩]).1 ≠ .ok true := by
  have searched : (Pattern.compile "a" .none).map (fun pattern => pattern.search "a") =
      .ok (.ok true) := by
    decide +kernel
  obtain ⟨pattern, isCompiled, isFound⟩ := Outcome.map_eq_ok_iff.mp searched
  refine ⟨pattern, isCompiled, isFound, ?_⟩
  have isGiven : Literal.readFlags [] = .ok .none := rfl
  have isFaithful : start.cache.IsFaithful .standard :=
    .empty .standard (some Settings.defaultCacheSize.toNat)
  have failed := (isType_pattern isGiven isCompiled isFaithful (.text "a")
    [.fraction ⟨Int.ofNat (Nat.pow 10 5000), 1⟩]).2 (by decide +kernel)
  rw [failed]
  intro equal
  cases equal

end Session

/-! ## The detour -/

/-- A pattern that was compiled with flags that have letters survives the detour
through expression text. As a type argument it accepts the texts in which it is found,
whatever was looked up before, unless a placeholder value has to be shown and cannot
be. In the place of a placeholder that no letter follows it becomes its literal, in
any surrounding in which a literal may stand there. And its literal compiles to a
pattern with the same literal. -/
theorem Literal.ofPattern_stands_for_pattern {source : Text} {letters : List Code}
    {given : Pattern.Flags} {pattern : Pattern} (isGiven : readFlags letters = .ok given)
    (isCompiled : Pattern.compile source given = .ok pattern) :
    (∀ (session : Session) (capacity : Option Nat) (steps : List CacheStep)
        (value : Value) (placeholders : List Value),
      session.cache = (CheckCache.empty .standard capacity).afterRun steps →
      (placeholders.all Value.isKeyPart = true →
        ((session.isType value (.pattern pattern) placeholders).1 = .ok true ↔
          value.kind = .string ∧
            ∃ text, value.text? = some text ∧ pattern.search text = .ok true)) ∧
        (placeholders.all Value.isKeyPart = false →
          (session.isType value (.pattern pattern) placeholders).1 =
            .error .unwritable)) ∧
    (∀ (expression : Text) (values others : List Value) (before after : List Code)
        (value : Value) (written : Literal) (parsed : Parsed),
      parse expression values =
          .error ⟨.missingValue, before.length,
            Text.ofList (before ++ .char '$' :: after)⟩ →
        (∀ c ∈ after.head?, Text.isAsciiLetter c = false) →
          written.IsWritten → value.replacement? = some written.source →
            parse expression (values ++ value :: others) = .ok parsed →
      ∃ (surrounding : Surrounding) (remainder : List Code),
        parsed = ⟨surrounding.fill written,
          Text.ofList (before ++ written.source.toList ++ remainder)⟩ ∧
        parse expression (values ++ .pattern pattern :: others) =
          .ok ⟨surrounding.fill (ofPattern pattern),
            Text.ofList (before ++ (ofPattern pattern).source.toList ++ remainder)⟩) ∧
    ∃ compiled, (ofPattern pattern).compile = .ok compiled ∧
      ofPattern compiled = ofPattern pattern := by
  refine ⟨?_, ?_, ?_⟩
  · intro session capacity steps value placeholders isReached
    have isFaithful : session.cache.IsFaithful .standard := by
      rw [isReached]
      exact .ofRun .standard capacity steps
    exact Session.isType_pattern isGiven isCompiled isFaithful value placeholders
  · intro expression values others before after value written parsed missing
      flagsEnd isWritten
      replaced isParsed
    obtain ⟨surrounding, remainder, fills⟩ :=
      exists_surrounding missing flagsEnd isWritten replaced isParsed
    have asWritten := fills written value isWritten replaced
    rw [isParsed, Except.ok.injEq] at asWritten
    exact ⟨surrounding, remainder, asWritten,
      fills (ofPattern pattern) (.pattern pattern)
        (isWritten_ofPattern isGiven isCompiled) rfl⟩
  · exact ⟨_, compile_ofPattern isGiven isCompiled, ofPattern_escaped isGiven isCompiled⟩

/-- A pattern that sets verbose mode for itself, with a slash in it. -/
theorem Literal.ofPattern_stands_for_pattern_verbose :
    ∃ pattern, readFlags [.char 'i'] =
      .ok { Pattern.Flags.none with ignoreCase := true } ∧
      Pattern.compile "(?x)a /b$" { Pattern.Flags.none with ignoreCase := true } =
        .ok pattern ∧
      (Session.start.isType (.text "A/b") (.pattern pattern) []).1 = .ok true ∧
      (∃ (surrounding : Surrounding) (remainder : List Code),
        parse "arr<$|num>" [.pattern pattern] =
        .ok ⟨surrounding.fill (ofPattern pattern),
          Text.ofList (Text.toList "arr<" ++ (ofPattern pattern).source.toList ++
            remainder)⟩) ∧
      ∃ compiled, (ofPattern pattern).compile = .ok compiled ∧
        ofPattern compiled = ofPattern pattern := by
  have searched :
      (Pattern.compile "(?x)a /b$" { Pattern.Flags.none with ignoreCase := true }).map
      (fun pattern => pattern.search "A/b") = .ok (.ok true) := by
    decide +kernel
  obtain ⟨pattern, isCompiled, isFound⟩ := Outcome.map_eq_ok_iff.mp searched
  have stands := ofPattern_stands_for_pattern
    (rfl : readFlags [.char 'i'] =
      .ok { Pattern.Flags.none with ignoreCase := true }) isCompiled
  refine ⟨pattern, rfl, isCompiled, ?_, ?_, stands.2.2⟩
  · exact ((stands.1 Session.start (some Settings.defaultCacheSize.toNat) []
      (.text "A/b") []
      rfl).1 rfl).mpr ⟨rfl, "A/b", rfl, isFound⟩
  · have endsAtBar : ∀ c ∈ (Text.toList "|num>").head?, Text.isAsciiLetter c = false := by
      rintro c isFirst
      obtain rfl : Code.char '|' = c := Option.some.inj isFirst
      decide
    have isWritten : (⟨"b", ""⟩ : Literal).IsWritten :=
      ⟨.plain (by decide) (by decide) .nil, by simp⟩
    obtain ⟨surrounding, remainder, -, isParsed⟩ :=
      stands.2.1 "arr<$|num>" [] [] (Text.toList "arr<") (Text.toList "|num>")
        (.text "/b/") ⟨"b", ""⟩ _ rfl
        endsAtBar isWritten rfl rfl
    exact ⟨surrounding, remainder, isParsed⟩

end KindExpr
