import KindExpr.Proofs.Expr.Substitution
import KindExpr.Proofs.Expr.Surrounding

/-!
# A literal in the place of a placeholder

A value whose replacement is a literal stands for exactly this literal. Where
one literal can replace a placeholder every other one can, and all of them are
put into the same surrounding.

That a placeholder value is missing tells where the next one goes: parsing with more
values is going on at this placeholder with the values that come further.
-/

namespace KindExpr

/-- Whether a literal is written so that it is read as itself. -/
structure Literal.IsWritten (written : Literal) : Prop where
  isBody : IsBody written.body.toList
  letters : ∀ c ∈ written.flags.toList, Text.isAsciiLetter c = true

theorem Literal.toList_source (written : Literal) :
    written.source.toList = .char '/' ::
      (written.body.toList ++ .char '/' :: written.flags.toList) := by
  simp [source]

/-! ## Going on after a gap -/

/-- An outcome of going on from a place, with a literal in its surrounding. -/
def Surrounding.parsed (surrounding : Surrounding) (written : Literal)
    (seen remainder : List Code) : Parsed :=
  ⟨surrounding.fill written, Text.ofList (seen.reverse ++ remainder)⟩

/-- Whether going on gives the same surrounding whatever fills the gap of a scan. -/
def FillsAlike (goOn : List Code → Place → Scan → Except ParseError Parsed) : Prop :=
  ∀ (rest : List Code) (place : Place) (gap : Scan.Gap) (written : Literal)
      (parsed : Parsed),
    gap.IsProper → goOn rest place (gap.fill written) = .ok parsed →
    ∃ (surrounding : Surrounding) (remainder : List Code),
      parsed = surrounding.parsed written place.seen remainder ∧
        ∀ (other : Literal) (second : Place), second.spliced = place.spliced →
          goOn rest second (gap.fill other) =
            .ok (surrounding.parsed other second.seen remainder)

/-- Reading a text fills a gap alike if going on at its placeholders does. -/
theorem fillsAlike_scanText
    {onPlaceholder : List Code → Place → Scan → Except ParseError Parsed}
    (handsOver : FillsAlike onPlaceholder) : FillsAlike (scanText onPlaceholder) := by
  intro text
  induction text with
  | nil =>
      intro place gap written parsed proper isParsed
      cases finished : (gap.fill written).finish with
      | error failure => simp [scanText, finished] at isParsed
      | ok alternatives =>
          obtain ⟨surrounding, equal, finishes⟩ := gap.exists_finish proper finished
          refine ⟨surrounding, [], ?_, fun other second sameSpliced => ?_⟩
          · simpa [scanText, finished, equal, eq_comm, Place.textWith, Surrounding.parsed]
              using isParsed
          · simp [scanText, finishes, Place.textWith, Surrounding.parsed]
  | cons c rest inductionHypothesis =>
      intro place gap written parsed proper isParsed
      by_cases handedOver : c = '$' ∧ ((gap.fill written).settle c).mode = .plain
      · obtain ⟨rfl, plain⟩ := handedOver
        obtain ⟨ended, endedProper, ends⟩ := gap.exists_endFlags proper
        have settles : ∀ other, (gap.fill other).settle '$' = ended.fill other := by
          intro other
          rw [Scan.settle_placeholder, ends]
        have isPlain : ∀ other, ((gap.fill other).settle '$').mode = .plain := by
          intro other
          rw [settles, Scan.Gap.mode_fill, ← ended.mode_fill written, ← settles, plain]
        rw [scanText_cons_of_placeholder _ plain, settles] at isParsed
        obtain ⟨surrounding, remainder, equal, goesOn⟩ :=
          handsOver rest place ended written parsed endedProper isParsed
        refine ⟨surrounding, remainder, equal, fun other second sameSpliced => ?_⟩
        rw [scanText_cons_of_placeholder _ (isPlain other), settles]
        exact goesOn other second sameSpliced
      · cases stepped : (gap.fill written).step c with
        | error fault =>
            rw [scanText_cons_of_fault _ handedOver stepped] at isParsed
            cases isParsed
        | ok next =>
            obtain ⟨after, afterProper, rfl, steps⟩ := gap.exists_step proper stepped
            rw [scanText_cons_of_step _ stepped] at isParsed
            obtain ⟨surrounding, remainder, equal, goesOn⟩ :=
              inductionHypothesis (place.advance c) after written parsed
                afterProper isParsed
            refine ⟨surrounding, c :: remainder, ?_, fun other second sameSpliced => ?_⟩
            · simpa [Surrounding.parsed, Place.advance] using equal
            · rw [scanText_cons_of_step _ (steps other),
                goesOn other (second.advance c) (by simp [Place.advance, sameSpliced])]
              simp [Surrounding.parsed, Place.advance]

/-- Going on with some values fills a gap alike. -/
theorem fillsAlike_scanValues (values : List Value) : FillsAlike (scanValues values) := by
  induction values with
  | nil =>
      intro rest place gap written parsed proper isParsed
      simp [scanValues] at isParsed
  | cons value values inductionHypothesis =>
      intro rest place gap written parsed proper isParsed
      by_cases spliced : place.spliced > 0
      · simp [scanValues, spliced] at isParsed
      cases replaced : value.replacement? with
      | none => simp [scanValues, spliced, replaced] at isParsed
      | some replacement =>
          by_cases isEmpty : replacement.isEmpty = true
          · simp [scanValues, spliced, replaced, isEmpty] at isParsed
          · have goesOn : ∀ (current : Place) (scan : Scan),
                current.spliced = place.spliced →
                scanValues (value :: values) rest current scan =
                  scanText (scanValues values) (replacement.toList ++ rest)
                    { current with spliced := replacement.length } scan := by
              intro current scan sameSpliced
              simp [scanValues, sameSpliced, spliced, replaced, isEmpty]
            rw [goesOn place _ rfl] at isParsed
            obtain ⟨surrounding, remainder, equal, alike⟩ :=
              fillsAlike_scanText inductionHypothesis _ _ gap written parsed
                proper isParsed
            refine ⟨surrounding, remainder, equal, fun other second sameSpliced => ?_⟩
            rw [goesOn second _ sameSpliced]
            exact alike other { second with spliced := replacement.length } rfl

/-! ## Reading a literal -/

namespace Scan

/-- A scan with a gap where the next literal goes. -/
def gapHere (scan : Scan) : Scan.Gap :=
  ⟨.plain, [], .inCurrent scan.list.finished (.own scan.current), scan.outer⟩

theorem isProper_gapHere (scan : Scan) : scan.gapHere.IsProper :=
  .own fun _ => rfl

theorem setLiteral_eq_fill {scan : Scan} (plain : scan.mode = .plain)
    (written : Literal) :
    scan.setLiteral written = scan.gapHere.fill written := by
  obtain ⟨mode, list, outer⟩ := scan
  cases plain
  rfl

/-- Where a literal may stand the one that is written there is read. -/
theorem readText_source {scan : Scan} {written : Literal} (plain : scan.mode = .plain)
    (isWritten : written.IsWritten) (noContent : scan.current.hasContent = false)
    (noMembers : scan.current.members = []) :
    scan.readText written.source.toList =
      .ok (scan.afterLiteral written.body.toList written.flags.toList) := by
  have opened := stepPlain_of_plainStep (.openLiteral noContent noMembers)
  rw [← step_of_plain plain] at opened
  rw [Literal.toList_source, readText_cons_of_step opened, readText_body isWritten.isBody]
  have flagsRead :=
    readText_flags isWritten.letters scan written.body.toList.reverse [] []
  simpa [afterLiteral] using flagsRead

end Scan

/-- Between a literal and what follows it the flags end, placeholders included. -/
theorem scanText_endFlags
    (onPlaceholder : List Code → Place → Scan → Except ParseError Parsed)
    {scan : Scan} (settled : scan.IsSettled) {rest : List Code}
    (flagsEnd : ∀ c ∈ rest.head?, Text.isAsciiLetter c = false) (place : Place) :
    scanText onPlaceholder rest place scan =
      scanText onPlaceholder rest place scan.endFlags := by
  cases rest with
  | nil => simp only [scanText, Scan.finish_endFlags settled]
  | cons c others =>
      have noLetter : Text.isAsciiLetter c = false := flagsEnd c (by simp)
      have ended : scan.endFlags.endFlags = scan.endFlags :=
        Scan.endFlags_of_plain settled
      simp only [scanText, Scan.settle, noLetter, Bool.false_eq_true, if_false, ended,
        Scan.step_endFlags settled noLetter]

/-- Where a literal may stand a value that it replaces is read as this literal. -/
theorem scanValues_literal {scan : Scan} {written : Literal} {value : Value}
    (plain : scan.mode = .plain) (isWritten : written.IsWritten)
    (replaced : value.replacement? = some written.source)
    (noContent : scan.current.hasContent = false) (noMembers : scan.current.members = [])
    (others : List Value) {after : List Code}
    (flagsEnd : ∀ c ∈ after.head?, Text.isAsciiLetter c = false) (seen : List Code) :
    scanValues (value :: others) after ⟨seen, 0⟩ scan =
      scanText (scanValues others) after ⟨written.source.toList.reverse ++ seen, 0⟩
        (scan.gapHere.fill written) := by
  have notEmpty : written.source.isEmpty = false := by
    rw [Text.isEmpty_eq_false_iff]
    intro isEmpty
    have characters := congrArg Text.toList isEmpty
    simp [Literal.toList_source] at characters
  have isRead := Scan.readText_source plain isWritten noContent noMembers
  have settled :=
    Scan.isSettled_afterLiteral scan written.body.toList written.flags.toList
  simp only [scanValues, Nat.lt_irrefl, if_false, replaced, notEmpty, gt_iff_lt,
    Bool.false_eq_true]
  rw [scanText_append_of_readText _ isRead, scanText_endFlags _ settled flagsEnd,
    Scan.endFlags_afterLiteral plain, Text.ofList_toList, Text.ofList_toList,
    Scan.setLiteral_eq_fill plain, Text.length_toList, Nat.sub_self]

/-- Where a value that a literal replaces is accepted, a literal may stand. -/
theorem noContent_of_scanValues {scan : Scan} {written : Literal} {value : Value}
    (plain : scan.mode = .plain) (replaced : value.replacement? = some written.source)
    {others : List Value} {after : List Code} {place : Place} {parsed : Parsed}
    (isParsed : scanValues (value :: others) after place scan = .ok parsed) :
    scan.current.hasContent = false ∧ scan.current.members = [] := by
  by_cases spliced : place.spliced > 0
  · simp [scanValues, spliced] at isParsed
  by_cases isEmpty : written.source.isEmpty = true
  · simp [scanValues, spliced, replaced, isEmpty] at isParsed
  simp only [scanValues, spliced, if_false, replaced, isEmpty, Bool.false_eq_true,
    Literal.toList_source, List.cons_append] at isParsed
  cases stepped : scan.step '/' with
  | error fault => simp [scanText, stepped] at isParsed
  | ok next =>
      rw [Scan.step_of_plain plain] at stepped
      cases Scan.plainStep_of_stepPlain stepped with
      | blank isBlank => exact absurd isBlank (by decide)
      | nameChar isName noLiteral noMembers => exact absurd isName (by decide)
      | openLiteral noContent noMembers => exact ⟨noContent, noMembers⟩

/-- A literal is an expression of one alternative, whatever values there are. -/
theorem parse_source {written : Literal} (isWritten : written.IsWritten)
    (values : List Value) :
    parse written.source values =
      .ok ⟨[{ Alternative.blank with literal := some written }], written.source⟩ := by
  have isRead : Scan.start.readText written.source.toList =
      .ok (Scan.start.afterLiteral written.body.toList written.flags.toList) :=
    Scan.readText_source rfl isWritten rfl rfl
  have settled :=
    Scan.isSettled_afterLiteral .start written.body.toList written.flags.toList
  have finished :
      (Scan.start.afterLiteral written.body.toList written.flags.toList).finish =
      .ok [{ Alternative.blank with literal := some written }] := by
    rw [← Scan.finish_endFlags settled, Scan.endFlags_afterLiteral rfl,
      Text.ofList_toList, Text.ofList_toList]
    rfl
  rw [parse, ← List.append_nil written.source.toList,
    scanText_append_of_readText _ isRead, scanText, finished]
  simp [Place.textWith, Place.start]

/-! ## Where the next value goes -/

/-- Whether an outcome with further values is that of going on with them where their
first one is missing without them. -/
def GoesOn (outcome : List Value → Except ParseError Parsed) : Prop :=
  ∀ position text, outcome [] = .error ⟨.missingValue, position, text⟩ →
    ∃ (seen after : List Code) (scan : Scan), scan.mode = .plain ∧
    position = seen.length ∧
      text = Text.ofList (seen.reverse ++ .char '$' :: after) ∧
        ∀ further, outcome further = scanValues further after ⟨seen, 0⟩ scan

/-- Reading a text goes on where a value is missing if going
on at its placeholders does. -/
theorem goesOn_scanText
    {onPlaceholder : List Value → List Code → Place → Scan → Except ParseError Parsed}
    (handsOver : ∀ rest place scan, scan.mode = .plain →
      GoesOn fun further => onPlaceholder further rest place scan)
    (text : List Code) (place : Place) (scan : Scan) :
    GoesOn fun further => scanText (onPlaceholder further) text place scan := by
  induction text generalizing place scan with
  | nil =>
      intro position whole failed
      obtain ⟨distance, finished, -⟩ := finish_eq_of_scanText_nil _ failed
      have notOfPlaceholder := Scan.isOfPlaceholder_of_finish finished
      cases notOfPlaceholder
  | cons c rest inductionHypothesis =>
      intro position whole failed
      by_cases handedOver : c = '$' ∧ (scan.settle c).mode = .plain
      · obtain ⟨rfl, plain⟩ := handedOver
        simp only [scanText_cons_of_placeholder _ plain] at failed ⊢
        exact handsOver rest place (scan.settle '$') plain position whole failed
      · cases stepped : scan.step c with
        | ok next =>
            simp only [scanText_cons_of_step _ stepped] at failed ⊢
            exact inductionHypothesis (place.advance c) next position whole failed
        | error fault =>
            have notOfPlaceholder := Scan.isOfPlaceholder_of_step stepped
            simp only [scanText_cons_of_fault _ handedOver stepped, Place.error,
              Except.error.injEq, ParseError.mk.injEq] at failed
            rw [failed.1] at notOfPlaceholder
            cases notOfPlaceholder

/-- Going on with some values goes on where a further one is missing. -/
theorem goesOn_scanValues (values : List Value) (rest : List Code) (place : Place)
    {scan : Scan}
    (plain : scan.mode = .plain) :
    GoesOn fun further => scanValues (values ++ further) rest place scan := by
  induction values generalizing rest place scan with
  | nil =>
      intro position whole failed
      obtain ⟨seen, spliced⟩ := place
      by_cases isSpliced : spliced > 0
      · simp [scanValues, isSpliced, Place.error] at failed
      · obtain rfl : spliced = 0 := by omega
        simp only [List.nil_append, scanValues, isSpliced, if_false, Place.error,
          Place.position,
          Place.textWith, Except.error.injEq, ParseError.mk.injEq, true_and] at failed
        exact ⟨seen, rest, scan, plain, failed.1.symm, failed.2.symm, fun further => rfl⟩
  | cons value values inductionHypothesis =>
      intro position whole failed
      by_cases spliced : place.spliced > 0
      · simp [scanValues, spliced, Place.error] at failed
      cases replaced : value.replacement? with
      | none =>
          simp only [List.cons_append, scanValues, spliced, if_false, replaced,
            Place.error, Except.error.injEq, ParseError.mk.injEq] at failed
          cases shown : value.display? <;> simp [shown] at failed
      | some replacement =>
          by_cases isEmpty : replacement.isEmpty = true
          · simp [scanValues, spliced, replaced, isEmpty, Place.error] at failed
          · simp only [List.cons_append, scanValues, spliced, if_false, replaced, isEmpty,
              Bool.false_eq_true] at failed ⊢
            exact goesOn_scanText (fun rest place scan isPlain =>
              inductionHypothesis rest place isPlain) _ _ scan position whole failed

/-- Parsing goes on where a value is missing. -/
theorem goesOn_parse (expression : Text) (values : List Value) :
    GoesOn fun further => parse expression (values ++ further) :=
  goesOn_scanText (fun rest place _ isPlain =>
    goesOn_scanValues values rest place isPlain)
    expression.toList .start .start

/-! ## Placing a literal -/

/-- If a literal can replace a placeholder that no letter follows, every value that a
literal replaces can, and all these literals have the same surrounding. -/
theorem exists_surrounding {expression : Text} {values others : List Value}
    {before after : List Code} {value : Value} {written : Literal} {parsed : Parsed}
    (missing : parse expression values =
      .error ⟨.missingValue, before.length, Text.ofList (before ++ .char '$' :: after)⟩)
    (flagsEnd : ∀ c ∈ after.head?, Text.isAsciiLetter c = false)
    (isWritten : written.IsWritten) (replaced : value.replacement? = some written.source)
    (isParsed : parse expression (values ++ value :: others) = .ok parsed) :
    ∃ (surrounding : Surrounding) (remainder : List Code),
      ∀ (other : Literal) (second : Value), other.IsWritten →
        second.replacement? = some other.source →
        parse expression (values ++ second :: others) =
          .ok ⟨surrounding.fill other,
            Text.ofList (before ++ other.source.toList ++ remainder)⟩ := by
  rw [← List.append_nil values] at missing
  obtain ⟨seen, rest, scan, plain, position, text, goesOn⟩ :=
    goesOn_parse expression values _ _ missing
  simp only at goesOn
  have sameText : before ++ .char '$' :: after = seen.reverse ++ .char '$' :: rest :=
    Text.ofList_injective text
  obtain ⟨rfl, sameRest⟩ := List.append_inj sameText (by simp [position])
  cases sameRest
  rw [goesOn] at isParsed
  obtain ⟨noContent, noMembers⟩ := noContent_of_scanValues plain replaced isParsed
  have reads : ∀ (other : Literal) (second : Value), other.IsWritten →
      second.replacement? = some other.source →
      parse expression (values ++ second :: others) =
        scanText (scanValues others) after ⟨other.source.toList.reverse ++ seen, 0⟩
          (scan.gapHere.fill other) := by
    intro other second otherWritten replacedToo
    rw [goesOn (second :: others)]
    exact scanValues_literal plain otherWritten replacedToo noContent noMembers others
      flagsEnd seen
  rw [← goesOn, reads written value isWritten replaced] at isParsed
  obtain ⟨surrounding, remainder, -, alike⟩ :=
    fillsAlike_scanText (fillsAlike_scanValues others) after _ scan.gapHere written parsed
      scan.isProper_gapHere isParsed
  refine ⟨surrounding, remainder, fun other second otherWritten replacedToo => ?_⟩
  rw [reads other second otherWritten replacedToo,
    alike other ⟨other.source.toList.reverse ++ seen, 0⟩ rfl]
  simp [Surrounding.parsed]

end KindExpr
