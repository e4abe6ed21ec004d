import KindExpr.Proofs.Expr.Placement

/-!
# Parsing in rounds

Parsing goes over its text in rounds. A round reads one character, or ends the flags of
a literal before a character that is no letter, or spends a placeholder value. The last
two read nothing, and the last one puts a text of any length in front of what is still
to be read. Still there are only finitely many rounds: with every one of them there are
fewer values left, or fewer characters, or flags have ended.

What parsing comes to is the same before and after a round. So an expression is parsed
exactly when rounds lead to the end of its text, and the values that these rounds spend
are those that parsing spends.
-/

namespace KindExpr

/-- A text that is being parsed. -/
structure Reading where
  scan : Scan
  place : Place
  /-- The characters that are still to be read. -/
  rest : List Code
  /-- The placeholder values that are not spent. -/
  values : List Value

namespace Reading

/-- An expression before its first character. -/
def start (expression : Text) (placeholders : List Value) : Reading :=
  ⟨.start, .start, expression.toList, placeholders⟩

/-- What parsing comes to from here. -/
def outcome (reading : Reading) : Except ParseError Parsed :=
  scanText (scanValues reading.values) reading.rest reading.place reading.scan

theorem outcome_start (expression : Text) (placeholders : List Value) :
    (start expression placeholders).outcome = parse expression placeholders := rfl

/-- The whole text as it is so far. -/
def text (reading : Reading) : List Code :=
  reading.place.seen.reverse ++ reading.rest

/-- Whether a text is read to its end and parsed. -/
structure EndsWith (reading : Reading) (parsed : Parsed) : Prop where
  rest_eq_nil : reading.rest = []
  finished : reading.scan.finish = .ok parsed.alternatives
  text_eq : parsed.text = Text.ofList reading.text

/-! ## One round -/

/-- What one round does, with the values that it spends. -/
inductive Round : Reading → List Value → Reading → Prop
  | character {scan next : Scan} {place : Place} {c : Code} {rest : List Code}
      {values : List Value}
      (goesOn : scan.settle c = scan)
      (stepped : scan.step c = .ok next) :
      Round ⟨scan, place, c :: rest, values⟩ [] ⟨next, place.advance c, rest, values⟩
  | flagsEnd {scan : Scan} {place : Place} {c : Code} {rest body letters : List Code}
      {values : List Value}
      (mode : scan.mode = .flags body letters)
      (noLetter : Text.isAsciiLetter c = false) :
      Round ⟨scan, place, c :: rest, values⟩ [] ⟨scan.endFlags, place, c :: rest, values⟩
  | placeholder {scan : Scan} {place : Place} {rest : List Code} {value : Value}
      {values : List Value} {replacement : Text}
      (plain : scan.mode = .plain)
      (unspliced : place.spliced = 0)
      (replaced : value.replacement? = some replacement)
      (notEmpty : replacement ≠ "") :
      Round ⟨scan, place, .char '$' :: rest, value :: values⟩ [value]
        ⟨scan, { place with spliced := replacement.length },
          replacement.toList ++ rest, values⟩

/-- The flags of a literal end before a character that is no letter, and
otherwise a scan is as it was. -/
theorem settle_eq_or_flags (scan : Scan) (c : Code) :
    scan.settle c = scan ∨
      Text.isAsciiLetter c = false ∧ ∃ body letters, scan.mode = .flags body letters := by
  by_cases isLetter : Text.isAsciiLetter c = true
  · exact .inl (by rw [Scan.settle, if_pos isLetter])
  · cases mode : scan.mode with
    | flags body letters => exact .inr ⟨by simpa using isLetter, body, letters, rfl⟩
    | _ => exact .inl (by simp [Scan.settle, Scan.endFlags, mode])

namespace Round

variable {reading next : Reading} {spent : List Value}

/-- A round does not change what parsing comes to. -/
theorem outcome_eq (round : Round reading spent next) :
    reading.outcome = next.outcome := by
  cases round with
  | character goesOn stepped => exact scanText_cons_of_step _ stepped _ _
  | @flagsEnd scan place c rest body letters values mode noLetter =>
      have settled : scan.IsSettled := by simp [Scan.IsSettled, Scan.endFlags, mode]
      exact scanText_endFlags _ settled (by simpa using noLetter) place
  | @placeholder scan place rest value values replacement plain unspliced
        replaced notEmpty =>
      have settled := Scan.settle_of_plain plain '$'
      unfold outcome
      rw [scanText_cons_of_placeholder _ (by rw [settled, plain]), settled]
      simp [scanValues, unspliced, replaced, notEmpty]

/-- A round spends the values that come first. -/
theorem values_eq (round : Round reading spent next) :
    reading.values = spent ++ next.values := by
  cases round with
  | _ => rfl

/-- What values come after those that a round spends makes no difference to it. -/
theorem withValues (round : Round reading spent next) (others : List Value) :
    Round { reading with values := spent ++ others } spent
      { next with values := others } := by
  cases round with
  | character goesOn stepped => exact .character goesOn stepped
  | flagsEnd mode noLetter => exact .flagsEnd mode noLetter
  | placeholder plain unspliced replaced notEmpty =>
      exact .placeholder plain unspliced replaced notEmpty

/-- In a round only one thing can be done. -/
theorem unique {otherSpent : List Value} {otherNext : Reading}
    (round : Round reading spent next)
    (otherRound : Round reading otherSpent otherNext) :
    spent = otherSpent ∧ next = otherNext := by
  -- Flags that end are not the scan as it was, and outside of literals a dollar sign is
  -- no character that is accepted.
  have notSettled {scan : Scan} {c : Code} {body letters : List Code}
      (mode : scan.mode = .flags body letters) (noLetter : Text.isAsciiLetter c = false)
      (goesOn : scan.settle c = scan) : False := by
    rw [Scan.settle, if_neg (by simp [noLetter])] at goesOn
    have ended := congrArg Scan.mode goesOn
    simp [Scan.endFlags, mode] at ended
  have notStepped {scan next : Scan} (plain : scan.mode = .plain)
      (stepped : scan.step '$' = .ok next) : False := by
    obtain ⟨fault, failed⟩ :=
      Scan.exists_step_placeholder_eq_error (by rw [Scan.settle_of_plain plain, plain])
    rw [failed] at stepped
    cases stepped
  cases round with
  | character goesOn stepped =>
      cases otherRound with
      | character otherGoesOn otherStepped =>
          obtain rfl := Except.ok.inj (stepped.symm.trans otherStepped)
          exact ⟨rfl, rfl⟩
      | flagsEnd mode noLetter => exact (notSettled mode noLetter goesOn).elim
      | placeholder plain unspliced replaced notEmpty =>
          exact (notStepped plain stepped).elim
  | flagsEnd mode noLetter =>
      cases otherRound with
      | character goesOn stepped => exact (notSettled mode noLetter goesOn).elim
      | flagsEnd otherMode otherNoLetter => exact ⟨rfl, rfl⟩
      | placeholder plain unspliced replaced notEmpty =>
          rw [plain] at mode
          cases mode
  | placeholder plain unspliced replaced notEmpty =>
      cases otherRound with
      | character goesOn stepped => exact (notStepped plain stepped).elim
      | flagsEnd mode noLetter =>
          rw [plain] at mode
          cases mode
      | placeholder otherPlain otherUnspliced otherReplaced otherNotEmpty =>
          obtain rfl := Option.some.inj (replaced.symm.trans otherReplaced)
          exact ⟨rfl, rfl⟩

end Round

/-- Whether parsing fails at the place where it is. -/
def FailsHere (reading : Reading) : Prop :=
  ∃ fault, reading.outcome = .error (reading.place.error reading.rest fault)

/-- Where there is no further round, the text is at its end or at fault. -/
theorem exists_round_or_failsHere (reading : Reading) :
    (∃ spent next, Round reading spent next) ∨ reading.rest = [] ∨ reading.FailsHere := by
  obtain ⟨scan, place, rest, values⟩ := reading
  cases rest with
  | nil => exact .inr (.inl rfl)
  | cons c rest =>
      rcases settle_eq_or_flags scan c with goesOn | ⟨noLetter, body, letters, mode⟩
      · by_cases handedOver : c = '$' ∧ scan.mode = .plain
        · obtain ⟨rfl, plain⟩ := handedOver
          have passedOn : (⟨scan, place, .char '$' :: rest, values⟩ : Reading).outcome =
              scanValues values rest place scan := by
            unfold outcome
            rw [scanText_cons_of_placeholder _ (by rw [goesOn, plain]), goesOn]
          rw [FailsHere, passedOn]
          by_cases spliced : place.spliced > 0
          · exact .inr (.inr ⟨_, scanValues_spliced values spliced rest scan⟩)
          cases values with
          | nil => exact .inr (.inr ⟨_, rfl⟩)
          | cons value values =>
              cases replaced : value.replacement? with
              | none =>
                  refine .inr (.inr ?_)
                  simp only [scanValues, spliced, if_false, replaced]
                  exact ⟨_, rfl⟩
              | some replacement =>
                  by_cases isEmpty : replacement = ""
                  · refine .inr (.inr ?_)
                    simp only [scanValues, spliced, if_false, replaced, isEmpty]
                    exact ⟨_, rfl⟩
                  · exact .inl ⟨_, _, .placeholder plain (by omega) replaced isEmpty⟩
        · cases stepped : scan.step c with
          | ok next => exact .inl ⟨_, _, .character goesOn stepped⟩
          | error fault =>
              refine .inr (.inr ⟨_, scanText_cons_of_fault _ ?_ stepped rest place⟩)
              rwa [goesOn]
      · exact .inl ⟨_, _, .flagsEnd mode noLetter⟩

/-! ## Several rounds -/

/-- What several rounds do, with the values that they spend in order. -/
inductive Rounds (first : Reading) : List Value → Reading → Prop
  | none : Rounds first [] first
  | more {earlier later : List Value} {middle last : Reading}
      (rounds : Rounds first earlier middle)
      (round : Round middle later last) :
      Rounds first (earlier ++ later) last

namespace Rounds

variable {first middle last : Reading} {spent earlier later : List Value}

/-- A round before others. -/
theorem cons (round : Round first earlier middle) (rounds : Rounds middle later last) :
    Rounds first (earlier ++ later) last := by
  induction rounds with
  | none =>
      rw [List.append_nil]
      exact .more .none round
  | more rounds further inductionHypothesis =>
      rw [← List.append_assoc]
      exact .more inductionHypothesis further

/-- There are no rounds, or there is a first one. -/
theorem head_cases (rounds : Rounds first spent last) :
    (spent = [] ∧ last = first) ∨ ∃ earlier next later,
      spent = earlier ++ later ∧ Round first earlier next ∧ Rounds next later last := by
  induction rounds with
  | none => exact .inl ⟨rfl, rfl⟩
  | @more earlier later middle last rounds round inductionHypothesis =>
      rcases inductionHypothesis with ⟨rfl, rfl⟩ |
        ⟨head, next, tail, rfl, firstRound, others⟩
      · exact .inr ⟨later, last, [], by simp, round, .none⟩
      · exact .inr ⟨head, next, tail ++ later, by simp, firstRound, .more others round⟩

/-- Of two runs of rounds one goes on where the other stops. -/
theorem comparable {otherSpent : List Value} {otherLast : Reading}
    (rounds : Rounds first spent last) (otherRounds : Rounds first otherSpent otherLast) :
    (∃ further, otherSpent = spent ++ further ∧ Rounds last further otherLast) ∨
      ∃ further, spent = otherSpent ++ further ∧ Rounds otherLast further last := by
  induction rounds with
  | none => exact .inl ⟨otherSpent, rfl, otherRounds⟩
  | @more earlier later middle last rounds round inductionHypothesis =>
      rcases inductionHypothesis with ⟨further, rfl, goesOn⟩ | ⟨further, rfl, goesOn⟩
      · rcases goesOn.head_cases with ⟨rfl, rfl⟩ |
          ⟨head, next, tail, rfl, nextRound, others⟩
        · exact .inr ⟨later, by simp, .more .none round⟩
        · obtain ⟨rfl, rfl⟩ := round.unique nextRound
          exact .inl ⟨tail, by simp, others⟩
      · exact .inr ⟨further ++ later, by simp, .more goesOn round⟩

/-- Rounds do not change what parsing comes to. -/
theorem outcome_eq (rounds : Rounds first spent last) : first.outcome = last.outcome := by
  induction rounds with
  | none => rfl
  | more rounds round inductionHypothesis => rw [inductionHypothesis, round.outcome_eq]

/-- Rounds spend the values that come first. -/
theorem values_eq (rounds : Rounds first spent last) :
    first.values = spent ++ last.values := by
  induction rounds with
  | none => rfl
  | more rounds round inductionHypothesis =>
      rw [inductionHypothesis, round.values_eq, List.append_assoc]

/-- What values come after those that are spent makes no difference. -/
theorem withValues (rounds : Rounds first spent last) (others : List Value) :
    Rounds { first with values := spent ++ others } spent
      { last with values := others } := by
  induction rounds generalizing others with
  | none => exact .none
  | more rounds round inductionHypothesis =>
      rw [List.append_assoc]
      exact .more (inductionHypothesis _) (round.withValues others)

end Rounds

/-! ## The end of the rounds -/

/-- What gets less with every round: the values, the characters that are still to be
read, and whether flags are being read. -/
def weight (reading : Reading) : Nat × Nat × Nat :=
  (reading.values.length, reading.rest.length,
    match reading.scan.mode with
    | .flags _ _ => 1
    | _ => 0)

/-- With every round the weight gets less. -/
theorem Round.weight_lt {reading next : Reading} {spent : List Value}
    (round : Round reading spent next) :
    Prod.Lex (· < ·) (Prod.Lex (· < ·) (· < ·)) next.weight reading.weight := by
  cases round with
  | character goesOn stepped => exact .right _ (.left _ _ (by simp))
  | flagsEnd mode noLetter =>
      refine .right _ (.right _ ?_)
      simp [mode, Scan.endFlags]
  | placeholder plain unspliced replaced notEmpty => exact .left _ _ (by simp)

/-- Rounds come to an end. -/
theorem exists_last (reading : Reading) :
    ∃ spent last, Rounds reading spent last ∧ ∀ further next,
      ¬ Round last further next := by
  by_cases goesOn : ∃ spent next, Round reading spent next
  · obtain ⟨spent, next, round⟩ := goesOn
    obtain ⟨later, last, rounds, isLast⟩ := exists_last next
    exact ⟨spent ++ later, last, .cons round rounds, isLast⟩
  · exact ⟨[], reading, .none, fun further next round => goesOn ⟨further, next, round⟩⟩
termination_by reading.weight
decreasing_by exact round.weight_lt

/-- At the end of its text an expression is parsed if the scan finishes. -/
theorem endsWith_iff {reading : Reading} {parsed : Parsed} (atEnd : reading.rest = []) :
    reading.outcome = .ok parsed ↔ reading.EndsWith parsed := by
  obtain ⟨scan, place, rest, values⟩ := reading
  cases atEnd
  constructor
  · intro isParsed
    cases finished : scan.finish with
    | error failure => simp [outcome, scanText, finished] at isParsed
    | ok alternatives =>
        simp only [outcome, scanText, finished, Except.ok.injEq] at isParsed
        subst isParsed
        exact ⟨rfl, finished, rfl⟩
  · rintro ⟨-, finished, textEqual⟩
    have sameText : place.textWith [] = parsed.text := textEqual.symm
    simp only at finished
    simp only [outcome, scanText, finished, sameText]

end Reading

/-- Whether an expression is parsed in rounds that spend
some of its placeholder values. -/
def Spends (expression : Text) (placeholders spent : List Value)
    (parsed : Parsed) : Prop :=
  ∃ last, Reading.Rounds (.start expression placeholders) spent last ∧
    last.EndsWith parsed

/-- After the end of a text there are no rounds. -/
theorem Reading.EndsWith.rounds_eq {reading last : Reading} {spent : List Value}
    {parsed : Parsed}
    (ends : reading.EndsWith parsed) (rounds : Rounds reading spent last) :
    spent = [] := by
  rcases rounds.head_cases with ⟨isEmpty, -⟩ | ⟨earlier, next, later, -, round, -⟩
  · exact isEmpty
  · have atEnd := ends.rest_eq_nil
    cases round with
    | _ => cases atEnd

/-- The values that parsing spends are determined. -/
theorem Spends.unique {expression : Text} {placeholders spent otherSpent : List Value}
    {parsed otherParsed : Parsed} (spends : Spends expression placeholders spent parsed)
    (otherSpends : Spends expression placeholders otherSpent otherParsed) :
    spent = otherSpent := by
  obtain ⟨last, rounds, ends⟩ := spends
  obtain ⟨otherLast, otherRounds, otherEnds⟩ := otherSpends
  rcases rounds.comparable otherRounds with ⟨further, rfl, goesOn⟩ |
    ⟨further, rfl, goesOn⟩
  · rw [ends.rounds_eq goesOn, List.append_nil]
  · rw [otherEnds.rounds_eq goesOn, List.append_nil]

/-- An expression is parsed exactly when rounds lead to the end of its text. -/
theorem parse_eq_ok_iff_spends {expression : Text} {placeholders : List Value}
    {parsed : Parsed} :
    parse expression placeholders = .ok parsed ↔
      ∃ spent, Spends expression placeholders spent parsed := by
  rw [← Reading.outcome_start]
  constructor
  · intro isParsed
    obtain ⟨spent, last, rounds, isLast⟩ :=
      (Reading.start expression placeholders).exists_last
    rw [rounds.outcome_eq] at isParsed
    refine ⟨spent, last, rounds, ?_⟩
    rcases last.exists_round_or_failsHere with ⟨further, next, round⟩ | atEnd |
      ⟨fault, failed⟩
    · exact absurd round (isLast further next)
    · exact (Reading.endsWith_iff atEnd).mp isParsed
    · rw [failed] at isParsed
      cases isParsed
  · rintro ⟨spent, last, rounds, ends⟩
    rw [rounds.outcome_eq]
    exact (Reading.endsWith_iff ends.rest_eq_nil).mpr ends

end KindExpr
