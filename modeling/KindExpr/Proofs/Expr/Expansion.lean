import KindExpr.Proofs.Expr.Rounds
import Mathlib.Data.List.Infix

/-!
# Which placeholder values are spent, and where they go

While an expression is parsed its text consists of pieces, and of a tail of the
expression that was not reached. A piece is a character of the expression, or the
replacement of a placeholder. One round keeps this: a character moves from the tail to
the pieces, or a dollar sign of the tail is replaced by the value that comes next. So
values are spent in order and no dollar sign in a replacement is ever replaced.

The main result says what this comes to for an expression that is parsed: its text
is the expression with exactly those dollar signs replaced that the scan of this
text meets outside of literals.
-/

namespace KindExpr

/-! ## Pieces of a text -/

/-- A piece of a text in which placeholders are replaced. -/
inductive Piece where
  /-- A character of the expression. -/
  | kept (c : Code)
  /-- What replaces a placeholder. -/
  | replacement (value : Value) (text : Text)

namespace Piece

/-- What stands in the expression for a piece. -/
def source : Piece → List Code
  | kept c => [c]
  | replacement _ _ => [.char '$']

/-- What stands in the text for a piece. -/
def text : Piece → List Code
  | kept c => [c]
  | replacement _ text => text.toList

/-- The values that a piece takes. -/
def values : Piece → List Value
  | kept _ => []
  | replacement value _ => [value]

end Piece

/-- Whether the scan has accepted a text and is not in the body of a literal after it. -/
def IsOutside (text : List Code) : Prop :=
  ∃ scan, Scan.start.readText text = .ok scan ∧ scan.IsSettled

/-- Whether the scan has accepted a text and is in the body of a literal after it. -/
def IsInside (text : List Code) : Prop :=
  ∃ scan, Scan.start.readText text = .ok scan ∧ ¬ scan.IsSettled

/-- In an accepted text dollar signs are in bodies of literals only. -/
theorem isInside_of_readText {text before after : List Code} {scan : Scan}
    (isRead : Scan.start.readText text = .ok scan)
    (split : text = before ++ .char '$' :: after) :
    IsInside before := by
  rw [split, Scan.readText_append_eq_ok_iff] at isRead
  obtain ⟨middle, beforeRead, restRead⟩ := isRead
  obtain ⟨next, stepped, -⟩ := Scan.readText_cons_eq_ok_iff.mp restRead
  refine ⟨middle, beforeRead, fun settled => ?_⟩
  obtain ⟨fault, failed⟩ :=
    Scan.exists_step_placeholder_eq_error (by rwa [Scan.settle_placeholder])
  rw [failed] at stepped
  cases stepped

/-- Whether pieces replace placeholders: each by what its value stands for, and where
the scan of the text before it is outside of literals. -/
def ReplacePlaceholders (pieces : List Piece) : Prop :=
  ∀ before value text, before ++ [.replacement value text] <+: pieces →
    value.replacement? = some text ∧ IsOutside (before.flatMap Piece.text)

namespace ReplacePlaceholders

variable {pieces : List Piece}

theorem nil : ReplacePlaceholders [] := by
  intro before value text isPrefix
  simp at isPrefix

/-- A character that is kept replaces nothing. -/
theorem kept (replace : ReplacePlaceholders pieces) (c : Code) :
    ReplacePlaceholders (pieces ++ [.kept c]) := by
  intro before value text isPrefix
  rcases List.prefix_concat_iff.mp isPrefix with isWhole | isEarlier
  · have sameLast := (List.append_inj' isWhole rfl).2
    simp at sameLast
  · exact replace before value text isEarlier

/-- One more placeholder is replaced. -/
theorem replacement (replace : ReplacePlaceholders pieces) {value : Value} {text : Text}
    (replaced : value.replacement? = some text)
    (outside : IsOutside (pieces.flatMap Piece.text)) :
    ReplacePlaceholders (pieces ++ [.replacement value text]) := by
  intro before other otherText isPrefix
  rcases List.prefix_concat_iff.mp isPrefix with isWhole | isEarlier
  · obtain ⟨rfl, sameLast⟩ := List.append_inj' isWhole rfl
    simp only [List.cons.injEq, Piece.replacement.injEq, and_true] at sameLast
    obtain ⟨rfl, rfl⟩ := sameLast
    exact ⟨replaced, outside⟩
  · exact replace before other otherText isEarlier

end ReplacePlaceholders

namespace Reading

/-! ## The scan of a text with replacements -/

/-- Whether a scan is that of the characters before the place where it is.
It can be one in which flags have ended: at a placeholder they do, which in
the text may not be the case. -/
def FollowsText (reading : Reading) : Prop :=
  ∃ scan, Scan.start.readText reading.place.seen.reverse = .ok scan ∧
    (reading.scan = scan ∨ scan.IsSettled ∧ reading.scan = scan.endFlags)

/-- A character that is accepted in a round is accepted by the scan of the text. -/
theorem FollowsText.advance {scan next : Scan} {place : Place} {c : Code}
    {rest : List Code}
    {values : List Value} (follows : FollowsText ⟨scan, place, rest, values⟩)
    (stepped : scan.step c = .ok next) :
    Scan.start.readText (place.advance c).seen.reverse = .ok next := by
  obtain ⟨ofText, isRead, same | ⟨settled, ended⟩⟩ := follows
  · simp only at same
    rw [same] at stepped
    exact readText_advance isRead stepped
  · simp only at ended
    rw [ended] at stepped
    exact readText_advance isRead (Scan.step_of_step_endFlags settled stepped)

/-- A scan that follows its text does so after a round. -/
theorem FollowsText.round {reading next : Reading} {spent : List Value}
    (follows : reading.FollowsText) (round : Round reading spent next) :
    next.FollowsText := by
  cases round with
  | character goesOn stepped => exact ⟨_, follows.advance stepped, .inl rfl⟩
  | @flagsEnd scan place c rest body letters values mode noLetter =>
      obtain ⟨ofText, isRead, same | ⟨settled, ended⟩⟩ := follows
      · simp only at same
        subst same
        exact ⟨scan, isRead, .inr ⟨by simp [Scan.IsSettled, Scan.endFlags, mode], rfl⟩⟩
      · simp only at ended
        rw [ended, show ofText.endFlags.mode = .plain from settled] at mode
        cases mode
  | placeholder plain unspliced replaced notEmpty => exact follows

/-- Outside of literals the scan of the text is outside of literals. -/
theorem FollowsText.isOutside {reading : Reading} (follows : reading.FollowsText)
    (plain : reading.scan.mode = .plain) : IsOutside reading.place.seen.reverse := by
  obtain ⟨ofText, isRead, same | ⟨settled, -⟩⟩ := follows
  · refine ⟨ofText, isRead, ?_⟩
    rw [← same, Scan.IsSettled, Scan.endFlags_of_plain plain, plain]
  · exact ⟨ofText, isRead, settled⟩

/-! ## The expression behind a text -/

/-- Whether a text that is being parsed consists of some pieces and a
tail of its expression. What is still to be read of the pieces comes from
the value that was spent last. -/
structure IsExpansion (expression : Text) (pieces : List Piece) (tail : List Code)
    (reading : Reading) : Prop where
  source_eq : expression.toList = pieces.flatMap Piece.source ++ tail
  text_eq : reading.text = pieces.flatMap Piece.text ++ tail
  ahead_eq : reading.rest.length = reading.place.spliced + tail.length
  replace : ReplacePlaceholders pieces

namespace IsExpansion

variable {expression : Text} {pieces : List Piece} {tail : List Code}

theorem start (expression : Text) (placeholders : List Value) :
    (Reading.start expression placeholders).IsExpansion expression [] expression.toList :=
  { source_eq := rfl
    text_eq := rfl
    ahead_eq := by simp [Reading.start, Place.start]
    replace := .nil }

/-- Where nothing of a replacement is still to be read, the tail is. -/
theorem tail_eq {reading : Reading}
    (expansion : reading.IsExpansion expression pieces tail)
    (unspliced : reading.place.spliced = 0) :
    reading.place.seen.reverse = pieces.flatMap Piece.text ∧ reading.rest = tail := by
  have ahead := expansion.ahead_eq
  exact List.append_inj' expansion.text_eq (by omega)

/-- One character is read. -/
theorem character {scan next : Scan} {place : Place} {c : Code} {rest : List Code}
    {values : List Value}
    (expansion : IsExpansion expression pieces tail ⟨scan, place, c :: rest, values⟩) :
    ∃ further later,
      IsExpansion expression (pieces ++ further) later
        ⟨next, place.advance c, rest, values⟩ ∧
        further.flatMap Piece.values = [] := by
  have sameText : (⟨next, place.advance c, rest, values⟩ : Reading).text =
      (⟨scan, place, c :: rest, values⟩ : Reading).text := by
    simp [text, Place.advance]
  have ahead : rest.length + 1 = place.spliced + tail.length := expansion.ahead_eq
  by_cases unspliced : place.spliced = 0
  · -- The character comes from the expression.
    obtain ⟨-, rfl⟩ := expansion.tail_eq unspliced
    refine ⟨[.kept c], rest, ?_, rfl⟩
    exact
      { source_eq := by rw [expansion.source_eq]; simp [Piece.source]
        text_eq := by rw [sameText, expansion.text_eq]; simp [Piece.text]
        ahead_eq := by simp [Place.advance, unspliced]
        replace := expansion.replace.kept c }
  · -- It comes from a replacement.
    refine ⟨[], tail, ?_, rfl⟩
    rw [List.append_nil]
    exact
      { source_eq := expansion.source_eq
        text_eq := by rw [sameText, expansion.text_eq]
        ahead_eq := by simp only [Place.advance]; omega
        replace := expansion.replace }

/-- One placeholder is replaced. -/
theorem placeholder {scan : Scan} {place : Place} {rest : List Code} {value : Value}
    {values : List Value} {replacement : Text}
    (expansion : IsExpansion expression pieces tail
      ⟨scan, place, .char '$' :: rest, value :: values⟩)
    (unspliced : place.spliced = 0)
    (replaced : value.replacement? = some replacement)
    (outside : IsOutside place.seen.reverse) :
    IsExpansion expression (pieces ++ [.replacement value replacement]) rest
      ⟨scan, { place with spliced := replacement.length }, replacement.toList ++ rest,
        values⟩ := by
  obtain ⟨seenEqual, rfl⟩ := expansion.tail_eq unspliced
  simp only at seenEqual
  exact
    { source_eq := by rw [expansion.source_eq]; simp [Piece.source]
      text_eq := by simp [text, seenEqual, Piece.text]
      ahead_eq := by simp only [List.length_append, Text.length_toList]
      replace := expansion.replace.replacement replaced (by rwa [← seenEqual]) }

/-- After a round a text still consists of pieces and a tail of its expression. The
values that are spent in the round are those that further pieces take. -/
theorem round {reading next : Reading} {spent : List Value}
    (expansion : reading.IsExpansion expression pieces tail)
    (follows : reading.FollowsText)
    (round : Round reading spent next) :
    ∃ further later, next.IsExpansion expression (pieces ++ further) later ∧
      further.flatMap Piece.values = spent := by
  cases round with
  | character goesOn stepped => exact expansion.character
  | flagsEnd mode noLetter =>
      refine ⟨[], tail, ?_, rfl⟩
      rw [List.append_nil]
      exact ⟨expansion.source_eq, expansion.text_eq, expansion.ahead_eq,
        expansion.replace⟩
  | placeholder plain unspliced replaced notEmpty =>
      exact ⟨[_], _, expansion.placeholder unspliced replaced
        (follows.isOutside plain), rfl⟩

end IsExpansion

/-- Rounds from the beginning of an expression replace its placeholders by the values
that they spend, and the scan is that of the text. -/
theorem Rounds.exists_isExpansion {expression : Text} {placeholders spent : List Value}
    {reading : Reading} (rounds : Rounds (.start expression placeholders) spent reading) :
    reading.FollowsText ∧ ∃ pieces tail, reading.IsExpansion expression pieces tail ∧
      pieces.flatMap Piece.values = spent := by
  induction rounds with
  | none =>
      exact ⟨⟨.start, rfl, .inl rfl⟩, [], expression.toList,
        .start expression placeholders, rfl⟩
  | more rounds round inductionHypothesis =>
      obtain ⟨follows, pieces, tail, expansion, rfl⟩ := inductionHypothesis
      obtain ⟨further, later, expands, rfl⟩ := expansion.round follows round
      exact ⟨follows.round round, pieces ++ further, later, expands, List.flatMap_append⟩

/-- Where a dollar sign of a replacement is met outside of literals, parsing fails. -/
theorem outcome_of_nested {reading : Reading} {rest : List Code}
    (spliced : reading.place.spliced > 0) (ahead : reading.rest = .char '$' :: rest)
    (settled : reading.scan.IsSettled) :
    reading.outcome = .error (reading.place.error reading.rest .nestedPlaceholder) := by
  rw [outcome, ahead, scanText_cons_of_placeholder _ (by rwa [Scan.settle_placeholder]),
    scanValues_spliced _ spliced]

/-- A text that is read to its end is accepted. -/
theorem EndsWith.readText {reading : Reading} {parsed : Parsed}
    (ends : reading.EndsWith parsed)
    (follows : reading.FollowsText) :
    ∃ scan, Scan.start.readText parsed.text.toList = .ok scan ∧
      scan.finish = .ok parsed.alternatives := by
  have wholeText : parsed.text.toList = reading.place.seen.reverse := by
    rw [ends.text_eq, text, ends.rest_eq_nil, List.append_nil, Text.toList_ofList]
  obtain ⟨ofText, isRead, same | ⟨settled, ended⟩⟩ := follows
  · exact ⟨ofText, by rw [wholeText, isRead], by rw [← same, ends.finished]⟩
  · exact ⟨ofText, by rw [wholeText, isRead],
      by rw [← Scan.finish_endFlags settled, ← ended, ends.finished]⟩

end Reading

/-! ## Expressions that are parsed -/

/-- The text of an expression that is parsed is accepted as it is, and
gives the same alternatives. -/
theorem exists_readText_of_parse {expression : Text} {placeholders : List Value}
    {parsed : Parsed} (isParsed : parse expression placeholders = .ok parsed) :
    ∃ scan, Scan.start.readText parsed.text.toList = .ok scan ∧
      scan.finish = .ok parsed.alternatives := by
  obtain ⟨spent, last, rounds, ends⟩ := parse_eq_ok_iff_spends.mp isParsed
  exact ends.readText rounds.exists_isExpansion.1

/-- Placeholder values are spent in order and once each. An expression is parsed exactly
when some values are spent, and then it is certain which. These come first among the
values that are given, and the text is the expression in which each of them replaces one
dollar sign, in order. Replaced are those that the scan of the text meets outside of
literals, and no other dollar signs are there. The values that come after those that are
spent make no difference.

Whatever it comes to in the end, every round leaves the tail of the expression as it is,
and a dollar sign of a replacement is at fault if it is met outside of literals. -/
theorem placeholder_values_are_spent_in_order (expression : Text)
    (placeholders : List Value) :
    (∀ parsed, parse expression placeholders = .ok parsed ↔
      ∃ spent, Spends expression placeholders spent parsed) ∧
    (∀ spent parsed, Spends expression placeholders spent parsed →
      (∀ otherSpent otherParsed, Spends expression placeholders otherSpent otherParsed →
          otherSpent = spent) ∧
        spent <+: placeholders ∧
        (∃ pieces, pieces.flatMap Piece.values = spent ∧
          pieces.flatMap Piece.source = expression.toList ∧
          pieces.flatMap Piece.text = parsed.text.toList ∧ ReplacePlaceholders pieces) ∧
        (∀ before after, parsed.text.toList = before ++ .char '$' :: after →
          IsInside before) ∧
        ∀ others, Spends expression (spent ++ others) spent parsed) ∧
    ∀ spent reading, Reading.Rounds (.start expression placeholders) spent reading →
      placeholders = spent ++ reading.values ∧
        ∃ pieces tail, reading.IsExpansion expression pieces tail ∧
          pieces.flatMap Piece.values = spent ∧
          ∀ rest, reading.rest = .char '$' :: rest → tail.length < reading.rest.length →
            reading.scan.IsSettled →
            parse expression placeholders =
              .error (reading.place.error reading.rest .nestedPlaceholder) := by
  refine ⟨fun parsed => parse_eq_ok_iff_spends, ?_, ?_⟩
  · intro spent parsed spends
    refine ⟨fun otherSpent otherParsed otherSpends => otherSpends.unique spends, ?_⟩
    obtain ⟨last, rounds, ends⟩ := spends
    obtain ⟨follows, pieces, tail, expansion, valuesEqual⟩ := rounds.exists_isExpansion
    obtain ⟨scan, isRead, -⟩ := ends.readText follows
    have noTail : tail = [] := by
      have ahead := expansion.ahead_eq
      rw [ends.rest_eq_nil, List.length_nil] at ahead
      exact List.eq_nil_of_length_eq_zero (by omega)
    refine ⟨⟨last.values, rounds.values_eq.symm⟩,
      ⟨pieces, valuesEqual, ?_, ?_, expansion.replace⟩,
      fun before after => isInside_of_readText isRead, fun others => ?_⟩
    · rw [expansion.source_eq, noTail, List.append_nil]
    · rw [ends.text_eq, Text.toList_ofList, expansion.text_eq, noTail, List.append_nil]
    · exact ⟨_, rounds.withValues others, ends.rest_eq_nil, ends.finished, ends.text_eq⟩
  · intro spent reading rounds
    obtain ⟨-, pieces, tail, expansion, valuesEqual⟩ := rounds.exists_isExpansion
    refine ⟨rounds.values_eq, pieces, tail, expansion, valuesEqual, ?_⟩
    intro rest ahead notTail settled
    have isAhead := expansion.ahead_eq
    rw [← Reading.outcome_start, rounds.outcome_eq]
    exact Reading.outcome_of_nested (by omega) ahead settled

/-- Of three values the first two are spent. A value that is a dollar sign itself is
spent and then at fault. -/
theorem placeholder_values_are_spent_in_order_nested :
    (∃ spent parsed, parse "$|arr<$>" [.text "str", .text "num", .null] = .ok parsed ∧
      Spends "$|arr<$>" [.text "str", .text "num", .null] spent parsed ∧
      spent <+: [.text "str", .text "num", .null] ∧
      Spends "$|arr<$>" (spent ++ [.boolean true]) spent parsed) ∧
    ∃ (reading : Reading) (tail : List Code),
      Reading.Rounds (.start "$" [.text "$"]) [.text "$"] reading ∧
      reading.rest = [.char '$'] ∧ tail.length < reading.rest.length ∧
      reading.scan.IsSettled ∧
      parse "$" [.text "$"] = .error
        (reading.place.error reading.rest .nestedPlaceholder) := by
  constructor
  · have isSpent :=
      placeholder_values_are_spent_in_order "$|arr<$>" [.text "str", .text "num", .null]
    obtain ⟨spent, spends⟩ := (isSpent.1 _).mp rfl
    obtain ⟨-, isInitial, -, -, withOthers⟩ := isSpent.2.1 spent _ spends
    exact ⟨spent, _, rfl, spends, isInitial, withOthers _⟩
  · have replaced : (Value.text "$").replacement? = some "$" := rfl
    have round : Reading.Round (.start "$" [.text "$"]) [.text "$"]
        ⟨.start, { Place.start with spliced := 1 }, [.char '$'], []⟩ :=
      .placeholder rfl rfl replaced (by decide)
    have rounds := Reading.Rounds.more .none round
    obtain ⟨-, pieces, tail, expansion, -, fails⟩ :=
      (placeholder_values_are_spent_in_order "$" [.text "$"]).2.2 _ _ rounds
    have isAhead : tail.length < 1 := by
      have ahead := expansion.ahead_eq
      simp only [List.length_singleton] at ahead
      omega
    exact ⟨_, tail, rounds, rfl, isAhead, rfl, fails [] rfl isAhead rfl⟩

/-- A literal that begins in a value and ends in the
expression, with a dollar sign in it. -/
example : (parse "arr<$b$/i|$>" [.text "/a$", .text "str", .null]).toOption.map
    Parsed.text =
    some "arr</a$b$/i|str>" := rfl

end KindExpr
