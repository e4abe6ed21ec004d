import KindExpr.Proofs.Expr.Regular
import KindExpr.Proofs.Pattern.Tokens

/-!
# Escaped slashes and the text of literals

Two automata go over the body of a literal: the one that escapes its slashes, and the
scan that looks for the slash at its end. Both take characters in pairs after a
backslash, and they stay in step. Escaping gives pairs and plain characters, and
after them the backslash that ends the text alone if there is one. This is the case
if an odd number of backslashes ends the text, and then the closing slash is taken
along and the literal does not end.

The main result says when the text of a literal gives back the literal, and that it does
so for every literal in an expression that is parsed.
-/

namespace KindExpr

namespace Literal

/-! ## Backslashes at the end of a text -/

/-- How many backslashes end a text. -/
def trailingEscapes (text : List Code) : Nat :=
  (text.reverse.takeWhile (· = .char '\\')).length

@[simp] theorem trailingEscapes_nil : trailingEscapes [] = 0 := rfl

theorem trailingEscapes_le_length (text : List Code) :
    trailingEscapes text ≤ text.length := by
  have few := (List.takeWhile_prefix (· = '\\') (l := text.reverse)).length_le
  rwa [List.length_reverse] at few

/-- A backslash counts if there are only backslashes after it. -/
theorem trailingEscapes_cons (c : Code) (rest : List Code) :
    trailingEscapes (c :: rest) =
      if trailingEscapes rest = rest.length ∧ c = '\\' then rest.length + 1
      else trailingEscapes rest := by
  unfold trailingEscapes
  rw [List.reverse_cons, List.takeWhile_append, List.length_reverse]
  by_cases isAll : (rest.reverse.takeWhile (· = .char '\\')).length = rest.length
  · by_cases isEscape : c = '\\' <;> simp [isAll, isEscape]
  · simp [isAll]

/-- Characters other than backslashes do not count. -/
theorem trailingEscapes_plain {c : Code} (notEscape : c ≠ '\\') (rest : List Code) :
    trailingEscapes (c :: rest) = trailingEscapes rest := by
  rw [trailingEscapes_cons, if_neg fun both => notEscape both.2]

/-- A pair at the beginning of a text does not make the number odd or even. -/
theorem isOdd_trailingEscapes_pair (c : Code) (rest : List Code) :
    isOdd (trailingEscapes (.char '\\' :: c :: rest)) = isOdd (trailingEscapes rest) := by
  have few := trailingEscapes_le_length rest
  by_cases isAll : trailingEscapes rest = rest.length ∧ c = '\\'
  · have afterFirst : trailingEscapes (c :: rest) = rest.length + 1 := by
      rw [trailingEscapes_cons, if_pos isAll]
    have whole : trailingEscapes (.char '\\' :: c :: rest) = rest.length + 2 := by
      rw [trailingEscapes_cons, afterFirst, List.length_cons, if_pos ⟨rfl, rfl⟩]
    rw [whole, isAll.1, isOdd_succ, isOdd_succ, Bool.not_not]
  · have afterFirst : trailingEscapes (c :: rest) = trailingEscapes rest := by
      rw [trailingEscapes_cons, if_neg isAll]
    rw [trailingEscapes_cons, afterFirst, List.length_cons, if_neg (by omega)]

/-- The number of backslashes at the end of a body is even. -/
theorem isOdd_trailingEscapes_of_isBody {body : List Code} (isBody : IsBody body) :
    isOdd (trailingEscapes body) = false := by
  induction isBody with
  | nil => rfl
  | pair c isBody inductionHypothesis =>
      rw [isOdd_trailingEscapes_pair, inductionHypothesis]
  | plain notEscape notDelimiter isBody inductionHypothesis =>
      rw [trailingEscapes_plain notEscape, inductionHypothesis]

/-! ## Escaping -/

/-- What follows a body is escaped on its own. -/
theorem escapeDelimiters_append {body : List Code} (isBody : IsBody body)
    (rest : List Code) :
    escapeDelimiters (body ++ rest) = body ++ escapeDelimiters rest := by
  induction isBody with
  | nil => rfl
  | pair c isBody inductionHypothesis =>
      rw [List.cons_append, List.cons_append, escapeDelimiters, inductionHypothesis]
      rfl
  | plain notEscape notDelimiter isBody inductionHypothesis =>
      rw [List.cons_append, escapeDelimiters, if_neg notDelimiter, inductionHypothesis]
      · rfl
      · intro d others isEscape
        exact absurd isEscape notEscape

/-- Two bodies one after the other are a body. -/
theorem IsBody.append {first second : List Code} (isBody : IsBody first)
    (isBodyToo : IsBody second) : IsBody (first ++ second) := by
  induction isBody with
  | nil => exact isBodyToo
  | pair c isBody inductionHypothesis => exact .pair c inductionHypothesis
  | plain notEscape notDelimiter isBody inductionHypothesis =>
      exact .plain notEscape notDelimiter inductionHypothesis

/-- Escaping a text gives a body, and after it a backslash if an odd
number of them ends the text. -/
theorem exists_body_of_escapeDelimiters (text : List Code) :
    ∃ body, IsBody body ∧
      escapeDelimiters text = body ++
        if isOdd (trailingEscapes text) then [.char '\\'] else [] := by
  induction text using escapeDelimiters.induct with
  | case1 c rest inductionHypothesis =>
      obtain ⟨body, isBody, escaped⟩ := inductionHypothesis
      refine ⟨.char '\\' :: c :: body, .pair c isBody, ?_⟩
      rw [escapeDelimiters, escaped, isOdd_trailingEscapes_pair]
      rfl
  | case2 rest notPair inductionHypothesis =>
      obtain ⟨body, isBody, escaped⟩ := inductionHypothesis
      refine ⟨.char '\\' :: .char '/' :: body, .pair '/' isBody, ?_⟩
      rw [escapeDelimiters, if_pos rfl, escaped, trailingEscapes_plain (by decide)]
      · rfl
      · exact notPair
  | case3 c rest notPair notDelimiter inductionHypothesis =>
      obtain ⟨body, isBody, escaped⟩ := inductionHypothesis
      by_cases isEscape : c = '\\'
      · -- Nothing follows a backslash that takes nothing along.
        subst isEscape
        cases rest with
        | nil => exact ⟨[], .nil, rfl⟩
        | cons d others => exact absurd rfl (notPair d others rfl)
      · refine ⟨c :: body, .plain isEscape notDelimiter isBody, ?_⟩
        rw [escapeDelimiters, if_neg notDelimiter, escaped,
          trailingEscapes_plain isEscape]
        · rfl
        · exact notPair
  | case4 => exact ⟨[], .nil, rfl⟩

/-- Escaping twice is escaping once. -/
theorem escapeDelimiters_escapeDelimiters (text : List Code) :
    escapeDelimiters (escapeDelimiters text) = escapeDelimiters text := by
  obtain ⟨body, isBody, escaped⟩ := exists_body_of_escapeDelimiters text
  rw [escaped, escapeDelimiters_append isBody]
  split
  · rfl
  · rfl

/-- The text of a pattern as the body of a literal with some flags. -/
def ofText (text flags : Text) : Literal :=
  ⟨Text.ofList (escapeDelimiters text.toList), flags⟩

/-- If an even number of backslashes ends a text, its literal is read as itself. -/
theorem isWritten_ofText {text flags : Text}
    (letters : ∀ c ∈ flags.toList, Text.isAsciiLetter c = true)
    (isEven : isOdd (trailingEscapes text.toList) = false) :
    (ofText text flags).IsWritten := by
  obtain ⟨body, isBody, escaped⟩ := exists_body_of_escapeDelimiters text.toList
  refine ⟨?_, letters⟩
  rw [ofText, Text.toList_ofList, escaped, isEven]
  simpa using isBody

/-- Letters can stand in the body of a literal. -/
theorem isBody_of_letters {flags : List Code}
    (letters : ∀ c ∈ flags, Text.isAsciiLetter c = true) : IsBody flags := by
  induction flags with
  | nil => exact .nil
  | cons c rest inductionHypothesis =>
      rw [List.forall_mem_cons] at letters
      refine .plain ?_ ?_ (inductionHypothesis letters.2)
      · rintro rfl
        exact absurd letters.1 (by decide)
      · rintro rfl
        exact absurd letters.1 (by decide)

/-- If an odd number of backslashes ends a text, everything after the first
slash of its literal is body. -/
theorem exists_body_of_isOdd {text flags : Text}
    (letters : ∀ c ∈ flags.toList, Text.isAsciiLetter c = true)
    (odd : isOdd (trailingEscapes text.toList) = true) :
    ∃ body, IsBody body ∧ (ofText text flags).source.toList = .char '/' :: body := by
  obtain ⟨body, isBody, escaped⟩ := exists_body_of_escapeDelimiters text.toList
  refine ⟨body ++ .char '\\' :: .char '/' :: flags.toList,
    isBody.append (.pair '/' (isBody_of_letters letters)), ?_⟩
  rw [toList_source, ofText, Text.toList_ofList, escaped, odd]
  simp

end Literal

/-- A literal that does not end is at fault at the end of the text. -/
theorem parse_of_unterminated {text : Text} {body : List Code}
    (isBody : Literal.IsBody body)
    (opened : text.toList = .char '/' :: body) (values : List Value) :
    parse text values = .error ⟨.unterminatedLiteral, text.length, text⟩ := by
  have isOpen : Scan.start.step '/' = .ok { Scan.start with mode := .body [] } := rfl
  have isRead : Scan.start.readText text.toList =
      .ok { Scan.start with mode := .body body.reverse } := by
    rw [opened, Scan.readText_cons_of_step isOpen, ← List.append_nil body,
      Scan.readText_inBody isBody]
    simp
  rw [parse, ← List.append_nil text.toList, scanText_append_of_readText _ isRead]
  simp [scanText, Scan.finish, Place.start, Place.position, Place.textWith,
    Text.length_toList]

/-! ## The round trip -/

/-- The text of a literal gives back the literal. Escaping the slashes of a pattern a
second time changes nothing. The literal of a pattern with its slashes escaped is parsed
as this literal alone if the number of backslashes at the end of the pattern is even,
and does not end if it is odd. And every literal in what an expression is parsed as, at
whatever depth and be it that of a key, has a body whose slashes are escaped and an even
number of backslashes at its end, and its text is parsed as this literal alone. -/
theorem literal_text_round_trips :
    (∀ text, Literal.escapeDelimiters (Literal.escapeDelimiters text) =
      Literal.escapeDelimiters text) ∧
    (∀ (text flags : Text) (values : List Value),
      (∀ c ∈ flags.toList, Text.isAsciiLetter c = true) →
      (isOdd (Literal.trailingEscapes text.toList) = false →
        parse (Literal.ofText text flags).source values =
          .ok ⟨[{ Alternative.blank with literal := some (.ofText text flags) }],
            (Literal.ofText text flags).source⟩) ∧
      (isOdd (Literal.trailingEscapes text.toList) = true →
        parse (Literal.ofText text flags).source values =
          .error ⟨.unterminatedLiteral, (Literal.ofText text flags).source.length,
            (Literal.ofText text flags).source⟩)) ∧
    ∀ (expression : Text) (values : List Value) (parsed : Parsed),
      parse expression values = .ok parsed →
      ∀ written ∈ Alternative.literalsOfAll parsed.alternatives,
        Literal.escapeDelimiters written.body.toList = written.body.toList ∧
          isOdd (Literal.trailingEscapes written.body.toList) = false ∧
          ∀ others, parse written.source others =
            .ok ⟨[{ Alternative.blank with literal := some written }],
              written.source⟩ := by
  refine ⟨Literal.escapeDelimiters_escapeDelimiters, ?_, ?_⟩
  · intro text flags values letters
    constructor
    · intro isEven
      exact parse_source (Literal.isWritten_ofText letters isEven) values
    · intro odd
      obtain ⟨body, isBody, opened⟩ := Literal.exists_body_of_isOdd letters odd
      exact parse_of_unterminated isBody opened values
  · intro expression values parsed isParsed written isThere
    rw [Alternative.literalsOfAll_eq, List.mem_flatMap] at isThere
    obtain ⟨node, isNode, isInside⟩ := isThere
    have isWritten := (isRegular_of_parse isParsed node isNode).isWritten written isInside
    exact ⟨Literal.escapeDelimiters_of_isBody isWritten.isBody,
      Literal.isOdd_trailingEscapes_of_isBody isWritten.isBody, parse_source isWritten⟩

/-- A pattern with a slash and a pair of backslashes at its end, one with a lone
backslash there, and a literal that is the type of an item. -/
theorem literal_text_round_trips_item :
    (∀ c ∈ Text.toList "i", Text.isAsciiLetter c = true) ∧
      isOdd (Literal.trailingEscapes (Text.toList "a/\\\\")) = false ∧
      parse (Literal.ofText "a/\\\\" "i").source [] = .ok
        ⟨[{ Alternative.blank with literal := some (.ofText "a/\\\\" "i") }],
          (Literal.ofText "a/\\\\" "i").source⟩ ∧
      isOdd (Literal.trailingEscapes (Text.toList "a\\")) = true ∧
      parse (Literal.ofText "a\\" "i").source [] =
        .error ⟨.unterminatedLiteral, (Literal.ofText "a\\" "i").source.length,
          (Literal.ofText "a\\" "i").source⟩ ∧
      ∃ parsed, parse "arr</a\\/b/i>" [] = .ok parsed ∧
        ⟨"a\\/b", "i"⟩ ∈ Alternative.literalsOfAll parsed.alternatives ∧
        parse (Literal.mk "a\\/b" "i").source [] =
          .ok ⟨[{ Alternative.blank with literal := some ⟨"a\\/b", "i"⟩ }],
            (Literal.mk "a\\/b" "i").source⟩ := by
  have letters : ∀ c ∈ Text.toList "i", Text.isAsciiLetter c = true := by
    intro c isLetter
    obtain rfl := List.mem_singleton.mp isLetter
    rfl
  have isEven : isOdd (Literal.trailingEscapes (Text.toList "a/\\\\")) =
      false := by decide
  have odd : isOdd (Literal.trailingEscapes (Text.toList "a\\")) = true := by decide
  have isRead : (parse "arr</a\\/b/i>" []).map
      (fun parsed => Alternative.literalsOfAll parsed.alternatives) =
        .ok [⟨"a\\/b", "i"⟩] := by
    decide +kernel
  obtain ⟨parsed, isParsed, isOnly⟩ := Outcome.map_eq_ok_iff.mp isRead
  have isThere : ⟨"a\\/b", "i"⟩ ∈ Alternative.literalsOfAll parsed.alternatives := by
    rw [isOnly]
    exact List.mem_singleton_self _
  refine ⟨letters, isEven,
    (literal_text_round_trips.2.1 "a/\\\\" "i" [] letters).1 isEven, odd,
    (literal_text_round_trips.2.1 "a\\" "i" [] letters).2 odd, parsed, isParsed,
      isThere, ?_⟩
  exact (literal_text_round_trips.2.2 "arr</a\\/b/i>" [] parsed isParsed _ isThere).2.2 []

end KindExpr
