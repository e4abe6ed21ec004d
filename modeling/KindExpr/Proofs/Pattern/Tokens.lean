import KindExpr.Expr.Literal
import KindExpr.Pattern.Cursor
import KindExpr.Proofs.Expr.Spelling

/-!
# Tokens and slashes

The body of a literal holds a pattern in which every slash stands after a backslash.
Both texts have the same tokens, but for the slashes that were not escaped.

A pattern is read token by token, and a cursor never stands before a backslash that ends
the pattern. `Reaches` says how a cursor goes on: it never passes such a backslash.
-/

namespace KindExpr

open Pattern (Token Cursor)

namespace Pattern

/-! ## The tokens of a text -/

/-- The tokens of a text. A backslash that ends the text is plain. -/
def tokensOf : List Code → List Token
  | .char '\\' :: c :: rest => .escaped c :: tokensOf rest
  | c :: rest => .plain c :: tokensOf rest
  | [] => []

/-- A token in the body of a literal. -/
def Token.inBody : Token → Token
  | .plain (.char '/') => .escaped '/'
  | token => token

@[simp] theorem Token.inBody_escaped (c : Code) : inBody (.escaped c) = .escaped c := rfl

theorem Token.inBody_plain {c : Code} (notDelimiter : c ≠ '/') :
    inBody (.plain c) = .plain c := by
  rw [inBody]
  intro isDelimiter
  exact notDelimiter (Token.plain.inj isDelimiter)

/-- The tokens of a body that are plain are so in the pattern, and no slashes. -/
theorem Token.inBody_eq_plain_iff {token : Token} {c : Code} :
    token.inBody = .plain c ↔ token = .plain c ∧ c ≠ '/' := by
  cases token with
  | escaped d => simp
  | plain d =>
      by_cases isDelimiter : d = '/'
      · subst isDelimiter
        simp [inBody, eq_comm]
      · rw [inBody_plain isDelimiter, plain.injEq, iff_self_and]
        rintro rfl
        exact isDelimiter

/-- Only a plain slash is another token in a body. -/
theorem Token.eq_delimiter_or_inBody_eq (token : Token) :
    token = .plain '/' ∨ token.inBody = token := by
  cases token with
  | escaped c => exact .inr rfl
  | plain c =>
      by_cases isDelimiter : c = '/'
      · exact .inl (by rw [isDelimiter])
      · exact .inr (inBody_plain isDelimiter)

/-- A plain character other than the slash is ahead in a body if
it is ahead in the pattern. -/
theorem head?_map_inBody_eq_plain_iff {tokens : List Token} {c : Code}
    (notDelimiter : c ≠ '/') :
    (tokens.map Token.inBody).head? = some (.plain c) ↔
      tokens.head? = some (.plain c) := by
  cases tokens with
  | nil => simp
  | cons token rest => simp [Token.inBody_eq_plain_iff, notDelimiter]

@[simp] theorem tokensOf_nil : tokensOf [] = [] := rfl

@[simp] theorem tokensOf_pair (c : Code) (rest : List Code) :
    tokensOf (.char '\\' :: c :: rest) = .escaped c :: tokensOf rest := rfl

theorem tokensOf_plain {c : Code} {rest : List Code}
    (notPair : ∀ (d : Code) (others : List Code), c = '\\' → rest = d :: others → False) :
    tokensOf (c :: rest) = .plain c :: tokensOf rest := by
  rw [tokensOf]
  exact notPair

/-- A text has no tokens only if it is empty. -/
theorem tokensOf_eq_nil_iff {text : List Code} : tokensOf text = [] ↔ text = [] := by
  cases text using tokensOf.induct with
  | case1 c rest ih => simp
  | case2 c rest notPair ih => simp [tokensOf_plain notPair]
  | case3 => simp

/-- Only a backslash at the end of a text is a plain token. -/
theorem tokensOf_eq_lone_iff {text : List Code} :
    tokensOf text = [.plain '\\'] ↔ text = [.char '\\'] := by
  cases text using tokensOf.induct with
  | case1 c rest ih => simp
  | case2 c rest notPair ih => simp [tokensOf_plain notPair, tokensOf_eq_nil_iff]
  | case3 => simp

/-- Escaping the slashes of a pattern leaves its tokens, but for these. -/
theorem tokensOf_escapeDelimiters (text : List Code) :
    tokensOf (Literal.escapeDelimiters text) = (tokensOf text).map Token.inBody := by
  induction text using tokensOf.induct with
  | case1 c rest inductionHypothesis =>
      rw [Literal.escapeDelimiters, tokensOf_pair, tokensOf_pair, inductionHypothesis,
        List.map_cons, Token.inBody_escaped]
  | case2 c rest notPair inductionHypothesis =>
      rw [Literal.escapeDelimiters, tokensOf_plain notPair, List.map_cons,
        ← inductionHypothesis]
      · split
        · rename_i isDelimiter
          rw [isDelimiter, tokensOf_pair]
          rfl
        · rename_i notDelimiter
          rw [Token.inBody_plain notDelimiter, tokensOf_plain]
          intro d others isEscape equal
          cases rest with
          | nil => cases equal
          | cons e later => exact notPair e later isEscape rfl
      · exact notPair
  | case3 => rfl

end Pattern

/-! ## Bodies of literals -/

namespace Literal

/-- The text of a pattern that does not end with a lone backslash
becomes the body of a literal. -/
theorem isBody_escapeDelimiters {text : List Code}
    (notLone : .plain '\\' ∉ Pattern.tokensOf text) : IsBody (escapeDelimiters text) := by
  induction text using Pattern.tokensOf.induct with
  | case1 c rest inductionHypothesis =>
      rw [Pattern.tokensOf_pair, List.mem_cons, not_or] at notLone
      exact .pair c (inductionHypothesis notLone.2)
  | case2 c rest notPair inductionHypothesis =>
      rw [Pattern.tokensOf_plain notPair, List.mem_cons, not_or] at notLone
      have isBody := inductionHypothesis notLone.2
      rw [escapeDelimiters]
      · split
        · exact .pair '/' isBody
        · rename_i notDelimiter
          exact .plain (fun isEscape => notLone.1 (by rw [isEscape])) notDelimiter isBody
      · exact notPair
  | case3 => exact .nil

/-- In the body of a literal there is no slash to escape. -/
theorem escapeDelimiters_of_isBody {body : List Code} (isBody : IsBody body) :
    escapeDelimiters body = body := by
  induction isBody with
  | nil => rfl
  | pair c isBody inductionHypothesis => rw [escapeDelimiters, inductionHypothesis]
  | plain notEscape notDelimiter isBody inductionHypothesis =>
      rw [escapeDelimiters, if_neg notDelimiter, inductionHypothesis]
      intro d others isEscape
      exact absurd isEscape notEscape

end Literal

namespace Pattern

/-! ## How a cursor goes on -/

/-- Whether a cursor can go on from some tokens to others without passing a backslash
that ends the pattern. -/
structure Reaches (tokens later : List Token) : Prop where
  isSuffix : later <:+ tokens
  notPassed : tokens.getLast? = some (.plain '\\') → later ≠ []

namespace Reaches

variable {tokens later last : List Token}

theorem refl (tokens : List Token) : Reaches tokens tokens := by
  refine ⟨List.suffix_rfl, fun isLone isEmpty => ?_⟩
  rw [isEmpty] at isLone
  cases isLone

theorem trans (first : Reaches tokens later) (second : Reaches later last) :
    Reaches tokens last := by
  refine ⟨second.isSuffix.trans first.isSuffix, fun isLone => second.notPassed ?_⟩
  obtain ⟨before, rfl⟩ := first.isSuffix
  have notEmpty := first.notPassed isLone
  rw [List.getLast?_append, List.getLast?_eq_some_getLast notEmpty,
    Option.some_or] at isLone
  rw [List.getLast?_eq_some_getLast notEmpty, isLone]

/-- One token is passed. -/
theorem cons {token : Token} (notLone : token :: tokens ≠ [.plain '\\']) :
    Reaches (token :: tokens) tokens := by
  refine ⟨List.suffix_cons token tokens, fun isLone isEmpty => notLone ?_⟩
  subst isEmpty
  rw [List.getLast?_singleton, Option.some.injEq] at isLone
  rw [isLone]

theorem length_le (reaches : Reaches tokens later) : later.length ≤ tokens.length :=
  reaches.isSuffix.length_le

end Reaches

namespace Cursor

/-- There is a cursor everywhere but before a lone backslash. -/
theorem at?_eq_ok_iff {rest : List Code} {position : Nat} {cursor : Cursor} :
    at? rest position = .ok cursor ↔ tokensOf rest ≠ [.plain '\\'] ∧
      cursor = ⟨rest, position⟩ := by
  rw [ne_eq, tokensOf_eq_lone_iff]
  by_cases isLone : rest = [.char '\\']
  · simp [at?, isLone]
  · simp [at?, isLone, eq_comm]

/-- The token ahead is the first one that is left. -/
theorem peek_eq_head? (cursor : Cursor) : cursor.peek = (tokensOf cursor.rest).head? := by
  obtain ⟨rest, position⟩ := cursor
  cases rest using tokensOf.induct with
  | case1 c rest ih => rfl
  | case2 c rest notPair ih =>
      rw [tokensOf_plain notPair]
      simp only [peek, List.head?_cons]
  | case3 => rfl

/-- Moving past a token leaves the other ones. -/
theorem advance_eq_ok {cursor next : Cursor} (advanced : cursor.advance = .ok next) :
    tokensOf next.rest = (tokensOf cursor.rest).tail ∧
      (tokensOf cursor.rest).tail ≠ [.plain '\\'] := by
  obtain ⟨rest, position⟩ := cursor
  cases rest using tokensOf.induct with
  | case1 c rest ih =>
      obtain ⟨notLone, rfl⟩ := at?_eq_ok_iff.mp advanced
      exact ⟨rfl, notLone⟩
  | case2 c rest notPair ih =>
      simp only [advance] at advanced
      obtain ⟨notLone, rfl⟩ := at?_eq_ok_iff.mp advanced
      rw [tokensOf_plain notPair]
      exact ⟨rfl, notLone⟩
  | case3 =>
      cases advanced
      exact ⟨rfl, (List.cons_ne_nil _ _).symm⟩

/-- A cursor moves past a token if no lone backslash comes after it. -/
theorem exists_advance_eq_ok {cursor : Cursor}
    (notLone : (tokensOf cursor.rest).tail ≠ [.plain '\\']) :
    ∃ next, cursor.advance = .ok next := by
  obtain ⟨rest, position⟩ := cursor
  cases rest using tokensOf.induct with
  | case1 c rest ih => exact ⟨_, at?_eq_ok_iff.mpr ⟨notLone, rfl⟩⟩
  | case2 c rest notPair ih =>
      rw [tokensOf_plain notPair] at notLone
      simp only [advance]
      exact ⟨_, at?_eq_ok_iff.mpr ⟨notLone, rfl⟩⟩
  | case3 => exact ⟨_, rfl⟩

/-! ## Two cursors side by side -/

/-- Whether a text is another one, up to a backslash before each slash. -/
structure IsSpelled (text other : List Code) : Prop where
  eq_nil_iff : other = [] ↔ text = []
  eq_of_no_delimiter : Code.char '/' ∉ text → other = text

/-- The characters of a token are spelled by those it has in the body of a literal. -/
theorem IsSpelled.cons {text other : List Code} (spelled : IsSpelled text other)
    (token : Token) :
    IsSpelled (token.chars ++ text) (token.inBody.chars ++ other) := by
  have notEmpty : ∀ some : Token, some.chars ≠ [] := by
    intro some
    cases some <;> simp [Token.chars]
  constructor
  · simp [notEmpty]
  · intro noDelimiter
    rw [List.mem_append, not_or] at noDelimiter
    have sameToken : token.inBody = token := by
      cases token with
      | escaped c => rfl
      | plain c =>
          refine Token.inBody_plain fun isDelimiter => noDelimiter.1 ?_
          rw [isDelimiter]
          exact List.mem_singleton_self _
    rw [sameToken, spelled.eq_of_no_delimiter noDelimiter.2]

/-- Whether two cursors are at the same token, one in a pattern and the other in the
body of a literal that holds it. -/
structure IsBeside (tokens : List Token) (cursor other : Cursor) : Prop where
  tokens_eq : tokensOf cursor.rest = tokens
  otherTokens_eq : tokensOf other.rest = tokens.map Token.inBody
  notLone : tokens ≠ [.plain '\\']

namespace IsBeside

variable {tokens : List Token} {cursor other next : Cursor}

theorem peek (beside : IsBeside tokens cursor other) :
    cursor.peek = tokens.head? ∧ other.peek = (tokens.map Token.inBody).head? := by
  rw [peek_eq_head?, peek_eq_head?, beside.tokens_eq, beside.otherTokens_eq]
  exact ⟨rfl, rfl⟩

/-- A backslash that ends the body of a literal ends the pattern. -/
theorem map_inBody_eq_lone_iff :
    tokens.map Token.inBody = [.plain '\\'] ↔ tokens = [.plain '\\'] := by
  constructor
  · intro isLone
    obtain ⟨token, rfl, isBackslash⟩ := List.map_eq_singleton_iff.mp isLone
    rw [(Token.inBody_eq_plain_iff.mp isBackslash).1]
  · rintro rfl
    rfl

/-- Two cursors move on together. -/
theorem advance (beside : IsBeside tokens cursor other)
    (advanced : cursor.advance = .ok next) :
    ∃ second, other.advance = .ok second ∧ IsBeside tokens.tail next second ∧
      Reaches tokens tokens.tail := by
  obtain ⟨nextTokens, notLone⟩ := advance_eq_ok advanced
  rw [beside.tokens_eq] at nextTokens notLone
  have otherTail : (tokensOf other.rest).tail = tokens.tail.map Token.inBody := by
    rw [beside.otherTokens_eq, List.map_tail]
  obtain ⟨second, otherAdvanced⟩ : ∃ second, other.advance = .ok second := by
    refine exists_advance_eq_ok ?_
    rw [otherTail, ne_eq, map_inBody_eq_lone_iff]
    exact notLone
  refine ⟨second, otherAdvanced, ⟨nextTokens, ?_, notLone⟩, ?_⟩
  · rw [(advance_eq_ok otherAdvanced).1, otherTail]
  · cases tokens with
    | nil => exact .refl []
    | cons token rest => exact .cons beside.notLone

/-- Two cursors collect the same text if there is no slash in it. -/
theorem collect {terminator : Code} (notDelimiter : terminator ≠ '/') {bound second : Nat}
    (isBelow : tokens.length < bound) (isBelowToo : tokens.length < second)
    (beside : IsBeside tokens cursor other) {text : List Code} {found : Bool}
    (collected : Cursor.collect terminator bound cursor = .ok (text, found, next)) :
    ∃ otherText last later, Cursor.collect terminator second other =
      .ok (otherText, found, last) ∧
      IsSpelled text otherText ∧ IsBeside later next last ∧ Reaches tokens later := by
  induction bound generalizing tokens cursor other second text with
  | zero => nomatch isBelow
  | succ bound inductionHypothesis =>
      obtain ⟨second, rfl⟩ : ∃ less, second = less + 1 := ⟨second - 1, by omega⟩
      obtain ⟨peeked, otherPeeked⟩ := beside.peek
      cases tokens with
      | nil =>
          simp only [Cursor.collect, peeked, List.head?_nil, Except.ok.injEq,
            Prod.mk.injEq] at collected
          obtain ⟨rfl, rfl, rfl⟩ := collected
          exact ⟨[], other, [], by simp [Cursor.collect, otherPeeked],
            ⟨Iff.rfl, fun _ => rfl⟩,
            beside, .refl []⟩
      | cons token rest =>
          simp only [Cursor.collect, peeked, List.head?_cons] at collected
          cases advanced : cursor.advance with
          | error failure => simp [advanced] at collected
          | ok middle =>
              obtain ⟨otherMiddle, otherAdvanced, besideMiddle, reaches⟩ :=
                beside.advance advanced
              simp only [advanced] at collected
              by_cases isEnd : token = .plain terminator
              · have isEndToo : token.inBody = .plain terminator :=
                  Token.inBody_eq_plain_iff.mpr ⟨isEnd, notDelimiter⟩
                rw [if_pos isEnd] at collected
                cases collected
                exact ⟨[], otherMiddle, rest, by
                  simp [Cursor.collect, otherPeeked, otherAdvanced, isEndToo],
                  ⟨Iff.rfl, fun _ => rfl⟩, besideMiddle, reaches⟩
              · have noEndToo : token.inBody ≠ .plain terminator :=
                  fun isEndToo => isEnd (Token.inBody_eq_plain_iff.mp isEndToo).1
                rw [if_neg isEnd] at collected
                cases further : Cursor.collect terminator bound middle with
                | error failure => simp [further] at collected
                | ok result =>
                    obtain ⟨others, isFound, last⟩ := result
                    simp only [further, Except.ok.injEq, Prod.mk.injEq] at collected
                    obtain ⟨rfl, rfl, rfl⟩ := collected
                    obtain ⟨otherText, otherLast, later, otherFurther,
                        spelled, besideLast,
                        reachesLast⟩ :=
                      inductionHypothesis (Nat.lt_of_succ_lt_succ isBelow)
                        (Nat.lt_of_succ_lt_succ isBelowToo) besideMiddle further
                    exact ⟨token.inBody.chars ++ otherText, otherLast, later, by
                      simp [Cursor.collect, otherPeeked, otherAdvanced, noEndToo,
                        otherFurther],
                      spelled.cons token, besideLast, reaches.trans reachesLast⟩

/-- There are no more tokens than characters. -/
theorem length_le (text : List Code) : (tokensOf text).length ≤ text.length := by
  induction text using tokensOf.induct with
  | case1 c rest inductionHypothesis => simp; omega
  | case2 c rest notPair inductionHypothesis =>
      rw [tokensOf_plain notPair]
      simpa using inductionHypothesis
  | case3 => simp

/-- Two cursors collect the same text up to a terminator if there is no slash in it. -/
theorem upTo {terminator : Code} (notDelimiter : terminator ≠ '/')
    (beside : IsBeside tokens cursor other) {text : List Code} {found : Bool}
    (collected : cursor.upTo terminator = .ok (text, found, next)) :
    ∃ otherText last later, other.upTo terminator = .ok (otherText, found, last) ∧
      IsSpelled text otherText ∧ IsBeside later next last ∧ Reaches tokens later := by
  refine beside.collect notDelimiter ?_ ?_ collected
  · have few := length_le cursor.rest
    rw [beside.tokens_eq] at few
    exact Nat.lt_succ_of_le few
  · have few := length_le other.rest
    rw [beside.otherTokens_eq, List.length_map] at few
    exact Nat.lt_succ_of_le few

end IsBeside
end Cursor
end Pattern
end KindExpr
