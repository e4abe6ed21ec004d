import KindExpr.Proofs.Check.Denotation
import KindExpr.Proofs.Expr.Derivation
import KindExpr.Proofs.Expr.Expansion

/-!
# Alternatives that parsing gives

Built by hand an alternative can hold anything: a type name beside a literal, a
negated key that is not declared, a literal with a slash in its body. Parsing gives
regular alternatives only. They are put together from a key that may be absent, an
atom of their own and regular members, and an atom is either a type name or a
literal that is read as itself.

That this is so can be read off the derivation of the text in which
the placeholders are replaced.
-/

namespace KindExpr

/-- Whether an atom is a type name, or a literal that is read as itself. -/
inductive Atom.IsRegular : Atom → Prop
  | name (negated : Bool) {name : List Code}
      (notEmpty : name ≠ [])
      (nameChars : ∀ c ∈ name, Scan.isNameChar c = true) :
      IsRegular ⟨negated, Text.ofList name, none⟩
  | literal (negated : Bool) {written : Literal} (isWritten : written.IsWritten) :
      IsRegular ⟨negated, "", some written⟩

/-- Whether an alternative is put together from regular parts. -/
inductive Alternative.IsRegular : Alternative → Prop
  | ofParts {key : Option Atom} {own : Atom} {members : List Alternative}
      (keyRegular : ∀ atom ∈ key, atom.IsRegular)
      (ownRegular : own.IsRegular)
      (membersRegular : ∀ member ∈ members, IsRegular member) :
      IsRegular (.ofParts key own members)

/-- A regular alternative can be given other regular members. -/
theorem Alternative.IsRegular.withMembers {node : Alternative} (regular : node.IsRegular)
    {members : List Alternative} (membersRegular : ∀ member ∈ members, member.IsRegular) :
    ({ node with members := members } : Alternative).IsRegular := by
  cases regular with
  | ofParts keyRegular ownRegular oldRegular =>
      exact .ofParts keyRegular ownRegular membersRegular

/-! ## Literals of a text -/

/-- Whether the literals among some symbols are read as themselves. -/
def AreWritten (symbols : List Symbol) : Prop :=
  ∀ written, .literal written ∈ symbols → written.IsWritten

theorem areWritten_append {first second : List Symbol} :
    AreWritten (first ++ second) ↔ AreWritten first ∧ AreWritten second := by
  simp only [AreWritten, List.mem_append, or_imp, forall_and]

/-- The literals that a text spells are read as themselves. -/
theorem Spells.areWritten {text : List Code} {symbols : List Symbol}
    (spells : Spells text symbols) : AreWritten symbols := by
  intro written isThere
  induction spells with
  | nil => cases isThere
  | blank isBlank spells inductionHypothesis => exact inductionHypothesis isThere
  | mark notBlank notDelimiter spells inductionHypothesis =>
      rcases List.mem_cons.mp isThere with isMark | isLater
      · cases isMark
      · exact inductionHypothesis isLater
  | literal isBody letters flagsEnd spells inductionHypothesis =>
      rcases List.mem_cons.mp isThere with isFirst | isLater
      · cases isFirst
        exact ⟨by rwa [Text.toList_ofList], by rwa [Text.toList_ofList]⟩
      · exact inductionHypothesis isLater

/-! ## Words and their trees -/

/-- The atom of a word is regular if the literals in the word are. -/
theorem AtomWord.isRegular {word : List Symbol} {atom : Atom}
    (atomWord : AtomWord word atom)
    (areWritten : AreWritten word) : atom.IsRegular := by
  cases atomWord with
  | name count notEmpty nameChars => exact .name _ notEmpty nameChars
  | literal count written => exact .literal _ (areWritten written (by simp))

/-- An alternative without members is regular if the literals in its word are. -/
theorem HeadWord.isRegular {depth : Nat} {word : List Symbol} {node : Alternative}
    (head : HeadWord depth word node) (areWritten : AreWritten word) :
    node.IsRegular := by
  obtain ⟨declared, named⟩ := head
  obtain ⟨keyWritten, ownWritten⟩ := areWritten_append.mp areWritten
  refine .ofParts (fun atom isKey => ?_) (named.isRegular ownWritten) (by simp)
  cases declared with
  | absent => cases isKey
  | declared nested atomWord =>
      cases isKey
      exact atomWord.isRegular (areWritten_append.mp keyWritten).1

mutual

theorem AlternativeWord.isRegular {depth : Nat} {word : List Symbol} {node : Alternative}
    (alternative : AlternativeWord depth word node) (areWritten : AreWritten word) :
    node.IsRegular :=
  match alternative with
  | .head head => head.isRegular areWritten
  | @AlternativeWord.container _ headWord inner parent members head group => by
      obtain ⟨headWritten, restWritten⟩ := areWritten_append.mp areWritten
      have innerWritten : AreWritten inner := by
        intro written isThere
        exact restWritten written (by simp [isThere])
      exact (head.isRegular headWritten).withMembers (group.isRegular innerWritten)

/-- The alternatives of a word are regular if the literals in the
word are read as themselves. -/
theorem GroupWord.isRegular {depth : Nat} {word : List Symbol} {nodes : List Alternative}
    (group : GroupWord depth word nodes) (areWritten : AreWritten word) :
    ∀ node ∈ nodes, node.IsRegular :=
  match group with
  | .single alternative => by
      intro node isThere
      rw [List.mem_singleton.mp isThere]
      exact alternative.isRegular areWritten
  | @GroupWord.next _ firstWord others first nodes alternative group => by
      obtain ⟨firstWritten, restWritten⟩ := areWritten_append.mp areWritten
      have othersWritten : AreWritten others := by
        intro written isThere
        exact restWritten written (by simp [isThere])
      rw [List.forall_mem_cons]
      exact ⟨alternative.isRegular firstWritten, group.isRegular othersWritten⟩

end

/-! ## Parsing -/

/-- What an expression is parsed as is what its text expresses. -/
theorem expresses_of_parse {expression : Text} {values : List Value} {parsed : Parsed}
    (isParsed : parse expression values = .ok parsed) :
    Expresses parsed.text.toList parsed.alternatives := by
  have parsedAgain : parse parsed.text [] = .ok parsed := by
    obtain ⟨scan, isRead, finished⟩ := exists_readText_of_parse isParsed
    exact parse_without_values_eq_ok_iff.mpr ⟨scan, isRead, finished, rfl⟩
  exact (parse_eq_ok_iff_expresses.mp parsedAgain).1

/-- Parsing gives regular alternatives. -/
theorem isRegular_of_parse {expression : Text} {values : List Value} {parsed : Parsed}
    (isParsed : parse expression values = .ok parsed) :
    ∀ node ∈ parsed.alternatives, node.IsRegular := by
  obtain ⟨symbols, spells, group⟩ := expresses_of_parse isParsed
  exact group.isRegular spells.areWritten

/-- The literals of a regular alternative are read as themselves. -/
theorem Alternative.IsRegular.isWritten {node : Alternative} (regular : node.IsRegular) :
    ∀ written ∈ node.literals, written.IsWritten := by
  -- An atom has a literal of its own, and that is all.
  have ofAtom : ∀ {atom : Atom}, atom.IsRegular → ∀ written ∈ atom.literal,
      written.IsWritten := by
    intro atom atomRegular written isOwn
    cases atomRegular with
    | name negated notEmpty nameChars => cases isOwn
    | literal negated isWritten =>
        cases isOwn
        exact isWritten
  induction regular with
  | ofParts keyRegular ownRegular membersRegular inductionHypothesis =>
      intro written isThere
      rw [Alternative.ofParts, literals, literalsOfAll_eq, List.mem_append,
        List.mem_append,
        List.mem_flatMap, Option.mem_toList, Option.mem_toList] at isThere
      rcases isThere with (isOwn | isKey) | ⟨member, isMember, isInside⟩
      · exact ofAtom ownRegular written isOwn
      · obtain ⟨atom, isAtom, isLiteral⟩ := Option.bind_eq_some_iff.mp isKey
        exact ofAtom (keyRegular atom isAtom) written isLiteral
      · exact inductionHypothesis member isMember written isInside

end KindExpr
