import KindExpr.Error
import KindExpr.Proofs.Expr.Grammar

/-!
# Derivations behind a scan

Whatever symbols a scan has accepted, they are the beginning of a word of the grammar,
and the scan holds the trees of its finished parts. `Reached` states this for a scan in
which an alternative is being written: what stands before that alternative, and what is
written of it. One symbol preserves it, so every accepted text is derived.

The main result says that an expression without placeholders is parsed exactly when the
grammar derives it, and that every other text is malformed.
-/

namespace KindExpr

/-! ## What is written of an alternative -/

/-- What can be written of an alternative: a key and some negations, or all of it. -/
inductive Begun (depth : Nat) : List Symbol → Alternative → Prop
  | opened {keyWord : List Symbol} {key : Option Atom}
      (declared : KeyWord depth keyWord key)
      (count : Nat) :
      Begun depth (keyWord ++ negations count) (.ofParts key (.unnamed (isOdd count)) [])
  | written {word : List Symbol} {node : Alternative}
      (alternative : AlternativeWord depth word node) :
      Begun depth word node

/-- Groups are not empty. -/
theorem GroupWord.ne_nil {depth : Nat} {word : List Symbol} {nodes : List Alternative}
    (group : GroupWord depth word nodes) : nodes ≠ [] := by
  cases group with
  | single alternative => simp
  | next alternative group => simp

namespace Begun

variable {depth : Nat} {word : List Symbol} {node : Alternative}

theorem blank : Begun depth [] .blank :=
  .opened .absent 0

/-- An alternative with content is written in full. -/
theorem alternativeWord (begun : Begun depth word node)
    (content : node.hasContent = true) :
    AlternativeWord depth word node := by
  cases begun with
  | opened declared count =>
      rw [Alternative.hasContent_ofParts, Atom.hasContent_unnamed] at content
      cases content
  | written alternative => exact alternative

/-- An alternative with content and without members is a head. -/
theorem headWord (begun : Begun depth word node) (content : node.hasContent = true)
    (noMembers : node.members = []) : HeadWord depth word node := by
  cases begun.alternativeWord content with
  | head head => exact head
  | container head group => exact absurd noMembers group.ne_nil

/-- One more negation. -/
theorem negate (begun : Begun depth word node) (noContent : node.hasContent = false) :
    Begun depth (word ++ [.mark '!']) { node with negated := !node.negated } := by
  cases begun with
  | @opened keyWord key declared count =>
      have another := Begun.opened declared (count + 1)
      rw [negations_succ, isOdd_succ, ← List.append_assoc] at another
      exact another
  | written alternative =>
      rw [alternative.hasContent] at noContent
      cases noContent

/-- One more character of a type name. -/
theorem pushName (begun : Begun depth word node) {c : Code}
    (isName : Scan.isNameChar c = true)
    (noLiteral : node.literal = none)
    (noMembers : node.members = []) :
    Begun depth (word ++ [.mark c]) { node with name := node.name.push c } := by
  have single : Text.push "" c = Text.ofList [c] := rfl
  cases begun with
  | @opened keyWord key declared count =>
      have nameChars : ∀ d ∈ [c], Scan.isNameChar d = true := by simpa using isName
      have named := AtomWord.name count (by simp) nameChars
      have head := HeadWord.intro declared named
      rw [← single, ← List.append_assoc] at head
      exact .written (.head head)
  | written alternative =>
      have head := headWord (.written alternative) alternative.hasContent noMembers
      obtain ⟨declared, named⟩ := head
      cases named with
      | literal count written => cases noLiteral
      | @name name count notEmpty nameChars =>
          have longer : ∀ d ∈ name ++ [c], Scan.isNameChar d = true := by
            intro d present
            rcases List.mem_append.mp present with earlier | latest
            · exact nameChars d earlier
            · rw [List.mem_singleton.mp latest, isName]
          have named := AtomWord.name count (by simp) longer
          have pushed : Text.ofList (name ++ [c]) = (Text.ofList name).push c := rfl
          have head := HeadWord.intro declared named
          rw [pushed, List.map_append, ← List.append_assoc, ← List.append_assoc] at head
          rw [← List.append_assoc]
          exact .written (.head head)

/-- A literal in an alternative without content. -/
theorem setLiteral (begun : Begun depth word node) (noContent : node.hasContent = false)
    (written : Literal) :
    Begun depth (word ++ [.literal written]) { node with literal := some written } := by
  cases begun with
  | opened declared count =>
      have head := HeadWord.intro declared (AtomWord.literal count written)
      rw [← List.append_assoc] at head
      exact .written (.head head)
  | written alternative =>
      rw [alternative.hasContent] at noContent
      cases noContent

/-- What is written becomes the key. -/
theorem declareKey (begun : Begun depth word node) (content : node.hasContent = true)
    (nested : 1 ≤ depth)
    (noKey : node.key = none)
    (noMembers : node.members = []) :
    Begun depth (word ++ [.mark ':']) (Scan.declareKey node) := by
  obtain ⟨declared, named⟩ := begun.headWord content noMembers
  cases declared with
  | absent =>
      have opened := Begun.opened (KeyWord.declared nested named) 0
      rw [negations_zero, List.append_nil] at opened
      exact opened
  | declared nested atomWord => cases noKey

end Begun

/-! ## What stands before an alternative -/

/-- What can stand before an alternative: the finished alternatives of its list, and
before that the lists around it, each up to an alternative whose members have begun. -/
inductive Around : List Symbol → List Alternative → List OpenList → Prop
  | start : Around [] [] []
  | next {before word : List Symbol} {finished : List Alternative} {outer : List OpenList}
      {node : Alternative}
      (around : Around before finished outer)
      (alternative : AlternativeWord outer.length word node) :
      Around (before ++ (word ++ [.mark '|'])) (node :: finished) outer
  | inside {before word : List Symbol} {finished : List Alternative}
        {outer : List OpenList}
      {node : Alternative}
      (around : Around before finished outer)
      (head : HeadWord outer.length word node) :
      Around (before ++ (word ++ [.mark '<'])) [] (⟨finished, node⟩ :: outer)

/-- Where a list begins: at the beginning of the text, or after
the head of an alternative. -/
inductive ListStart : List Symbol → List OpenList → Prop
  | root : ListStart [] []
  | inside {before word : List Symbol} {finished : List Alternative}
        {outer : List OpenList}
      {node : Alternative}
      (around : Around before finished outer)
      (head : HeadWord outer.length word node) :
      ListStart (before ++ (word ++ [.mark '<'])) (⟨finished, node⟩ :: outer)

/-- What stands before an alternative is the beginning of its list and the finished
alternatives, which are one group with whatever group follows them. -/
theorem Around.exists_listStart {before : List Symbol} {finished : List Alternative}
    {outer : List OpenList} (around : Around before finished outer) :
    ∃ opening earlier, before = opening ++ earlier ∧ ListStart opening outer ∧
      ∀ word nodes, GroupWord outer.length word nodes →
        GroupWord outer.length (earlier ++ word) (finished.reverse ++ nodes) := by
  induction around with
  | start => exact ⟨[], [], rfl, .root, fun word nodes group => group⟩
  | @next before nodeWord finished outer node around alternative inductionHypothesis =>
      obtain ⟨opening, earlier, rfl, listStart, extend⟩ := inductionHypothesis
      refine ⟨opening, earlier ++ (nodeWord ++ [.mark '|']), by simp, listStart, ?_⟩
      intro word nodes group
      have longer := extend _ _ (.next alternative group)
      simpa using longer
  | @inside before word finished outer node around head inductionHypothesis =>
      exact ⟨_, [], by simp, .inside around head,
        fun word nodes group => by simpa using group⟩

/-! ## What a scan has accepted -/

/-- The symbols that a scan outside of literals can have accepted. -/
inductive Reached : List Symbol → Scan → Prop
  | intro {before word : List Symbol} {finished : List Alternative}
        {outer : List OpenList}
      {node : Alternative}
      (around : Around before finished outer)
      (begun : Begun outer.length word node) :
      Reached (before ++ word) (Scan.writing finished outer node)

/-- A symbol that is neither a blank nor a slash on its own. -/
def Symbol.IsProper : Symbol → Prop
  | .mark c => Text.isBlank c = false ∧ c ≠ '/'
  | .literal _ => True

/-- The symbols that a text spells are proper. -/
theorem Spells.isProper {text : List Code} {symbols : List Symbol}
    (spells : Spells text symbols) : ∀ symbol ∈ symbols, symbol.IsProper := by
  induction spells with
  | nil => simp
  | blank isBlank spells inductionHypothesis => exact inductionHypothesis
  | mark notBlank notDelimiter spells inductionHypothesis =>
      rw [List.forall_mem_cons]
      exact ⟨⟨notBlank, notDelimiter⟩, inductionHypothesis⟩
  | literal isBody letters flagsEnd spells inductionHypothesis =>
      rw [List.forall_mem_cons]
      exact ⟨trivial, inductionHypothesis⟩

namespace Reached

theorem start : Reached [] .start :=
  .intro .start .blank

/-- A symbol that is accepted continues the word. -/
theorem readSymbol {seen : List Symbol} {scan next : Scan} {symbol : Symbol}
    (reached : Reached seen scan)
    (proper : symbol.IsProper)
    (isRead : scan.readSymbol symbol = .ok next) : Reached (seen ++ [symbol]) next := by
  obtain ⟨around, begun⟩ := reached
  rw [List.append_assoc]
  cases symbol with
  | literal written =>
      obtain ⟨noContent, noMembers, rfl⟩ := Scan.readSymbol_literal_eq_ok_iff.mp isRead
      exact .intro around (begun.setLiteral noContent written)
  | mark c =>
      obtain ⟨notBlank, notDelimiter⟩ := proper
      cases Scan.plainStep_of_stepPlain isRead with
      | blank isBlank =>
          rw [isBlank] at notBlank
          cases notBlank
      | openLiteral noContent noMembers => exact absurd rfl notDelimiter
      | negate noContent => exact .intro around (begun.negate noContent)
      | nameChar isName noLiteral noMembers =>
          exact .intro around (begun.pushName isName noLiteral noMembers)
      | openMembers content noMembers =>
          have inside := Around.inside around (begun.headWord content noMembers)
          have opened := Reached.intro inside .blank
          rwa [List.append_nil] at opened
      | @closeMembers parent outer content nested =>
          cases nested
          obtain ⟨opening, earlier, rfl, listStart, extend⟩ := around.exists_listStart
          cases listStart with
          | inside around head =>
              have group := extend _ _ (.single (begun.alternativeWord content))
              have closed := Reached.intro around (.written (.container head group))
              simp only [List.append_assoc, List.cons_append, List.nil_append] at closed ⊢
              exact closed
      | nextAlternative content =>
          have next := Around.next around (begun.alternativeWord content)
          have separated := Reached.intro next .blank
          rwa [List.append_nil] at separated
      | declareKey content nested noKey noMembers =>
          have inside := List.length_pos_iff.mpr nested
          exact .intro around (begun.declareKey content inside noKey noMembers)

/-- Symbols that are accepted one after the other continue the word. -/
theorem readSymbols {seen symbols : List Symbol} {scan final : Scan}
    (reached : Reached seen scan)
    (proper : ∀ symbol ∈ symbols, symbol.IsProper)
    (isRead : scan.readSymbols symbols = .ok final) :
    Reached (seen ++ symbols) final := by
  induction symbols generalizing seen scan with
  | nil =>
      cases isRead
      rwa [List.append_nil]
  | cons symbol rest inductionHypothesis =>
      obtain ⟨next, symbolRead, restRead⟩ := Scan.readSymbols_cons_eq_ok_iff.mp isRead
      rw [List.forall_mem_cons] at proper
      have continued := reached.readSymbol proper.1 symbolRead
      have finished := inductionHypothesis continued proper.2 restRead
      rwa [List.append_assoc] at finished

/-- A scan that ends without a fault has accepted a group of the outermost depth. -/
theorem groupWord {seen : List Symbol} {scan : Scan} {alternatives : List Alternative}
    (reached : Reached seen scan)
    (finished : scan.finish = .ok alternatives) : GroupWord 0 seen alternatives := by
  obtain ⟨around, begun⟩ := reached
  rename_i before word earlier outer node
  cases outer with
  | cons parent outer => simp [Scan.writing, Scan.finish, Scan.endFlags] at finished
  | nil =>
      by_cases content : node.hasContent = true
      · rw [Scan.finish_writing content] at finished
        cases finished
        obtain ⟨opening, groupStart, rfl, listStart, extend⟩ := around.exists_listStart
        cases listStart
        exact extend _ _ (.single (begun.alternativeWord content))
      · simp [Scan.writing, Scan.finish, Scan.endFlags, Scan.current, content] at finished

end Reached

/-! ## Parsing and the grammar -/

/-- Reading the symbols of an expression to an end is deriving it. -/
theorem readSymbols_finish_iff {symbols : List Symbol} {alternatives : List Alternative}
    (proper : ∀ symbol ∈ symbols, symbol.IsProper) :
    (∃ final, Scan.start.readSymbols symbols = .ok final ∧
      final.finish = .ok alternatives) ↔
      GroupWord 0 symbols alternatives := by
  constructor
  · rintro ⟨final, isRead, finished⟩
    have reached := Reached.start.readSymbols proper isRead
    exact reached.groupWord finished
  · exact Scan.exists_readSymbols_of_groupWord

/-- Without placeholder values exactly the texts are parsed that express something, and
parsed as what they express. -/
theorem parse_eq_ok_iff_expresses {text : Text} {parsed : Parsed} :
    parse text [] = .ok parsed ↔
      Expresses text.toList parsed.alternatives ∧ parsed.text = text := by
  rw [parse_without_values_eq_ok_iff]
  constructor
  · rintro ⟨last, isRead, finished, textEqual⟩
    obtain ⟨symbols, final, spells, symbolsRead, symbolsFinished⟩ :=
      Scan.readText_finish_iff.mp ⟨last, isRead, finished⟩
    have group :=
      (readSymbols_finish_iff spells.isProper).mp ⟨final, symbolsRead, symbolsFinished⟩
    exact ⟨⟨symbols, spells, group⟩, textEqual⟩
  · rintro ⟨⟨symbols, spells, group⟩, textEqual⟩
    obtain ⟨final, symbolsRead, finished⟩ :=
      (readSymbols_finish_iff spells.isProper).mpr group
    obtain ⟨last, isRead, lastFinished⟩ :=
      Scan.readText_finish_iff.mpr ⟨symbols, final, spells, symbolsRead, finished⟩
    exact ⟨last, isRead, lastFinished, textEqual⟩

/-- A text expresses one list of alternatives at most. -/
theorem Expresses.unique {text : List Code} {first second : List Alternative}
    (expresses : Expresses text first) (expressesToo : Expresses text second) :
    first = second := by
  have firstParsed : parse (Text.ofList text) [] = .ok ⟨first, Text.ofList text⟩ := by
    rw [parse_eq_ok_iff_expresses, Text.toList_ofList]
    exact ⟨expresses, rfl⟩
  have secondParsed : parse (Text.ofList text) [] = .ok ⟨second, Text.ofList text⟩ := by
    rw [parse_eq_ok_iff_expresses, Text.toList_ofList]
    exact ⟨expressesToo, rfl⟩
  rw [firstParsed] at secondParsed
  cases secondParsed
  rfl

/-- Parsing decides the grammar: a text is parsed as what it expresses, which is one tree,
and a text that expresses nothing is malformed. -/
theorem parse_decides_grammar (text : Text) :
    (∀ parsed, parse text [] = .ok parsed ↔
      Expresses text.toList parsed.alternatives ∧ parsed.text = text) ∧
    (∀ first second, Expresses text.toList first → Expresses text.toList second →
      first = second) ∧
    ((∀ alternatives, ¬ Expresses text.toList alternatives) →
      ∃ error, parse text [] = .error error ∧
        (Error.parse error).isOfExpression = true) := by
  refine ⟨fun parsed => parse_eq_ok_iff_expresses, fun first second =>
    Expresses.unique, ?_⟩
  intro expressesNothing
  cases result : parse text [] with
  | ok parsed =>
      have expresses := (parse_eq_ok_iff_expresses.mp result).1
      exact absurd expresses (expressesNothing parsed.alternatives)
  | error error =>
      refine ⟨error, rfl, ?_⟩
      by_cases unwritable : error.fault = .unwritableValue
      · have missing := fault_of_scanText_without_values rfl result (by simp [unwritable,
          ParseFault.isOfPlaceholder])
        rw [unwritable] at missing
        cases missing
      · simp [Error.isOfExpression, unwritable]

/-- A text that expresses one tree, and one that expresses nothing because a type
parameter is not closed. -/
theorem parse_decides_grammar_unclosed :
    (∃ alternatives, Expresses (Text.toList "arr<num>") alternatives ∧
      ∀ other, Expresses (Text.toList "arr<num>") other → other = alternatives) ∧
      (∀ alternatives, ¬ Expresses (Text.toList "arr<num") alternatives) ∧
      ∃ error, parse "arr<num" [] = .error error ∧
        (Error.parse error).isOfExpression = true := by
  have closed := parse_decides_grammar "arr<num>"
  have unclosed := parse_decides_grammar "arr<num"
  have expressed := ((closed.1 _).mp rfl).1
  have expressesNothing : ∀ alternatives,
      ¬ Expresses (Text.toList "arr<num") alternatives := by
    intro alternatives expresses
    have parsed := (unclosed.1 ⟨alternatives, "arr<num"⟩).mpr ⟨expresses, rfl⟩
    have failed : (parse "arr<num" []).isOk = false := rfl
    rw [parsed] at failed
    cases failed
  exact ⟨⟨_, expressed, fun other expressesToo =>
    closed.2.1 other _ expressesToo expressed⟩,
    expressesNothing, unclosed.2.2 expressesNothing⟩

end KindExpr
