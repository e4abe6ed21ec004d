import KindExpr.Proofs.Expr.Spelling

/-!
# The grammar of type expressions

A group is one or more alternatives with bars between them. An alternative is an atom,
with a key in front of it inside of member lists and a member list after it if there is
one. An atom is a type name or a literal after any number of negations. The grammar is
stated about symbols, together with the tree that each of its words stands for, and
`Expresses` adds the blanks.

Everything that the grammar derives is read, and read as the tree of its derivation.
-/

namespace KindExpr

/-! ## Words and their trees -/

/-- What an atom says: a type name or a literal, negated or not. -/
structure Atom where
  negated : Bool
  name : Text
  literal : Option Literal
  deriving Repr, DecidableEq

/-- Whether a number is odd. -/
def isOdd (count : Nat) : Bool :=
  count % 2 = 1

@[simp] theorem isOdd_zero : isOdd 0 = false := rfl

@[simp] theorem isOdd_succ (count : Nat) : isOdd (count + 1) = !isOdd count := by
  unfold isOdd
  rcases Nat.mod_two_eq_zero_or_one count with even | odd
  · simp [Nat.add_mod, even]
  · simp [Nat.add_mod, odd]

namespace Atom

/-- The atom of which nothing but negations is written. -/
def unnamed (negated : Bool) : Atom := ⟨negated, "", none⟩

/-- Whether a type name or a literal is there. -/
def hasContent (atom : Atom) : Bool :=
  !atom.name.isEmpty || atom.literal.isSome

@[simp] theorem hasContent_unnamed (negated : Bool) :
    (unnamed negated).hasContent = false := by
  simp [unnamed, hasContent]

end Atom

/-- An alternative with some atom for its key, an atom of its own and some members. -/
def Alternative.ofParts (key : Option Atom) (own : Atom) (members : List Alternative) :
    Alternative where
  name := own.name
  negated := own.negated
  literal := own.literal
  members := members
  key := key.map Atom.name
  keyLiteral := key.bind Atom.literal
  keyNegated := (key.map Atom.negated).getD false

/-- A number of negations. -/
def negations (count : Nat) : List Symbol :=
  List.replicate count (.mark '!')

@[simp] theorem negations_zero : negations 0 = [] := rfl

theorem negations_succ (count : Nat) :
    negations (count + 1) = negations count ++ [.mark '!'] := by
  rw [negations, List.replicate_succ']
  rfl

/-- The words that are atoms. -/
inductive AtomWord : List Symbol → Atom → Prop
  | name {name : List Code} (count : Nat)
      (notEmpty : name ≠ [])
      (nameChars : ∀ c ∈ name, Scan.isNameChar c = true) :
      AtomWord (negations count ++ name.map .mark) ⟨isOdd count, Text.ofList name, none⟩
  | literal (count : Nat) (written : Literal) :
      AtomWord (negations count ++ [.literal written]) ⟨isOdd count, "", some written⟩

/-- The words that declare a key. Only members have keys. -/
inductive KeyWord (depth : Nat) : List Symbol → Option Atom → Prop
  | absent : KeyWord depth [] none
  | declared {word : List Symbol} {key : Atom}
      (nested : 1 ≤ depth)
      (atomWord : AtomWord word key) :
      KeyWord depth (word ++ [.mark ':']) (some key)

/-- The words that are alternatives without members. -/
inductive HeadWord (depth : Nat) : List Symbol → Alternative → Prop
  | intro {keyWord ownWord : List Symbol} {key : Option Atom} {own : Atom}
      (declared : KeyWord depth keyWord key)
      (named : AtomWord ownWord own) :
      HeadWord depth (keyWord ++ ownWord) (.ofParts key own [])

mutual

/-- The words that are alternatives, at some depth of member lists. -/
inductive AlternativeWord : Nat → List Symbol → Alternative → Prop
  | head {depth : Nat} {word : List Symbol} {node : Alternative}
      (head : HeadWord depth word node) :
      AlternativeWord depth word node
  | container {depth : Nat} {word inner : List Symbol} {node : Alternative}
      {members : List Alternative}
      (head : HeadWord depth word node)
      (group : GroupWord (depth + 1) inner members) :
      AlternativeWord depth (word ++ .mark '<' :: (inner ++ [.mark '>']))
        { node with members := members }

/-- The words that are groups of alternatives, at some depth of member lists. -/
inductive GroupWord : Nat → List Symbol → List Alternative → Prop
  | single {depth : Nat} {word : List Symbol} {node : Alternative}
      (alternative : AlternativeWord depth word node) :
      GroupWord depth word [node]
  | next {depth : Nat} {word others : List Symbol} {node : Alternative}
      {nodes : List Alternative}
      (alternative : AlternativeWord depth word node)
      (group : GroupWord depth others nodes) :
      GroupWord depth (word ++ .mark '|' :: others) (node :: nodes)

end

/-- The texts that express some alternatives. -/
def Expresses (text : List Code) (alternatives : List Alternative) : Prop :=
  ∃ symbols, Spells text symbols ∧ GroupWord 0 symbols alternatives

/-! ## Trees of words -/

namespace Alternative

theorem ofParts_blank : ofParts none (.unnamed false) [] = blank := rfl

@[simp] theorem hasContent_ofParts
    (key : Option Atom) (own : Atom) (members : List Alternative) :
    (ofParts key own members).hasContent = own.hasContent := rfl

end Alternative

/-- Every atom has content. -/
theorem AtomWord.hasContent {word : List Symbol} {atom : Atom}
    (atomWord : AtomWord word atom) :
    atom.hasContent = true := by
  cases atomWord with
  | name count notEmpty nameChars =>
      simp only [Atom.hasContent, Option.isSome_none, Bool.or_false, Bool.not_eq_true',
        Text.isEmpty_eq_false_iff]
      simpa [← Text.toList_eq_nil_iff] using notEmpty
  | literal count written => simp [Atom.hasContent]

/-- Every alternative without members has content. -/
theorem HeadWord.hasContent {depth : Nat} {word : List Symbol} {node : Alternative}
    (head : HeadWord depth word node) : node.hasContent = true := by
  obtain ⟨declared, named⟩ := head
  rw [Alternative.hasContent_ofParts, named.hasContent]

theorem HeadWord.members_eq_nil {depth : Nat} {word : List Symbol} {node : Alternative}
    (head : HeadWord depth word node) : node.members = [] := by
  obtain ⟨declared, named⟩ := head
  rfl

/-- Every alternative has content. -/
theorem AlternativeWord.hasContent {depth : Nat} {word : List Symbol} {node : Alternative}
    (alternative : AlternativeWord depth word node) : node.hasContent = true := by
  cases alternative with
  | head head => exact head.hasContent
  | container head group => exact head.hasContent

namespace Scan

/-! ## Reading a symbol -/

/-- A scan outside of literals in which an alternative is being written. -/
def writing (finished : List Alternative) (outer : List OpenList)
    (node : Alternative) : Scan :=
  ⟨.plain, ⟨finished, node⟩, outer⟩

section

variable (finished : List Alternative) (outer : List OpenList) (key : Option Atom)

theorem readSymbol_negation (negated : Bool) :
    (writing finished outer (.ofParts key (.unnamed negated) [])).readSymbol (.mark '!') =
      .ok (writing finished outer (.ofParts key (.unnamed !negated) [])) := by
  rw [readSymbol_mark]
  refine stepPlain_of_plainStep ?_
  exact .negate (Atom.hasContent_unnamed negated)

theorem readSymbol_nameChar {c : Code} (isName : isNameChar c = true)
    (negated : Bool) (name : Text) :
    (writing finished outer (.ofParts key ⟨negated, name, none⟩ [])).readSymbol
      (.mark c) =
      .ok (writing finished outer (.ofParts key ⟨negated, name.push c, none⟩ [])) := by
  rw [readSymbol_mark]
  refine stepPlain_of_plainStep ?_
  exact .nameChar isName rfl rfl

theorem readSymbol_literal (negated : Bool) (written : Literal) :
    (writing finished outer (.ofParts key (.unnamed negated) [])).readSymbol
      (.literal written) =
      .ok (writing finished outer (.ofParts key ⟨negated, "", some written⟩ [])) :=
  readSymbol_literal_eq_ok_iff.mpr ⟨Atom.hasContent_unnamed negated, rfl, rfl⟩

theorem readSymbol_key {own : Atom} (content : own.hasContent = true)
    (nested : outer ≠ []) :
    (writing finished outer (.ofParts none own [])).readSymbol (.mark ':') =
      .ok (writing finished outer (.ofParts (some own) (.unnamed false) [])) := by
  rw [readSymbol_mark]
  refine stepPlain_of_plainStep ?_
  exact .declareKey content nested rfl rfl

theorem readSymbol_open {node : Alternative} (content : node.hasContent = true)
    (noMembers : node.members = []) :
    (writing finished outer node).readSymbol (.mark '<') =
      .ok (writing [] (⟨finished, node⟩ :: outer) .blank) := by
  rw [readSymbol_mark]
  refine stepPlain_of_plainStep ?_
  exact .openMembers content noMembers

theorem readSymbol_close {node : Alternative} (content : node.hasContent = true)
    (before : List Alternative) (parent : Alternative) :
    (writing finished (⟨before, parent⟩ :: outer) node).readSymbol (.mark '>') =
      .ok (writing before outer
        { parent with members := finished.reverse ++ [node] }) := by
  rw [readSymbol_mark]
  have step : PlainStep (writing finished (⟨before, parent⟩ :: outer) node) '>' _ :=
    .closeMembers content rfl
  exact stepPlain_of_plainStep step

theorem readSymbol_next {node : Alternative} (content : node.hasContent = true) :
    (writing finished outer node).readSymbol (.mark '|') =
      .ok (writing (node :: finished) outer .blank) := by
  rw [readSymbol_mark]
  refine stepPlain_of_plainStep ?_
  exact .nextAlternative content

end

/-! ## Reading words -/

section

variable (finished : List Alternative) (outer : List OpenList) (key : Option Atom)

theorem readSymbols_negations (negated : Bool) (count : Nat) :
    (writing finished outer (.ofParts key (.unnamed negated) [])).readSymbols
      (negations count) =
      .ok (writing finished outer
        (.ofParts key (.unnamed (negated ^^ isOdd count)) [])) := by
  induction count with
  | zero => simp
  | succ count inductionHypothesis =>
      rw [negations_succ, readSymbols_append_eq_ok_iff]
      refine ⟨_, inductionHypothesis, ?_⟩
      simp [readSymbols, readSymbol_negation]

theorem readSymbols_name {name : List Code}
    (nameChars : ∀ c ∈ name, isNameChar c = true)
    (negated : Bool) (earlier : Text) :
    (writing finished outer (.ofParts key ⟨negated, earlier, none⟩ [])).readSymbols
        (name.map .mark) =
      .ok (writing finished outer
        (.ofParts key ⟨negated, earlier ++ Text.ofList name, none⟩ [])) := by
  induction name generalizing earlier with
  | nil =>
      exact congrArg (fun name =>
        Except.ok (writing finished outer (.ofParts key ⟨negated, name, none⟩ [])))
          (Text.append_empty earlier).symm
  | cons c others inductionHypothesis =>
      have isName := nameChars c (by simp)
      have otherNames : ∀ d ∈ others, isNameChar d = true := by
        intro d present
        exact nameChars d (by simp [present])
      rw [List.map_cons, readSymbols, readSymbol_nameChar finished outer key isName]
      have appended : earlier ++ Text.ofList (c :: others) =
          earlier.push c ++ Text.ofList others := by
        apply Text.toList_inj.mp
        simp
      rw [appended]
      exact inductionHypothesis otherNames (earlier.push c)

/-- An atom is read where nothing but a key is written. -/
theorem readSymbols_of_atomWord {word : List Symbol} {atom : Atom}
    (atomWord : AtomWord word atom) :
    (writing finished outer (.ofParts key (.unnamed false) [])).readSymbols word =
      .ok (writing finished outer (.ofParts key atom [])) := by
  cases atomWord with
  | @name name count notEmpty nameChars =>
      rw [readSymbols_append_eq_ok_iff]
      refine ⟨_, readSymbols_negations finished outer key false count, ?_⟩
      have named := readSymbols_name finished outer key nameChars (isOdd count) ""
      simpa [Atom.unnamed] using named
  | literal count written =>
      rw [readSymbols_append_eq_ok_iff]
      refine ⟨_, readSymbols_negations finished outer key false count, ?_⟩
      simp [readSymbols, readSymbol_literal]

end

/-- An alternative without members is read at the beginning of an alternative. -/
theorem readSymbols_of_headWord {depth : Nat} {word : List Symbol} {node : Alternative}
    (head : HeadWord depth word node)
    (finished : List Alternative) {outer : List OpenList}
    (atDepth : outer.length = depth) :
    (writing finished outer .blank).readSymbols word =
      .ok (writing finished outer node) := by
  obtain ⟨declared, named⟩ := head
  rw [← Alternative.ofParts_blank, readSymbols_append_eq_ok_iff]
  cases declared with
  | absent =>
      exact ⟨_, readSymbols_nil _, readSymbols_of_atomWord finished outer none named⟩
  | @declared word key nested atomWord =>
      have inside : outer ≠ [] := by
        rintro rfl
        simp at atDepth
        omega
      refine ⟨_, ?_, readSymbols_of_atomWord finished outer (some key) named⟩
      rw [readSymbols_append_eq_ok_iff]
      refine ⟨_, readSymbols_of_atomWord finished outer none atomWord, ?_⟩
      simp [readSymbols, readSymbol_key finished outer atomWord.hasContent inside]

mutual

/-- Every alternative is read as the tree of its derivation. -/
theorem readSymbols_of_alternativeWord {depth : Nat} {word : List Symbol}
    {node : Alternative}
    (alternative : AlternativeWord depth word node)
    (finished : List Alternative) {outer : List OpenList}
    (atDepth : outer.length = depth) :
    (writing finished outer .blank).readSymbols word =
      .ok (writing finished outer node) :=
  match alternative with
  | .head head => readSymbols_of_headWord head finished atDepth
  | @AlternativeWord.container _ headWord inner parent members head group => by
      have headRead := readSymbols_of_headWord head finished atDepth
      have opened := readSymbol_open finished outer head.hasContent head.members_eq_nil
      have inside : (⟨finished, parent⟩ :: outer : List OpenList).length = depth + 1 := by
        simp [atDepth]
      obtain ⟨earlier, last, membersEqual, content, groupRead⟩ :=
        readSymbols_of_groupWord group [] inside
      have closed :=
        readSymbol_close (earlier.reverse ++ []) outer content finished parent
      rw [readSymbols_append_eq_ok_iff]
      refine ⟨_, headRead, ?_⟩
      rw [readSymbols, opened]
      refine readSymbols_append_eq_ok_iff.mpr ⟨_, groupRead, ?_⟩
      rw [readSymbols, closed]
      simp [membersEqual]

/-- Every group is read as the trees of its alternatives. -/
theorem readSymbols_of_groupWord {depth : Nat} {word : List Symbol}
    {nodes : List Alternative}
    (group : GroupWord depth word nodes)
    (finished : List Alternative) {outer : List OpenList}
    (atDepth : outer.length = depth) :
    ∃ earlier last, nodes = earlier ++ [last] ∧ last.hasContent = true ∧
      (writing finished outer .blank).readSymbols word =
        .ok (writing (earlier.reverse ++ finished) outer last) :=
  match group with
  | .single alternative =>
      ⟨[], _, rfl, alternative.hasContent,
        readSymbols_of_alternativeWord alternative finished atDepth⟩
  | @GroupWord.next _ firstWord others node nodes alternative group => by
      have alternativeRead := readSymbols_of_alternativeWord alternative finished atDepth
      have separated := readSymbol_next finished outer alternative.hasContent
      obtain ⟨earlier, last, nodesEqual, content, groupRead⟩ :=
        readSymbols_of_groupWord group (node :: finished) atDepth
      refine ⟨node :: earlier, last, by rw [nodesEqual, List.cons_append], content, ?_⟩
      rw [readSymbols_append_eq_ok_iff]
      refine ⟨_, alternativeRead, ?_⟩
      rw [readSymbols, separated]
      simpa using groupRead

end

/-- At the end of the text the alternatives of the outermost list are given. -/
theorem finish_writing {finished : List Alternative} {node : Alternative}
    (content : node.hasContent = true) :
    (writing finished [] node).finish = .ok (finished.reverse ++ [node]) := by
  simp [writing, finish, endFlags, current, content, OpenList.alternatives]

/-- Every group is read to its end, as the trees of its alternatives. -/
theorem exists_readSymbols_of_groupWord {word : List Symbol} {nodes : List Alternative}
    (group : GroupWord 0 word nodes) :
    ∃ final, start.readSymbols word = .ok final ∧ final.finish = .ok nodes := by
  have atRoot : ([] : List OpenList).length = 0 := rfl
  obtain ⟨earlier, last, nodesEqual, content, groupRead⟩ :=
    readSymbols_of_groupWord group [] atRoot
  refine ⟨_, groupRead, ?_⟩
  rw [finish_writing content, nodesEqual]
  simp

end Scan
end KindExpr
