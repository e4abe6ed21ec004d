import Mathlib.Data.List.Forall2
import KindExpr.Error
import KindExpr.Proofs.Check.Denotation
import KindExpr.Proofs.Outcome

/-!
# Names that stand for one tag

A type name counts only for the tag that the alias table gives it. Names of
types and of keys may be replaced by other names of the same tags, at any places
of a list of alternatives and however deep in it: the list compiles to the same
check, or fails with the same error.

The error is one of the expression, unless a literal of the list is refused by what
reads patterns for another reason than a rule that its pattern breaks. `FailsFor`
follows the errors of literals through the compilation.
-/

namespace KindExpr

/-- Whether two names are the same or stand for the same tag. -/
def AliasTable.AreSynonyms (aliases : AliasTable) (name other : Text) : Prop :=
  name = other ∨ ∃ tag, aliases.resolve? name = some tag ∧
    aliases.resolve? other = some tag

/-- Whether two alternatives are the same up to names that stand for the same tag: the
names of their types and keys, and those in their members. -/
inductive Alternative.IsRespelling (aliases : AliasTable) :
    Alternative → Alternative → Prop where
  | intro {name otherName : Text} {negated : Bool} {literal : Option Literal}
      {members otherMembers : List Alternative} {key otherKey : Option Text}
      {keyLiteral : Option Literal} {keyNegated : Bool}
      (names : aliases.AreSynonyms name otherName)
      (memberNames : List.Forall₂ (IsRespelling aliases) members otherMembers)
      (keyNames : Option.Rel aliases.AreSynonyms key otherKey) :
      IsRespelling aliases ⟨name, negated, literal, members, key, keyLiteral, keyNegated⟩
        ⟨otherName, negated, literal, otherMembers, otherKey, keyLiteral, keyNegated⟩

namespace Check

variable {aliases : AliasTable}

/-! ## Compiling respelled alternatives -/

/-- Without regard to members an alternative compiles as one whose name is a synonym. -/
theorem compileOwn_of_synonyms {name otherName : Text}
    (names : aliases.AreSynonyms name otherName) (negated : Bool)
    (literal : Option Literal)
    (members : List Alternative) (key otherKey : Option Text)
    (keyLiteral : Option Literal)
    (keyNegated : Bool) :
    compileOwn aliases ⟨name, negated, literal, members, key, keyLiteral, keyNegated⟩ =
      compileOwn aliases
        ⟨otherName, negated, literal, members, otherKey, keyLiteral, keyNegated⟩ := by
  unfold compileOwn
  dsimp only
  obtain rfl | ⟨tag, resolves, otherResolves⟩ := names
  · rfl
  · rw [resolves, otherResolves]

/-- The keys that members declare are respelled with the members. -/
theorem compileOwn_keys_of_respelling {members others : List Alternative}
    (areRespelled : List.Forall₂ (Alternative.IsRespelling aliases) members others) :
    List.Forall₂ (fun key other => compileOwn aliases key = compileOwn aliases other)
      ((members.filter Alternative.hasKey).map Alternative.keyAlternative)
      ((others.filter Alternative.hasKey).map Alternative.keyAlternative) := by
  induction areRespelled with
  | nil => exact .nil
  | cons isRespelled _ inductionHypothesis =>
      obtain ⟨-, -, keyNames⟩ := isRespelled
      cases keyNames with
      | none => exact inductionHypothesis
      | some names =>
          exact .cons (compileOwn_of_synonyms names _ _ _ _ _ _ _) inductionHypothesis

/-- Steps taken for each of two lists come to the same if they
do for the items one by one. -/
theorem mapM_eq_of_forall₂ {compileNode : Alternative → Except CompileError Check}
    {nodes others : List Alternative}
    (same : List.Forall₂ (fun node other => compileNode node = compileNode other)
      nodes others) :
    nodes.mapM compileNode = others.mapM compileNode := by
  induction same with
  | nil => rfl
  | cons sameFirst _ inductionHypothesis =>
      rw [List.mapM_cons, List.mapM_cons, sameFirst, inductionHypothesis]

/-- Respelled members declare the same check for keys. -/
theorem compileKeys_of_respelling {members others : List Alternative}
    (areRespelled : List.Forall₂ (Alternative.IsRespelling aliases) members others) :
    compileKeys aliases members = compileKeys aliases others := by
  have keys := compileOwn_keys_of_respelling areRespelled
  unfold compileKeys
  dsimp only
  generalize (members.filter Alternative.hasKey).map Alternative.keyAlternative =
    nodes at keys ⊢
  generalize (others.filter Alternative.hasKey).map Alternative.keyAlternative =
    otherNodes
    at keys ⊢
  have sameChecks := mapM_eq_of_forall₂ <|
    keys.imp fun key other same => congrArg (Except.map Prod.snd) same
  rw [sameChecks]
  cases keys with
  | nil => rfl
  | cons _ _ => rfl

mutual

/-- An alternative compiles as one that it respells. -/
theorem compileAlternative_of_respelling : ∀ node other : Alternative,
    node.IsRespelling aliases other →
      compileAlternative aliases node = compileAlternative aliases other
  | ⟨_, _, _, [], _, _, _⟩, _, .intro names .nil _ => by
      rw [compileAlternative, compileAlternative, compileOwn_of_synonyms names]
  | ⟨_, _, _, first :: rest, _, _, _⟩, _,
        .intro names (.cons isRespelled areRespelled) _ => by
      rw [compileAlternative, compileAlternative, compileOwn_of_synonyms names]
      dsimp only
      rw [compileAlternative_of_respelling first _ isRespelled,
        compileEach_of_respelling rest _ areRespelled,
        compileKeys_of_respelling (.cons isRespelled areRespelled)]

/-- Alternatives compile as those that they respell. -/
theorem compileEach_of_respelling : ∀ nodes others : List Alternative,
    List.Forall₂ (Alternative.IsRespelling aliases) nodes others →
      compileEach aliases nodes = compileEach aliases others
  | [], _, .nil => rfl
  | node :: rest, _, .cons isRespelled areRespelled => by
      rw [compileEach, compileEach, compileAlternative_of_respelling node _ isRespelled,
        compileEach_of_respelling rest _ areRespelled]

end

/-- A list of alternatives compiles as one that it respells. -/
theorem compileGroup_of_respelling {alternatives others : List Alternative}
    (areRespelled : List.Forall₂ (Alternative.IsRespelling aliases) alternatives others) :
    compileGroup aliases alternatives = compileGroup aliases others := by
  unfold compileGroup
  rw [compileEach_of_respelling alternatives others areRespelled]
  cases areRespelled with
  | nil => rfl
  | cons _ _ => rfl

/-! ## Errors of literals -/

/-- Whether an outcome that is an error is one of the expression, or the
error of one of some literals. -/
def FailsFor {α : Type} (literals : List Literal)
    (outcome : Except CompileError α) : Prop :=
  ∀ error, outcome = .error error →
    (Error.compile error).isOfExpression = true ∨
      ∃ literal ∈ literals, literal.compile = .error error

namespace FailsFor

variable {α β : Type} {literals : List Literal}

theorem mono {outcome : Except CompileError α} {more : List Literal}
    (failsFor : FailsFor literals outcome) (isSubset : literals ⊆ more) :
    FailsFor more outcome := by
  intro error failed
  refine (failsFor error failed).imp_right ?_
  rintro ⟨literal, isLiteral, refused⟩
  exact ⟨literal, isSubset isLiteral, refused⟩

theorem ofOk (result : α) : FailsFor literals (.ok result) := by
  intro error failed
  cases failed

theorem ofExpression {error : CompileError}
    (isOfExpression : (Error.compile error).isOfExpression = true) :
    FailsFor literals (Except.error error : Except CompileError α) := by
  intro _ failed
  cases failed
  exact .inl isOfExpression

theorem bind {first : Except CompileError α} {second : α → Except CompileError β}
    (ofFirst : FailsFor literals first)
    (ofSecond : ∀ found, FailsFor literals (second found)) :
    FailsFor literals (first >>= second) := by
  intro error failed
  obtain firstFailed | ⟨found, -, secondFailed⟩ := Outcome.bind_eq_error_iff.mp failed
  · exact ofFirst error firstFailed
  · exact ofSecond found error secondFailed

theorem map {outcome : Except CompileError α} (failsFor : FailsFor literals outcome)
    (change : α → β) : FailsFor literals (outcome.map change) := by
  intro error failed
  exact failsFor error (Outcome.map_eq_error_iff.mp failed)

/-- Steps taken for each of some alternatives fail for literals of theirs. -/
theorem mapM {compileNode : Alternative → Except CompileError Check}
    {nodes : List Alternative}
    (each : ∀ node ∈ nodes, FailsFor literals (compileNode node)) :
    FailsFor literals (nodes.mapM compileNode) := by
  induction nodes with
  | nil => exact ofOk []
  | cons node rest inductionHypothesis =>
      rw [List.forall_mem_cons] at each
      rw [List.mapM_cons]
      exact each.1.bind fun check =>
        (inductionHypothesis each.2).bind fun checks => ofOk _

end FailsFor

/-- Without regard to members an alternative fails for its literal. -/
theorem compileOwn_failsFor (node : Alternative) :
    FailsFor node.literal.toList (compileOwn aliases node) := by
  unfold compileOwn
  split
  · rename_i literal isLiteral
    split
    · exact .ofExpression rfl
    · refine FailsFor.map ?_ _
      intro error refused
      exact .inr ⟨literal, by simp [isLiteral], refused⟩
  · split
    · exact .ofOk _
    · exact .ofExpression rfl

/-- The keys that members declare fail for literals of the members. -/
theorem compileKeys_failsFor (members : List Alternative) :
    FailsFor (Alternative.literalsOfAll members) (compileKeys aliases members) := by
  unfold compileKeys
  dsimp only
  split
  · exact .ofOk _
  · refine FailsFor.map (FailsFor.mapM fun key isKey => ?_) _
    refine ((compileOwn_failsFor key).map Prod.snd).mono ?_
    have areMembers : members.filter Alternative.hasKey ⊆ members :=
      List.filter_subset_self members
    have areKeys := List.map_subset Alternative.keyAlternative areMembers
    intro literal isLiteral
    exact Alternative.keyLiterals_subset areKeys
      (List.mem_flatMap.mpr ⟨key, isKey, isLiteral⟩)

theorem withMembers_failsFor (literals : List Literal) (tag : Text) (own member : Check)
    (key : Option Check) : FailsFor literals (withMembers tag own member key) := by
  unfold withMembers
  split
  · exact .ofExpression rfl
  · split
    · exact .ofExpression rfl
    · exact .ofOk _
  · exact .ofOk _

mutual

/-- An alternative fails for literals that are written in it. -/
theorem compileAlternative_failsFor : ∀ node : Alternative,
    FailsFor node.literals (compileAlternative aliases node)
  | ⟨name, negated, literal, members, key, keyLiteral, keyNegated⟩ => by
      have own := @compileOwn_failsFor aliases
        ⟨name, negated, literal, [], key, keyLiteral, keyNegated⟩
      rw [compileAlternative, Alternative.literals]
      refine (own.mono (by simp)).bind fun ⟨tag, check⟩ => ?_
      cases members with
      | nil => exact .ofOk _
      | cons first rest =>
          have ofMembers : Alternative.literalsOfAll (first :: rest) ⊆
              literal.toList ++ keyLiteral.toList ++
                Alternative.literalsOfAll (first :: rest) :=
            List.subset_append_right _ _
          have ofFirst := (compileAlternative_failsFor first).mono
            (List.Subset.trans (by simp [Alternative.literalsOfAll]) ofMembers)
          have ofRest := (compileEach_failsFor rest).mono
            (List.Subset.trans (by simp [Alternative.literalsOfAll]) ofMembers)
          dsimp only
          split
          · exact FailsFor.ofExpression rfl
          · split
            · exact FailsFor.ofExpression rfl
            · refine ofFirst.bind fun check => ofRest.bind fun checks => ?_
              refine ((compileKeys_failsFor (first :: rest)).mono ofMembers).bind
                fun key => ?_
              exact withMembers_failsFor _ tag _ _ key

/-- Alternatives fail for literals that are written in them. -/
theorem compileEach_failsFor : ∀ nodes : List Alternative,
    FailsFor (Alternative.literalsOfAll nodes) (compileEach aliases nodes)
  | [] => .ofOk []
  | node :: rest => by
      rw [compileEach, Alternative.literalsOfAll]
      refine ((compileAlternative_failsFor node).mono (List.subset_append_left _ _)).bind
        fun check => ?_
      refine ((compileEach_failsFor rest).mono (List.subset_append_right _ _)).bind
        fun checks => .ofOk _

end

/-- A list of alternatives fails for literals that are written in it. -/
theorem compileGroup_failsFor (alternatives : List Alternative) :
    FailsFor (Alternative.literalsOfAll alternatives)
      (compileGroup aliases alternatives) := by
  unfold compileGroup
  split
  · exact .ofExpression rfl
  · exact (compileEach_failsFor alternatives).map ofGroup

/-! ## Names -/

end Check
end KindExpr
