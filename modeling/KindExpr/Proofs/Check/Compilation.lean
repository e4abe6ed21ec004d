import Mathlib.Data.List.Forall2
import KindExpr.Check.Basic
import KindExpr.Proofs.Outcome

/-!
# What alternatives compile to

For each step of the compiler: when it succeeds, and what it gives then. A literal
becomes a search, a name the test of its tag; members put a check of a container around
this, with the group of their own checks and that of the keys they declare.

The compiler goes down the members of an alternative and along each member list. That it
does is used once, for an induction over the checks that alternatives compile to.
-/

namespace KindExpr
namespace Check

variable {aliases : AliasTable}

/-! ## An alternative without its members -/

/-- An alternative compiles without its members to the search for its literal, or to the
test of the tag that its name stands for. -/
theorem compileOwn_eq_ok_iff {node : Alternative} {tag : Text} {own : Check} :
    compileOwn aliases node = .ok (tag, own) ↔
      (∃ literal pattern, node.literal = some literal ∧ node.negated = false ∧
          literal.compile = .ok pattern ∧ tag = Kind.string.tag ∧
            own = .format literal pattern) ∨
        node.literal = none ∧ aliases.resolve? node.name = some tag ∧
          own = .kind tag node.negated := by
  unfold compileOwn
  cases node.literal with
  | some literal =>
      cases node.negated with
      | true => simp
      | false =>
          simp only [Bool.false_eq_true, if_false, Outcome.map_eq_ok_iff, Prod.mk.injEq]
          constructor
          · rintro ⟨pattern, compiled, rfl, rfl⟩
            exact .inl ⟨literal, pattern, rfl, trivial, compiled, rfl, rfl⟩
          · rintro (⟨_, pattern, ⟨⟩, -, compiled, rfl, rfl⟩ | ⟨noLiteral, -⟩)
            · exact ⟨pattern, compiled, rfl, rfl⟩
            · cases noLiteral
  | none =>
      cases aliases.resolve? node.name with
      | none => simp
      | some found =>
          constructor
          · rintro ⟨⟩
            exact .inr ⟨rfl, rfl, rfl⟩
          · rintro (⟨literal, pattern, noLiteral, -⟩ | ⟨-, ⟨⟩, rfl⟩)
            · cases noLiteral
            · rfl

/-! ## Keys -/

/-- The checks of several alternatives are compiled one by one. -/
theorem mapM_eq_ok_iff {compileNode : Alternative → Except CompileError Check}
    {nodes : List Alternative} {checks : List Check} :
    nodes.mapM compileNode = .ok checks ↔
      List.Forall₂ (fun node check => compileNode node = .ok check) nodes checks := by
  induction nodes generalizing checks with
  | nil => simp [pure, Except.pure, eq_comm]
  | cons node rest inductionHypothesis =>
      rw [List.mapM_cons, List.forall₂_cons_left_iff]
      simp only [Outcome.bind_eq_ok_iff, inductionHypothesis]
      constructor
      · rintro ⟨check, compiled, others, each, ⟨⟩⟩
        exact ⟨check, others, compiled, each, rfl⟩
      · rintro ⟨check, others, compiled, each, rfl⟩
        exact ⟨check, compiled, others, each, rfl⟩

/-- No check for keys is compiled if no member declares a key, and otherwise the group
of the checks of all keys that are declared. -/
theorem compileKeys_eq_ok_iff {members : List Alternative} {key : Option Check} :
    compileKeys aliases members = .ok key ↔
      (∀ member ∈ members, member.hasKey = false) ∧ key = none ∨
        (∃ member ∈ members, member.hasKey = true) ∧
          ∃ checks, List.Forall₂ (fun node check => ∃ tag,
            compileOwn aliases node = .ok (tag, check))
              ((members.filter Alternative.hasKey).map Alternative.keyAlternative)
                checks ∧
            some (ofGroup checks) = key := by
  have compilesOwn (node : Alternative) (check : Check) :
      (compileOwn aliases node).map Prod.snd = .ok check ↔
        ∃ tag, compileOwn aliases node = .ok (tag, check) := by
    simp [Outcome.map_eq_ok_iff]
  have isKeyless : ((members.filter Alternative.hasKey).map
      Alternative.keyAlternative).isEmpty = true ↔ ∀ member ∈ members,
        member.hasKey = false := by
    simp [List.filter_eq_nil_iff]
  have isKeyed : (¬ ∀ member ∈ members, member.hasKey = false) ↔
      ∃ member ∈ members, member.hasKey = true := by
    simp
  rw [compileKeys]
  by_cases noKeys : ∀ member ∈ members, member.hasKey = false
  · rw [if_pos (isKeyless.mpr noKeys)]
    constructor
    · rintro ⟨⟩
      exact .inl ⟨noKeys, rfl⟩
    · rintro (⟨-, rfl⟩ | ⟨hasKeys, -⟩)
      · rfl
      · exact absurd noKeys (isKeyed.mpr hasKeys)
  · rw [if_neg (noKeys ∘ isKeyless.mp), Outcome.map_eq_ok_iff]
    simp only [mapM_eq_ok_iff, compilesOwn]
    constructor
    · exact fun compiled => .inr ⟨isKeyed.mp noKeys, compiled⟩
    · rintro (⟨isKeyless, -⟩ | ⟨-, compiled⟩)
      · exact absurd isKeyless noKeys
      · exact compiled

/-! ## Alternatives -/

/-- A container shape is found for a check with members, and the check
is the one of the container. -/
theorem withMembers_eq {tag : Text} {own member check : Check} {key : Option Check}
    (compiled : withMembers tag own member key = .ok check) :
    ∃ shape, Shape.ofTag? tag = some shape ∧ check = .container own shape member key := by
  unfold withMembers at compiled
  split at compiled
  · cases compiled
  · rename_i isShape
    split at compiled
    · cases compiled
    · rename_i noKey
      cases compiled
      exact ⟨.array, isShape, by simp_all⟩
  · rename_i shape isNoArray isShape
    cases compiled
    exact ⟨shape, isShape, rfl⟩

/-- An alternative compiles to the check of its own without members, and with members,
where it may not be negated, to what their checks are put under. -/
theorem compileAlternative_eq_ok_iff {node : Alternative} {check : Check} :
    compileAlternative aliases node = .ok check ↔
      ∃ tag own, compileOwn aliases node = .ok (tag, own) ∧
        (node.members = [] ∧ check = own ∨
          node.members ≠ [] ∧ node.negated = false ∧
            ∃ checks key, compileEach aliases node.members = .ok checks ∧
              compileKeys aliases node.members = .ok key ∧
              withMembers tag own (ofGroup checks) key = .ok check) := by
  obtain ⟨name, negated, literal, members, key, keyLiteral, keyNegated⟩ := node
  rw [compileAlternative]
  simp only [Outcome.bind_eq_ok_iff, Prod.exists]
  refine exists₂_congr fun tag own => and_congr_right fun _ => ?_
  cases members with
  | nil => simp [pure, Except.pure, eq_comm]
  | cons first rest =>
      cases negated with
      | true => simp [throw, throwThe, MonadExceptOf.throw, bind, Except.bind]
      | false =>
          cases hasShape : Shape.ofTag? tag with
          | none =>
              -- The members are not reached, but they could not
              -- be put under this tag anyway.
              have isError : ∀ member key,
                  withMembers tag own member key = .error (.noMembers tag) := by
                simp [withMembers, hasShape]
              simp [isError, throw, throwThe, MonadExceptOf.throw, bind, Except.bind]
          | some shape =>
              simp only [compileEach, Outcome.bind_eq_ok_iff, pure, Except.pure]
              simp [Outcome.bind_eq_ok_iff]

/-- An alternative compiles to the check of its own without members, and with members to
that of a container. -/
theorem compileAlternative_cases {node : Alternative} {check : Check}
    (compiled : compileAlternative aliases node = .ok check) :
    ∃ tag own, compileOwn aliases node = .ok (tag, own) ∧
      (node.members = [] ∧ check = own ∨
        node.members ≠ [] ∧ node.negated = false ∧
          ∃ shape checks key, Shape.ofTag? tag = some shape ∧
            compileEach aliases node.members = .ok checks ∧
            compileKeys aliases node.members = .ok key ∧
            check = .container own shape (ofGroup checks) key) := by
  obtain ⟨tag, own, ownCompiled, noMembers | ⟨isNonempty, notNegated, hasMembers⟩⟩ :=
    compileAlternative_eq_ok_iff.mp compiled
  · exact ⟨tag, own, ownCompiled, .inl noMembers⟩
  · obtain ⟨checks, key, each, keys, compiled⟩ := hasMembers
    obtain ⟨shape, isShape, isContainer⟩ := withMembers_eq compiled
    exact ⟨tag, own, ownCompiled,
      .inr ⟨isNonempty, notNegated, shape, checks, key, isShape, each, keys, isContainer⟩⟩

/-- Several alternatives compile to the checks of each of them. -/
theorem compileEach_eq_ok_iff {nodes : List Alternative} {checks : List Check} :
    compileEach aliases nodes = .ok checks ↔
      List.Forall₂ (fun node check => compileAlternative aliases node = .ok check)
        nodes checks := by
  have isMapM : compileEach aliases nodes = nodes.mapM (compileAlternative aliases) := by
    induction nodes with
    | nil => rfl
    | cons node rest inductionHypothesis =>
        rw [compileEach, List.mapM_cons, inductionHypothesis]
  rw [isMapM]
  exact mapM_eq_ok_iff

/-- Whether something holds of the check of an alternative without members, and passes
on from the checks of members to that of a container. -/
structure KeptByCompiling (aliases : AliasTable)
    (keeps : Alternative → Check → Prop) : Prop where
  plain : ∀ node tag own, node.members = [] → compileOwn aliases node = .ok (tag, own) →
    keeps node own
  container : ∀ node tag own shape checks key, node.members ≠ [] → node.negated = false →
    compileOwn aliases node = .ok (tag, own) → Shape.ofTag? tag = some shape →
      List.Forall₂ keeps node.members checks →
        compileKeys aliases node.members = .ok key →
        keeps node (.container own shape (ofGroup checks) key)

namespace KeptByCompiling

variable {keeps : Alternative → Check → Prop}

mutual

/-- What is kept by compiling holds of every alternative and
the check that it compiles to. -/
theorem alternative (isKept : KeptByCompiling aliases keeps) :
    ∀ node check, compileAlternative aliases node = .ok check → keeps node check
  | ⟨_, _, _, members, _, _, _⟩, _, compiled => by
      obtain ⟨tag, own, ownCompiled, ⟨rfl, rfl⟩ | ⟨isNonempty, notNegated, hasMembers⟩⟩ :=
        compileAlternative_cases compiled
      · exact isKept.plain _ tag _ rfl ownCompiled
      · obtain ⟨shape, checks, key, isShape, eachCompiled, keysCompiled, rfl⟩ :=
          hasMembers
        exact isKept.container _ tag own shape checks key isNonempty notNegated
          ownCompiled isShape
          (each isKept members checks eachCompiled) keysCompiled

/-- What is kept by compiling holds of several alternatives and their checks. -/
theorem each (isKept : KeptByCompiling aliases keeps) :
    ∀ nodes checks, compileEach aliases nodes = .ok checks →
      List.Forall₂ keeps nodes checks
  | [], checks, compiled => by
      cases compiled
      exact .nil
  | node :: rest, checks, compiled => by
      obtain ⟨check, others, nodeCompiled, restCompiled, rfl⟩ :=
        List.forall₂_cons_left_iff.mp (compileEach_eq_ok_iff.mp compiled)
      exact .cons (alternative isKept node check nodeCompiled)
        (each isKept rest others (compileEach_eq_ok_iff.mpr restCompiled))

end

end KeptByCompiling

/-- A list of alternatives compiles to the group of their checks if it is not empty. -/
theorem compileGroup_eq_ok_iff {alternatives : List Alternative} {check : Check} :
    compileGroup aliases alternatives = .ok check ↔
      alternatives ≠ [] ∧ ∃ checks, compileEach aliases alternatives = .ok checks ∧
        ofGroup checks = check := by
  rw [compileGroup]
  cases alternatives with
  | nil => simp
  | cons node rest => simp [Outcome.map_eq_ok_iff]

end Check
end KindExpr
