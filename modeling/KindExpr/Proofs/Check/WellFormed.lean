import KindExpr.Proofs.Check.Membership

/-!
# What compiles

A list of alternatives compiles if it is not empty and each of its alternatives is
well-formed. What this means is said of the alternatives alone: of their flag
letters, of the names that the alias table has, and of the members and keys that
an alternative may have. The keys that the alternatives of the list declare
themselves make no difference.

The compiler treats members and keys as two lists. The proof takes its steps one by one:
an alternative without its members, the keys that its members declare, and the members.
-/

namespace KindExpr

/-! ## Literals -/

namespace Literal

/-- The letters that may follow a literal. -/
def knownLetters : List Code := ['i', 'm', 's', 'x', 'a', 'u']

/-- The flags that some letters choose, whatever their order.
The letter `u` chooses none. -/
def chosenFlags (letters : List Code) : Pattern.Flags :=
  { Pattern.Flags.none with
    ignoreCase := 'i' ∈ letters
    multiLine := 'm' ∈ letters
    dotAll := 's' ∈ letters
    verbose := 'x' ∈ letters
    ascii := 'a' ∈ letters }

/-- Whether the flag letters of a literal are known and its body is a pattern with the
flags that they choose. -/
structure IsWellFormed (literal : Literal) : Prop where
  areKnown : ∀ letter ∈ literal.flags.toList, letter ∈ knownLetters
  isPattern : ∃ pattern,
    Pattern.compile literal.body (chosenFlags literal.flags.toList) = .ok pattern

/-- A known letter chooses its flag. -/
theorem flagOfLetter_eq (letter : Code) :
    flagOfLetter? letter =
      if letter ∈ knownLetters then some (chosenFlags [letter]) else none := by
  by_cases isKnown : letter ∈ knownLetters
  · rw [if_pos isKnown]
    simp only [knownLetters, List.mem_cons, List.not_mem_nil, or_false] at isKnown
    rcases isKnown with rfl | rfl | rfl | rfl | rfl | rfl <;> rfl
  · have areKnown : ∀ entry ∈ flagLetters, entry.1 ∈ knownLetters := by decide
    have differs : ∀ known ∈ knownLetters, letter ≠ known := by
      rintro known isMember rfl
      exact isKnown isMember
    rw [if_neg isKnown, flagOfLetter?, if_neg (differs 'u' (by decide)),
      List.lookup_eq_none_iff]
    intro entry isEntry
    exact bne_iff_ne.mpr (differs entry.1 (areKnown entry isEntry))

@[simp] theorem chosenFlags_nil : chosenFlags [] = .none := rfl

theorem chosenFlags_cons (letter : Code) (rest : List Code) :
    chosenFlags (letter :: rest) = (chosenFlags [letter]).union (chosenFlags rest) := by
  simp [chosenFlags, Pattern.Flags.union, Pattern.Flags.none]

/-- Flag letters are read if all of them are known, and then as
the flags that they choose. -/
theorem readFlags_eq_ok_iff {letters : List Code} {flags : Pattern.Flags} :
    readFlags letters = .ok flags ↔
      (∀ letter ∈ letters, letter ∈ knownLetters) ∧ flags = chosenFlags letters := by
  induction letters generalizing flags with
  | nil => simp [readFlags, eq_comm]
  | cons letter rest inductionHypothesis =>
      rw [readFlags, List.forall_mem_cons, chosenFlags_cons letter rest, flagOfLetter_eq]
      by_cases isKnown : letter ∈ knownLetters
      · rw [if_pos isKnown]
        simp only [Outcome.map_eq_ok_iff, inductionHypothesis]
        simp [isKnown, eq_comm]
      · simp [isKnown]

/-- A literal compiles if it is well-formed. -/
theorem exists_compile_iff {literal : Literal} :
    (∃ pattern, literal.compile = .ok pattern) ↔ literal.IsWellFormed := by
  unfold compile
  constructor
  · rintro ⟨pattern, compiled⟩
    cases areRead : readFlags literal.flags.toList with
    | error letter =>
        rw [areRead] at compiled
        cases compiled
    | ok flags =>
        obtain ⟨areKnown, rfl⟩ := readFlags_eq_ok_iff.mp areRead
        rw [areRead] at compiled
        dsimp only at compiled
        split at compiled
        · rename_i found isPattern
          exact ⟨areKnown, found, isPattern⟩
        · cases compiled
  · rintro ⟨areKnown, pattern, isPattern⟩
    rw [readFlags_eq_ok_iff.mpr ⟨areKnown, rfl⟩]
    exact ⟨pattern, by simp only [isPattern]⟩

end Literal

/-! ## Alternatives -/

namespace Alternative

/-- Whether an alternative can be compiled with an alias table. -/
inductive IsWellFormed (aliases : AliasTable) : Alternative → Prop where
  /-- A literal that is not negated and has no members. -/
  | literal {node : Alternative} {literal : Literal}
        (isLiteral : node.literal = some literal)
      (notNegated : node.negated = false) (noMembers : node.members = [])
      (isWellFormed : literal.IsWellFormed) : IsWellFormed aliases node
  /-- A name that stands for a tag, without members. -/
  | name {node : Alternative} {tag : Text} (noLiteral : node.literal = none)
      (resolves : aliases.resolve? node.name = some tag) (noMembers : node.members = []) :
      IsWellFormed aliases node
  /-- The name of an array, which has members without keys. -/
  | array {node : Alternative} (noLiteral : node.literal = none)
      (resolves : aliases.resolve? node.name = some Kind.array.tag)
      (notNegated : node.negated = false) (hasMembers : node.members ≠ [])
      (members : ∀ member ∈ node.members, IsWellFormed aliases member)
      (noKeys : ∀ member ∈ node.members, member.hasKey = false) :
        IsWellFormed aliases node
  /-- The name of an object or of a map, whose members may declare keys. -/
  | mapping {node : Alternative} {tag : Text} (noLiteral : node.literal = none)
      (resolves : aliases.resolve? node.name = some tag)
      (isMapping : tag = Kind.object.tag ∨ tag = Kind.map.tag)
      (notNegated : node.negated = false) (hasMembers : node.members ≠ [])
      (members : ∀ member ∈ node.members, IsWellFormed aliases member)
      (keys : ∀ member ∈ node.members, member.hasKey = true →
        IsWellFormed aliases member.keyAlternative) : IsWellFormed aliases node

/-- The same alternative without a key. -/
def withoutKey (alternative : Alternative) : Alternative :=
  { alternative with key := none, keyLiteral := none, keyNegated := false }

end Alternative

namespace Check

variable {aliases : AliasTable} {node : Alternative}

/-! ## An alternative without its members -/

/-- The tag of an alternative without regard to members, if it compiles so far. -/
theorem exists_compileOwn_iff {tag : Text} :
    (∃ own, compileOwn aliases node = .ok (tag, own)) ↔
      (∃ literal, node.literal = some literal ∧ node.negated = false ∧
        literal.IsWellFormed ∧
        tag = Kind.string.tag) ∨
      node.literal = none ∧ aliases.resolve? node.name = some tag := by
  simp only [compileOwn_eq_ok_iff]
  constructor
  · rintro ⟨own, ⟨literal, pattern, isLiteral, notNegated, compiled, isText, -⟩ |
      ⟨noLiteral, resolves, -⟩⟩
    · have isWellFormed := Literal.exists_compile_iff.mp ⟨pattern, compiled⟩
      exact .inl ⟨literal, isLiteral, notNegated, isWellFormed, isText⟩
    · exact .inr ⟨noLiteral, resolves⟩
  · rintro (⟨literal, isLiteral, notNegated, isWellFormed, isText⟩ |
      ⟨noLiteral, resolves⟩)
    · obtain ⟨pattern, compiled⟩ := Literal.exists_compile_iff.mpr isWellFormed
      exact ⟨_, .inl ⟨literal, pattern, isLiteral, notNegated, compiled, isText, rfl⟩⟩
    · exact ⟨_, .inr ⟨noLiteral, resolves, rfl⟩⟩

/-- An alternative without members is well-formed if it compiles so far. -/
theorem isWellFormed_iff_of_members_eq_nil (noMembers : node.members = []) :
    node.IsWellFormed aliases ↔ ∃ tag own, compileOwn aliases node = .ok (tag, own) := by
  simp only [exists_compileOwn_iff]
  constructor
  · intro isWellFormed
    cases isWellFormed with
    | literal isLiteral notNegated noMembers isWellFormed =>
        exact ⟨_, .inl ⟨_, isLiteral, notNegated, isWellFormed, rfl⟩⟩
    | name noLiteral resolves noMembers => exact ⟨_, .inr ⟨noLiteral, resolves⟩⟩
    | array noLiteral resolves => exact ⟨_, .inr ⟨noLiteral, resolves⟩⟩
    | mapping noLiteral resolves => exact ⟨_, .inr ⟨noLiteral, resolves⟩⟩
  · rintro ⟨tag, ⟨literal, isLiteral, notNegated, isWellFormed, -⟩ |
      ⟨noLiteral, resolves⟩⟩
    · exact .literal isLiteral notNegated noMembers isWellFormed
    · exact .name noLiteral resolves noMembers

/-! ## Keys -/

/-- A list is related to another one member by member if each of its
members is related to something. -/
theorem exists_forall₂_iff {α β : Type} {related : α → β → Prop} {members : List α} :
    (∃ others, List.Forall₂ related members others) ↔
      ∀ member ∈ members, ∃ other, related member other := by
  induction members with
  | nil => simp
  | cons member rest inductionHypothesis =>
      rw [List.forall_mem_cons, ← inductionHypothesis]
      simp only [List.forall₂_cons_left_iff]
      constructor
      · rintro ⟨_, other, others, first, each, rfl⟩
        exact ⟨⟨other, first⟩, others, each⟩
      · rintro ⟨⟨other, first⟩, others, each⟩
        exact ⟨_, other, others, first, each, rfl⟩

/-- The keys that members declare compile if each of them is well-formed. -/
theorem exists_compileKeys_iff {members : List Alternative} :
    (∃ key, compileKeys aliases members = .ok key) ↔
      ∀ member ∈ members, member.hasKey = true →
        member.keyAlternative.IsWellFormed aliases := by
  have each : (∃ checks, List.Forall₂ (fun node check => ∃ tag,
        compileOwn aliases node = .ok (tag, check))
        ((members.filter Alternative.hasKey).map Alternative.keyAlternative) checks) ↔
      ∀ member ∈ members, member.hasKey = true →
        member.keyAlternative.IsWellFormed aliases := by
    rw [exists_forall₂_iff, List.forall_mem_map]
    simp only [List.mem_filter, and_imp]
    refine forall₃_congr fun member _ _ => ?_
    rw [isWellFormed_iff_of_members_eq_nil rfl, exists_comm]
  simp only [compileKeys_eq_ok_iff]
  constructor
  · rintro ⟨key, ⟨noKeys, -⟩ | ⟨-, checks, compiled, -⟩⟩
    · intro member isMember hasKey
      simp [noKeys member isMember] at hasKey
    · exact each.mp ⟨checks, compiled⟩
  · intro keys
    by_cases hasKeys : ∃ member ∈ members, member.hasKey = true
    · obtain ⟨checks, compiled⟩ := each.mpr keys
      exact ⟨_, .inr ⟨hasKeys, checks, compiled, rfl⟩⟩
    · exact ⟨none, .inl ⟨by simpa using hasKeys, rfl⟩⟩

/-- No check for keys is compiled if no member declares a key. -/
theorem compileKeys_eq_ok_none_iff {members : List Alternative} :
    compileKeys aliases members = .ok none ↔ ∀ member ∈ members,
      member.hasKey = false := by
  simp [compileKeys_eq_ok_iff]

/-! ## Members -/

/-- Members are put under a container that may have them and their keys. -/
theorem exists_withMembers_iff {tag : Text} {own member : Check} {key : Option Check} :
    (∃ check, withMembers tag own member key = .ok check) ↔
      tag = Kind.array.tag ∧ key = none ∨ tag = Kind.object.tag ∨ tag = Kind.map.tag := by
  unfold withMembers Shape.ofTag?
  by_cases isArray : tag = Kind.array.tag
  · cases key <;> simp [isArray, Kind.tag]
  · by_cases isObject : tag = Kind.object.tag
    · simp [isObject, Kind.tag]
    · by_cases isMap : tag = Kind.map.tag
      · simp [isMap, Kind.tag]
      · simp [isArray, isObject, isMap]

/-- An alternative without members compiles if it does so far. -/
theorem compiles_of_members_eq_nil {tag : Text} (noMembers : node.members = [])
    (ownCompiles : ∃ own, compileOwn aliases node = .ok (tag, own)) :
    ∃ check, compileAlternative aliases node = .ok check := by
  obtain ⟨own, ownCompiled⟩ := ownCompiles
  exact ⟨own, compileAlternative_eq_ok_iff.mpr
    ⟨tag, own, ownCompiled, .inl ⟨noMembers, rfl⟩⟩⟩

/-- An alternative with members compiles if it is the name of a container that may have
them and their keys. -/
theorem compiles_of_members_ne_nil {tag : Text} {checks : List Check} {key : Option Check}
    (noLiteral : node.literal = none) (resolves : aliases.resolve? node.name = some tag)
    (notNegated : node.negated = false) (hasMembers : node.members ≠ [])
    (eachCompiled : compileEach aliases node.members = .ok checks)
    (keysCompiled : compileKeys aliases node.members = .ok key)
    (isContainer :
      tag = Kind.array.tag ∧ key = none ∨ tag = Kind.object.tag ∨ tag = Kind.map.tag) :
    ∃ check, compileAlternative aliases node = .ok check := by
  obtain ⟨own, ownCompiled⟩ := exists_compileOwn_iff.mpr (.inr ⟨noLiteral, resolves⟩)
  obtain ⟨check, putUnder⟩ : ∃ check,
      withMembers tag own (ofGroup checks) key = .ok check :=
    exists_withMembers_iff.mpr isContainer
  exact ⟨check, compileAlternative_eq_ok_iff.mpr ⟨tag, own, ownCompiled,
    .inr ⟨hasMembers, notNegated, checks, key, eachCompiled, keysCompiled, putUnder⟩⟩⟩

/-- An alternative compiles if it is well-formed, provided
that this holds of its members. -/
theorem exists_compileAlternative_iff_of_members
    (each : (∃ checks, compileEach aliases node.members = .ok checks) ↔
      ∀ member ∈ node.members, member.IsWellFormed aliases) :
    (∃ check, compileAlternative aliases node = .ok check) ↔
      node.IsWellFormed aliases := by
  constructor
  · rintro ⟨check, compiled⟩
    obtain ⟨tag, own, ownCompiled, ⟨noMembers, -⟩ |
        ⟨hasMembers, notNegated, hasContainer⟩⟩ :=
      compileAlternative_eq_ok_iff.mp compiled
    · exact (isWellFormed_iff_of_members_eq_nil noMembers).mpr ⟨tag, own, ownCompiled⟩
    · obtain ⟨checks, key, eachCompiled, keysCompiled, putUnder⟩ := hasContainer
      have members := each.mp ⟨checks, eachCompiled⟩
      have isContainer := exists_withMembers_iff.mp ⟨check, putUnder⟩
      obtain ⟨literal, -, -, -, isText⟩ | ⟨noLiteral, resolves⟩ :=
        exists_compileOwn_iff.mp ⟨own, ownCompiled⟩
      · -- A text has no members.
        simp [isText, Kind.tag] at isContainer
      · obtain ⟨rfl, rfl⟩ | isMapping := isContainer
        · exact .array noLiteral resolves notNegated hasMembers members
            (compileKeys_eq_ok_none_iff.mp keysCompiled)
        · exact .mapping noLiteral resolves isMapping notNegated hasMembers members
            (exists_compileKeys_iff.mp ⟨key, keysCompiled⟩)
  · intro isWellFormed
    cases isWellFormed with
    | literal isLiteral notNegated noMembers isWellFormed =>
        exact compiles_of_members_eq_nil noMembers
          (exists_compileOwn_iff.mpr (.inl ⟨_, isLiteral, notNegated, isWellFormed, rfl⟩))
    | name noLiteral resolves noMembers =>
        exact compiles_of_members_eq_nil noMembers
          (exists_compileOwn_iff.mpr (.inr ⟨noLiteral, resolves⟩))
    | array noLiteral resolves notNegated hasMembers members noKeys =>
        obtain ⟨checks, eachCompiled⟩ := each.mpr members
        exact compiles_of_members_ne_nil noLiteral resolves notNegated hasMembers
          eachCompiled
          (compileKeys_eq_ok_none_iff.mpr noKeys) (.inl ⟨rfl, rfl⟩)
    | mapping noLiteral resolves isMapping notNegated hasMembers members keys =>
        obtain ⟨checks, eachCompiled⟩ := each.mpr members
        obtain ⟨key, keysCompiled⟩ := exists_compileKeys_iff.mpr keys
        exact compiles_of_members_ne_nil noLiteral resolves notNegated hasMembers
          eachCompiled
          keysCompiled (.inr isMapping)

mutual

/-- An alternative compiles if it is well-formed. -/
theorem exists_compileAlternative_iff :
    ∀ node : Alternative,
      (∃ check, compileAlternative aliases node = .ok check) ↔ node.IsWellFormed aliases
  | ⟨_, _, _, members, _, _, _⟩ =>
      exists_compileAlternative_iff_of_members (exists_compileEach_iff members)

/-- Alternatives compile if each of them is well-formed. -/
theorem exists_compileEach_iff :
    ∀ nodes : List Alternative,
      (∃ checks, compileEach aliases nodes = .ok checks) ↔
        ∀ node ∈ nodes, node.IsWellFormed aliases
  | [] => by simp [compileEach, pure, Except.pure]
  | node :: rest => by
      rw [List.forall_mem_cons, ← exists_compileAlternative_iff node,
        ← exists_compileEach_iff rest]
      simp only [compileEach_eq_ok_iff, exists_forall₂_iff]
      exact List.forall_mem_cons

end

/-- Whether an alternative is well-formed is decided by compiling it. -/
instance (aliases : AliasTable) (node : Alternative) :
    Decidable (node.IsWellFormed aliases) :=
  decidable_of_iff ((compileAlternative aliases node).toOption.isSome = true) <| by
    rw [← exists_compileAlternative_iff]
    cases compileAlternative aliases node with
    | error error => simp [Except.toOption]
    | ok check => simp [Except.toOption]

/-- An object may have a member with a key, and an array may not. -/
example :
    let member : Alternative :=
      { Alternative.blank with name := "num", key := some "str" }
    { Alternative.blank with name := "obj", members := [member] }.IsWellFormed .standard ∧
      ¬ { Alternative.blank with name := "arr", members := [member] }.IsWellFormed
        .standard := by
  decide +kernel

/-! ## Lists of alternatives -/

/-- An alternative compiles to the same check without its own key. -/
theorem compileAlternative_withoutKey (node : Alternative) :
    compileAlternative aliases node.withoutKey = compileAlternative aliases node := by
  obtain ⟨name, negated, literal, members, key, keyLiteral, keyNegated⟩ := node
  simp only [Alternative.withoutKey, compileAlternative, compileOwn]

/-- Alternatives compile to the same checks without their own keys. -/
theorem compileEach_withoutKey (nodes : List Alternative) :
    compileEach aliases (nodes.map Alternative.withoutKey) =
      compileEach aliases nodes := by
  induction nodes with
  | nil => rfl
  | cons node rest inductionHypothesis =>
      rw [List.map_cons, compileEach, compileEach, compileAlternative_withoutKey,
        inductionHypothesis]

/-- A list of alternatives compiles if it is not empty and each of its alternatives is
well-formed, and the keys that they declare themselves make no difference. -/
theorem compiles_iff_isWellFormed (aliases : AliasTable)
    (alternatives : List Alternative) :
    ((∃ check, compileGroup aliases alternatives = .ok check) ↔
        alternatives ≠ [] ∧ ∀ alternative ∈ alternatives,
          alternative.IsWellFormed aliases) ∧
      compileGroup aliases (alternatives.map Alternative.withoutKey) =
        compileGroup aliases alternatives := by
  constructor
  · rw [← exists_compileEach_iff]
    simp only [compileGroup_eq_ok_iff]
    constructor
    · rintro ⟨_, isNonempty, checks, compiled, -⟩
      exact ⟨isNonempty, checks, compiled⟩
    · rintro ⟨isNonempty, checks, compiled⟩
      exact ⟨_, isNonempty, checks, compiled, rfl⟩
  · rw [compileGroup, compileGroup, List.isEmpty_map, compileEach_withoutKey]

end Check
end KindExpr
