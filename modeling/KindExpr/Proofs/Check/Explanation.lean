import KindExpr.Proofs.Check.Descent

/-!
# Rejections are explained

A check explains a set of values if it accepts none outside of the set, rejects none in
it, and blames the right place when it rejects. Unlike in the decision of membership
nothing is assumed of the value: a check that fails, because a value cannot be shown or
a search has no outcome, explains nothing and need not.

The proof follows the compiler, as that of membership does.
-/

namespace KindExpr
namespace Check

/-! ## Outcomes that explain -/

/-- Whether the outcome of a check is right about what is admitted and whom to blame, if
there is an outcome. -/
inductive Explains (admitted : Prop) (blames : Rejection → Prop) : Outcome → Prop where
  | accepted (isAdmitted : admitted) : Explains admitted blames (.ok none)
  | rejected {found : Rejection} (notAdmitted : ¬ admitted) (isBlamed : blames found) :
      Explains admitted blames (.ok (some found))
  | failed (fault : RunFault) : Explains admitted blames (.error fault)

namespace Explains

variable {admitted other : Prop} {blames blamesToo : Rejection → Prop}
  {outcome next : Outcome}

/-- An outcome explains what is equivalent, and blames whom
there is more reason to blame. -/
theorem imp (explains : Explains admitted blames outcome) (same : admitted ↔ other)
    (weaker : ∀ found, ¬ other → blames found → blamesToo found) :
    Explains other blamesToo outcome := by
  cases explains with
  | accepted isAdmitted => exact .accepted (same.mp isAdmitted)
  | rejected notAdmitted isBlamed =>
      have notOther := notAdmitted ∘ same.mpr
      exact .rejected notOther (weaker _ notOther isBlamed)
  | failed fault => exact .failed fault

/-- An outcome that is followed by another only after acceptance: the
first rejection is to blame. -/
theorem and (explains : Explains admitted blames outcome)
    (nextExplains : admitted → Explains other blamesToo next) :
    Explains (admitted ∧ other)
      (fun found => ¬ admitted ∧ blames found ∨ admitted ∧ ¬ other ∧ blamesToo found)
      (outcome >>= fun
        | some found => .ok (some found)
        | none => next) := by
  cases explains with
  | accepted isAdmitted =>
      refine (nextExplains isAdmitted).imp (by simp [isAdmitted]) ?_
      exact fun found notBoth isBlamed =>
        .inr ⟨isAdmitted, fun isOther => notBoth ⟨isAdmitted, isOther⟩, isBlamed⟩
  | rejected notAdmitted isBlamed =>
      exact .rejected (fun both => notAdmitted both.1) (.inl ⟨notAdmitted, isBlamed⟩)
  | failed fault => exact .failed fault

/-- An outcome that is followed by another only after a rejection: the
last rejection is to blame. -/
theorem or (explains : Explains admitted blames outcome)
    (nextExplains : Explains other blamesToo next) :
    Explains (admitted ∨ other) blamesToo (outcome >>= fun
      | none => .ok none
      | some _ => next) := by
  cases explains with
  | accepted isAdmitted => exact .accepted (.inl isAdmitted)
  | rejected notAdmitted isBlamed =>
      exact nextExplains.imp (by simp [notAdmitted]) fun _ _ isBlamed => isBlamed
  | failed fault => exact .failed fault

end Explains

/-- Whether a check explains which values are admitted, and
whom it blames for the others. -/
def IsExplained (check : Check) (admits : Value → Prop)
    (blames : Value → Text → Rejection → Prop) : Prop :=
  ∀ value name, Explains (admits value) (blames value name)
    (check.run Value.tag value name)

/-! ## Tests on the value itself -/

section Tests

variable {admitted : Prop} {value : Value} {name : Text}

theorem reject_explains {reason : Text} (notAdmitted : ¬ admitted) :
    Explains admitted (· = ⟨value, name, reason⟩) (reject value name reason) := by
  rw [reject]
  split
  · exact .rejected notAdmitted rfl
  · exact .failed _

theorem testKind_explains {tag : Text} {negated : Bool} :
    Explains (decide (value.tag = tag) ≠ negated)
      (· = ⟨value, name, kindReason tag negated⟩)
      (testKind Value.tag tag negated value name) := by
  rw [testKind_eq]
  split
  · rename_i differs
    exact .accepted differs
  · rename_i agrees
    exact reject_explains agrees

theorem testFormat_explains {literal : Literal} {pattern : Pattern}
    (compiled : literal.compile = .ok pattern) :
    Explains (literal.Admits value) (· = ⟨value, name, formatReason literal⟩)
      (testFormat Value.tag literal pattern value name) := by
  unfold testFormat
  split
  · rename_i isString
    split
    · rename_i text isText
      cases searched : pattern.search text with
      | ok isFound =>
          have admits :=
            Literal.admits_iff_of_search compiled (Value.tag_eq_iff.mp isString)
            isText searched
          cases isFound with
          | true => exact .accepted (admits.mpr rfl)
          | false => exact reject_explains (by simp [admits])
      | error fault => exact .failed _
    · split <;> exact .failed _
  · rename_i notString
    exact reject_explains fun admits => notString (Value.tag_eq_iff.mpr admits.1)

end Tests

/-- The check of an alternative without its members explains which values the
alternative admits itself. -/
theorem compileOwn_isExplained {aliases : AliasTable} {node : Alternative} {tag : Text}
    {own : Check} (compiled : compileOwn aliases node = .ok (tag, own)) :
    own.IsExplained (node.AdmitsOwn aliases)
      fun value name found => found = ⟨value, name, node.reason aliases⟩ := by
  intro value name
  obtain ⟨literal, pattern, isLiteral, -, patternCompiled, -, rfl⟩ |
      ⟨noLiteral, resolves, rfl⟩ :=
    compileOwn_eq_ok_iff.mp compiled
  · rw [run, Alternative.reason, isLiteral]
    exact (testFormat_explains patternCompiled).imp
      (Alternative.admitsOwn_of_literal isLiteral value).symm fun _ _ isBlamed => isBlamed
  · rw [run]
    refine testKind_explains.imp
      (Alternative.admitsOwn_of_name noLiteral resolves value).symm ?_
    rintro found - rfl
    rw [Alternative.reason, noLiteral, resolves]
    rfl

/-! ## Groups -/

/-- A group explains the union of what its checks explain, and blames
whom the last check blames. -/
theorem ofGroup_isExplained {nodes : List Alternative} {checks : List Check}
    {admits : Alternative → Value → Prop}
    {blames : Alternative → Value → Text → Rejection → Prop}
    (each : List.Forall₂ (fun node check => check.IsExplained (admits node) (blames node))
      nodes checks)
    (isNonempty : nodes ≠ []) :
    (ofGroup checks).IsExplained (fun value => ∃ node ∈ nodes, admits node value)
      fun value name found => ∃ node, nodes.getLast? = some node ∧
        blames node value name found := by
  intro value name
  rw [run_ofGroup]
  induction each with
  | nil => exact absurd rfl isNonempty
  | @cons node check rest others isExplained each inductionHypothesis =>
      have explains := isExplained value name
      cases each with
      | nil =>
          rw [runAny]
          exact explains.imp (by simp) fun found _ isBlamed => ⟨node, rfl, isBlamed⟩
      | @cons second _ later _ _ _ =>
          rw [runAny]
          refine (explains.or (inductionHypothesis (by simp))).imp (by simp) ?_
          rintro found - ⟨last, isLast, isBlamed⟩
          exact ⟨last, by rw [List.getLast?_cons_cons, isLast], isBlamed⟩

/-- The check for keys explains which keys the declared keys admit, and blames the last
declared key; where none is declared there is no check and every key is admitted. -/
theorem compileKeys_isExplained {aliases : AliasTable} {members : List Alternative}
    {key : Option Check} (compiled : compileKeys aliases members = .ok key)
    (value : Value) (name : Text) :
    Explains (Alternative.KeysAdmit aliases members value)
      (Blames aliases (Alternative.keyGroup members) value name)
        (keyTest key value name) := by
  obtain ⟨noKeys, rfl⟩ | ⟨hasKeys, checks, keysCompiled, rfl⟩ :=
    compileKeys_eq_ok_iff.mp compiled
  · refine .accepted fun ⟨member, isMember, hasKey⟩ => ?_
    simp [noKeys member isMember] at hasKey
  · have each : List.Forall₂ (fun (node : Alternative) (check : Check) =>
        check.IsExplained (node.AdmitsOwn aliases) fun value name found =>
          ¬ node.AdmitsOwn aliases value ∧ found = ⟨value, name, node.reason aliases⟩)
        (Alternative.keyGroup members) checks := by
      refine keysCompiled.imp fun node check ⟨tag, ownCompiled⟩ value name => ?_
      exact (compileOwn_isExplained ownCompiled value name).imp Iff.rfl
        fun found notAdmitted isBlamed => ⟨notAdmitted, isBlamed⟩
    have notEmpty : Alternative.keyGroup members ≠ [] := by
      simpa [Alternative.keyGroup] using hasKeys
    refine (ofGroup_isExplained each notEmpty value name).imp ?_ ?_
    · simp [Alternative.KeysAdmit, hasKeys, Alternative.keyGroup, and_assoc]
    · rintro found - ⟨last, isLast, rejects, rfl⟩
      exact .own isLast rejects

/-! ## Members -/

/-- Going through members explains whether all of them pass, and
blames the first that does not. -/
theorem firstRejection_explains {aliases : AliasTable} {alternatives : List Alternative}
    {keyTest test : Value → Text → Outcome}
    (keyExplains : ∀ key path, Explains (Alternative.KeysAdmit aliases alternatives key)
      (Blames aliases (Alternative.keyGroup alternatives) key path) (keyTest key path))
    (valueExplains : ∀ value path,
      Explains (Alternative.SomeAdmits aliases alternatives value)
      (Blames aliases alternatives value path) (test value path))
    (members : List Member) :
    Explains (∀ member ∈ members, member.Passes aliases alternatives)
      (BlamesFirst aliases alternatives members)
        (firstRejection keyTest test members) := by
  induction members with
  | nil =>
      rw [firstRejection]
      exact .accepted (by simp)
  | cons member rest inductionHypothesis =>
      -- The rest is looked at only if the member passes.
      have ofValue : (∀ key path, member.key = some (key, path) →
            Alternative.KeysAdmit aliases alternatives key) →
          Explains (∀ other ∈ member :: rest, other.Passes aliases alternatives)
            (BlamesFirst aliases alternatives (member :: rest))
            (firstRejection keyTest test ({ member with key := none } :: rest)) := by
        intro keyPasses
        rw [firstRejection]
        cases isNamed : member.name with
        | none => exact .failed _
        | some path =>
            refine ((valueExplains member.value path).and fun _ =>
              inductionHypothesis).imp ?_ ?_
            · rw [List.forall_mem_cons]
              exact and_congr_left fun _ =>
                ⟨fun passes => ⟨keyPasses, passes⟩, fun both => both.2⟩
            · rintro found - (⟨rejects, further⟩ | ⟨passes, -, first⟩)
              · exact .value keyPasses isNamed rejects further
              · exact .later ⟨keyPasses, passes⟩ first
      rw [firstRejection]
      cases hasKey : member.key with
      | none =>
          refine ofValue fun key path isKey => ?_
          rw [hasKey] at isKey
          cases isKey
      | some entry =>
          obtain ⟨key, path⟩ := entry
          have keyPasses : Alternative.KeysAdmit aliases alternatives key →
              ∀ other otherPath, member.key = some (other, otherPath) →
                Alternative.KeysAdmit aliases alternatives other := by
            intro admits other otherPath isKey
            rw [hasKey] at isKey
            cases isKey
            exact admits
          refine ((keyExplains key path).and fun admits =>
            ofValue (keyPasses admits)).imp ?_ ?_
          · rw [List.forall_mem_cons]
            exact ⟨fun both => both.2, fun both => ⟨both.1.key key path hasKey, both⟩⟩
          · rintro found - (⟨rejects, further⟩ | ⟨-, -, first⟩)
            · exact .key hasKey rejects further
            · exact first

/-- A container explains which values an alternative with members admits, if its parts
explain what the alternative admits itself, its keys and its members. -/
theorem container_isExplained {aliases : AliasTable} {node : Alternative} {tag : Text}
    {shape : Shape} {own member : Check} {key : Option Check}
    (isShape : Shape.ofTag? tag = some shape)
    (tag_eq : ∀ value, node.AdmitsOwn aliases value → value.tag = tag)
    (ownExplained : own.IsExplained (node.AdmitsOwn aliases)
      fun value name found => found = ⟨value, name, node.reason aliases⟩)
    (keyExplains : ∀ item path, Explains (Alternative.KeysAdmit aliases node.members item)
      (Blames aliases (Alternative.keyGroup node.members) item path)
        (keyTest key item path))
    (memberExplained : member.IsExplained (Alternative.SomeAdmits aliases node.members)
      (Blames aliases node.members)) :
    (container own shape member key).IsExplained
      (fun value => node.AdmitsOwn aliases value ∧
        (∀ item ∈ value.memberValues, Alternative.SomeAdmits aliases node.members item) ∧
          ∀ entry ∈ value.memberKeys, Alternative.KeysAdmit aliases node.members entry)
      (Blames aliases [node]) := by
  intro value name
  have membersExplain : value.tag = tag → Explains
      ((∀ item ∈ value.memberValues, Alternative.SomeAdmits aliases node.members item) ∧
        ∀ entry ∈ value.memberKeys, Alternative.KeysAdmit aliases node.members entry)
      (BlamesFirst aliases node.members (value.membersUnder name))
      (shape.members value name >>= fun members =>
        firstRejection (keyTest key) (member.run Value.tag) members) := by
    intro hasTag
    rw [← hasTag] at isShape
    rw [Value.members_eq_membersUnder isShape]
    refine (firstRejection_explains keyExplains memberExplained
      (value.membersUnder name)).imp ?_
      fun _ _ isBlamed => isBlamed
    rw [← Value.forall_membersUnder_iff isShape name]
    exact forall₂_congr fun found _ =>
      ⟨fun passes => ⟨passes.key, passes.value⟩, fun both => ⟨both.1, both.2⟩⟩
  rw [run_container]
  refine ((ownExplained value name).and fun admits =>
    membersExplain (tag_eq value admits)).imp
    Iff.rfl ?_
  rintro found - (⟨rejects, rfl⟩ | ⟨admits, -, first⟩)
  · exact .own rfl rejects
  · exact .inside rfl admits first

/-! ## Compiled alternatives -/

/-- Whom the last alternative of a group blames the group blames. -/
theorem blames_of_getLast {aliases : AliasTable} {group : List Alternative}
    {last : Alternative}
    {value : Value} {name : Text} {found : Rejection}
    (isLast : group.getLast? = some last)
    (blames : Blames aliases [last] value name found) :
    Blames aliases group value name found := by
  cases blames with
  | own isOwn rejects =>
      cases isOwn
      exact .own isLast rejects
  | inside isOwn admits first =>
      cases isOwn
      exact .inside isLast admits first

/-- A group whose checks explain their alternatives explains the list of alternatives. -/
theorem ofGroup_isExplained_by_blames {aliases : AliasTable}
    {alternatives : List Alternative}
    {checks : List Check}
    (each : List.Forall₂ (fun (node : Alternative) (check : Check) =>
      check.IsExplained (node.Admits aliases) (Blames aliases [node]))
        alternatives checks)
    (isNonempty : alternatives ≠ []) :
    (ofGroup checks).IsExplained (Alternative.SomeAdmits aliases alternatives)
      (Blames aliases alternatives) := by
  intro value name
  refine (ofGroup_isExplained each isNonempty value name).imp
    Alternative.someAdmits_iff.symm ?_
  rintro found - ⟨last, isLast, isBlamed⟩
  exact blames_of_getLast isLast isBlamed

/-- The check of an alternative explains which values the alternative admits. -/
theorem keptByCompiling_isExplained (aliases : AliasTable) :
    KeptByCompiling aliases fun node check =>
      check.IsExplained (node.Admits aliases) (Blames aliases [node]) where
  plain node tag own noMembers ownCompiled value path := by
    have same : node.AdmitsOwn aliases value ↔ node.Admits aliases value := by
      simp [Alternative.admits_iff, noMembers]
    refine (compileOwn_isExplained ownCompiled value path).imp same ?_
    rintro found notAdmitted rfl
    exact .own rfl (notAdmitted ∘ same.mp)
  container node tag own shape checks key isNonempty notNegated ownCompiled isShape each
      keysCompiled value path := by
    refine (container_isExplained isShape
      (fun _ => tag_eq_of_admitsOwn ownCompiled notNegated)
      (compileOwn_isExplained ownCompiled) (compileKeys_isExplained keysCompiled)
      (ofGroup_isExplained_by_blames each isNonempty) value path).imp ?_
        fun _ _ isBlamed => isBlamed
    rw [Alternative.admits_iff]
    simp only [isNonempty, ne_eq, not_false_eq_true, forall_const]

/-! ## Messages -/

/-- The message of a rejection is that of the one place which the alternatives blame. -/
theorem exists_unique_blames_of_apply {aliases : AliasTable}
    {alternatives : List Alternative}
    {check : Check} {value : Value} {name message : Text}
    (compiled : compileGroup aliases alternatives = .ok check)
    (rejected : check.apply value name = .ok (some message)) :
    ∃ found, Blames aliases alternatives value name found ∧
      message = rejection found.value found.name found.reason ∧
      ∀ other, Blames aliases alternatives value name other → other = found := by
  obtain ⟨isNonempty, checks, eachCompiled, rfl⟩ := compileGroup_eq_ok_iff.mp compiled
  have explained := ofGroup_isExplained_by_blames
    ((keptByCompiling_isExplained aliases).each alternatives checks eachCompiled)
      isNonempty
  obtain ⟨outcome, ran, isMessage⟩ := Outcome.map_eq_ok_iff.mp rejected
  obtain ⟨found, rfl, rfl⟩ := Option.map_eq_some_iff.mp isMessage
  have explains := explained value name
  rw [ran] at explains
  cases explains with
  | rejected notAdmitted isBlamed =>
      exact ⟨found, isBlamed, rfl, fun other isBlamedToo => isBlamedToo.unique isBlamed⟩

/-- In a map without a name the second item of its first value is rejected by the last
alternative for items, although its key and its first item pass. -/
theorem exists_unique_blames_of_apply_item :
    ∃ parsed check, parse "map<!num:arr<str|bool>>" [] = .ok parsed ∧
      compileGroup .standard parsed.alternatives = .ok check ∧
      check.apply (.mapping .ordered [(.text "a", .list [.text "b", .integer 5])]) "" =
        .ok (some "Expected boolean for \"0[1]\", got 5 (number)") ∧
      ∃ found, Blames .standard parsed.alternatives
          (.mapping .ordered [(.text "a", .list [.text "b", .integer 5])]) "" found ∧
        "Expected boolean for \"0[1]\", got 5 (number)" =
          rejection found.value found.name found.reason ∧
        ∀ other, Blames .standard parsed.alternatives
          (.mapping .ordered [(.text "a", .list [.text "b", .integer 5])]) "" other →
            other = found := by
  let alternatives : List Alternative :=
    [⟨"map", false, none,
      [⟨"arr", false, none,
        [⟨"str", false, none, [], none, none, false⟩,
          ⟨"bool", false, none, [], none, none, false⟩], some "num", none, true⟩], none,
            none,
      false⟩]
  have ran : ((compileGroup .standard alternatives).map fun check =>
      check.apply (.mapping .ordered [(.text "a", .list [.text "b", .integer 5])]) "") =
        .ok (.ok (some "Expected boolean for \"0[1]\", got 5 (number)")) := by
    decide +kernel
  obtain ⟨check, compiled, rejected⟩ := Outcome.map_eq_ok_iff.mp ran
  exact ⟨⟨alternatives, "map<!num:arr<str|bool>>"⟩, check, rfl, compiled, rejected,
    exists_unique_blames_of_apply compiled rejected⟩

end Check
end KindExpr
