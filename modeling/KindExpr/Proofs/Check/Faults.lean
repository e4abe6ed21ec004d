import KindExpr.Proofs.Check.Explanation

/-!
# Where the faults of a check come from

A compiled check goes through a value as a container only after a test on the kind
of the value, and searches in a value only after a test that it is a text. So none
of these steps can fail for want of members or of a text. What is left are the
faults that lie in the value: a part of it that cannot be shown, or a text in
which a search has no outcome.

The proof follows a fault back to where it arose: from a group to one of its checks,
from a container to one of its members.
-/

namespace KindExpr

/-- Whether a fault has its cause in a value that is checked against some
literals: something in the value cannot be shown, or a search for one of the
literals in a text of the value fails. -/
inductive IsCausedBy (literals : List Literal) (value : Value) : RunFault → Prop where
  | unshown (isLong : value.isWritable = false) : IsCausedBy literals value .unwritable
  | search {fault : Pattern.SearchFault} (fails : SearchFails literals value fault) :
      IsCausedBy literals value (.search fault)

namespace IsCausedBy

variable {literals others : List Literal} {value member : Value} {fault : RunFault}

/-- With more literals there are more causes. -/
theorem mono (isCaused : IsCausedBy literals value fault) (subset : literals ⊆ others) :
    IsCausedBy others value fault := by
  cases isCaused with
  | unshown isLong => exact .unshown isLong
  | search fails => exact .search (fails.mono subset)

/-- A cause that lies in a value of a container lies in the container. -/
theorem ofValue (isCaused : IsCausedBy literals member fault)
    (isMember : member ∈ value.memberValues) : IsCausedBy literals value fault := by
  cases isCaused with
  | unshown isLong =>
      refine .unshown (Bool.eq_false_iff.mpr fun isWritable => ?_)
      rw [Value.isWritable_of_mem_memberValues isWritable isMember] at isLong
      cases isLong
  | search fails => exact .search (fails.ofValue isMember)

/-- A cause that lies in a key of a container lies in the container. -/
theorem ofKey (isCaused : IsCausedBy literals member fault)
    (isKey : member ∈ value.memberKeys) : IsCausedBy literals value fault := by
  cases isCaused with
  | unshown isLong =>
      refine .unshown (Bool.eq_false_iff.mpr fun isWritable => ?_)
      rw [Value.isWritable_of_mem_memberKeys isWritable isKey] at isLong
      cases isLong
  | search fails => exact .search (fails.ofKey isKey)

end IsCausedBy

/-- What is gone through are the values and the keys of a value. -/
theorem Value.mem_of_mem_membersUnder {value : Value} {shape : Shape} {name : Text}
    {member : Member} (isShape : Shape.ofTag? value.tag = some shape)
    (isMember : member ∈ value.membersUnder name) :
    (∀ key path, member.key = some (key, path) → key ∈ value.memberKeys) ∧
      member.value ∈ value.memberValues := by
  have all : ∀ member ∈ value.membersUnder name,
      (∀ key path, member.key = some (key, path) → key ∈ value.memberKeys) ∧
        member.value ∈ value.memberValues :=
    (forall_membersUnder_iff isShape name).mpr
      ⟨fun _ isItem => isItem, fun _ isKey => isKey⟩
  exact all member isMember

/-- A member of a value has no name only if its key cannot be shown. -/
theorem Value.isWritable_of_unnamed {value : Value} {name : Text} {member : Member}
    (isMember : member ∈ value.membersUnder name) (isUnnamed : member.name = none) :
    value.isWritable = false := by
  unfold membersUnder at isMember
  split at isMember
  · obtain ⟨index, isBelow, rfl⟩ := List.mem_mapIdx.mp isMember
    cases isUnnamed
  · rename_i entries kind hasEntries
    obtain ⟨index, isBelow, rfl⟩ := List.mem_mapIdx.mp isMember
    refine Bool.eq_false_iff.mpr fun isWritable => ?_
    have keyIsWritable :=
      (isWritable_of_entries isWritable hasEntries _ (List.getElem_mem isBelow)).1
    simp [fieldName?, plain?, keyIsWritable] at isUnnamed
  · obtain ⟨index, isBelow, rfl⟩ := List.mem_mapIdx.mp isMember
    cases isUnnamed
  · cases isMember

namespace Check

/-- Whether all faults of a check have their causes in the values it is run on. -/
def HasCauses (check : Check) (literals : List Literal) : Prop :=
  ∀ value name fault, check.run Value.tag value name = .error fault →
    IsCausedBy literals value fault

theorem HasCauses.mono {check : Check} {literals others : List Literal}
    (hasCauses : check.HasCauses literals) (subset : literals ⊆ others) :
    check.HasCauses others :=
  fun value name fault failed => (hasCauses value name fault failed).mono subset

/-! ## Tests on the value itself -/

section Tests

variable {literals : List Literal} {value : Value} {name reason : Text} {fault : RunFault}

theorem isCausedBy_of_reject (failed : reject value name reason = .error fault) :
    IsCausedBy literals value fault := by
  unfold reject at failed
  split at failed
  · cases failed
  · rename_i notWritable
    cases failed
    exact .unshown (Bool.eq_false_iff.mpr notWritable)

theorem isCausedBy_of_testKind {tag : Text} {negated : Bool}
    (failed : testKind Value.tag tag negated value name = .error fault) :
    IsCausedBy literals value fault := by
  unfold testKind at failed
  split at failed
  · cases failed
  · exact isCausedBy_of_reject failed

/-- A search is made in a text only. -/
theorem isCausedBy_of_testFormat {literal : Literal} {pattern : Pattern}
    (compiled : literal.compile = .ok pattern)
    (failed : testFormat Value.tag literal pattern value name = .error fault) :
    IsCausedBy [literal] value fault := by
  unfold testFormat at failed
  split at failed
  · rename_i isString
    obtain ⟨text, isText⟩ := Value.exists_text_of_kind (Value.tag_eq_iff.mp isString)
    rw [isText] at failed
    dsimp only at failed
    split at failed
    · cases failed
    · exact isCausedBy_of_reject failed
    · rename_i cause searched
      cases failed
      exact .search ⟨literal, List.mem_singleton_self literal, pattern, text, compiled,
        .own isText, searched⟩
  · exact isCausedBy_of_reject failed

/-- The check of an alternative without its members fails for what lies in the value. -/
theorem compileOwn_hasCauses {aliases : AliasTable} {node : Alternative} {tag : Text}
    {own : Check} (compiled : compileOwn aliases node = .ok (tag, own)) :
    own.HasCauses node.literal.toList := by
  intro value name fault failed
  obtain ⟨literal, pattern, isLiteral, -, patternCompiled, -, rfl⟩ | ⟨-, -, rfl⟩ :=
    compileOwn_eq_ok_iff.mp compiled
  · rw [run] at failed
    rw [isLiteral]
    exact isCausedBy_of_testFormat patternCompiled failed
  · rw [run] at failed
    exact isCausedBy_of_testKind failed

/-- The check of an alternative that is not negated accepts only values
with the tag it compiles to. -/
theorem tag_eq_of_accepts {aliases : AliasTable} {node : Alternative} {tag : Text}
    {own : Check} (compiled : compileOwn aliases node = .ok (tag, own))
    (notNegated : node.negated = false)
    (accepts : own.run Value.tag value name = .ok none) : value.tag = tag := by
  have explains := compileOwn_isExplained compiled value name
  rw [accepts] at explains
  cases explains with
  | accepted isAdmitted => exact tag_eq_of_admitsOwn compiled notNegated isAdmitted

end Tests

/-! ## Groups and containers -/

/-- A group fails as one of its checks does. -/
theorem exists_fault_of_ofGroup {checks : List Check} {value : Value} {name : Text}
    {fault : RunFault}
    (failed : (ofGroup checks).run Value.tag value name = .error fault) :
    ∃ check ∈ checks, check.run Value.tag value name = .error fault := by
  rw [run_ofGroup] at failed
  induction checks with
  | nil =>
      rw [runAny] at failed
      cases failed
  | cons check rest inductionHypothesis =>
      cases rest with
      | nil =>
          rw [runAny] at failed
          exact ⟨check, List.mem_cons_self, failed⟩
      | cons next later =>
          rw [runAny] at failed
          obtain own | ⟨found, -, goneOn⟩ := Outcome.bind_eq_error_iff.mp failed
          · exact ⟨check, List.mem_cons_self, own⟩
          · cases found with
            | none => cases goneOn
            | some rejected =>
                obtain ⟨other, isLater, ofOther⟩ := inductionHypothesis goneOn
                exact ⟨other, List.mem_cons_of_mem _ isLater, ofOther⟩

/-- Going through members fails as one of the tests does, or
because a member has no name. -/
theorem exists_fault_of_firstRejection {keyTest test : Value → Text → Outcome}
    {members : List Member} {fault : RunFault}
    (failed : firstRejection keyTest test members = .error fault) :
    ∃ member ∈ members,
      (∃ key path, member.key = some (key, path) ∧ keyTest key path = .error fault) ∨
        (member.name = none ∧ fault = .unwritable) ∨
          ∃ path, test member.value path = .error fault := by
  induction members with
  | nil => cases failed
  | cons member rest inductionHypothesis =>
      rw [firstRejection_cons] at failed
      obtain ofKey | ⟨keyFound, -, goneOn⟩ := Outcome.bind_eq_error_iff.mp failed
      · cases hasKey : member.key with
        | none =>
            rw [hasKey] at ofKey
            cases ofKey
        | some entry =>
            rw [hasKey] at ofKey
            exact ⟨member, List.mem_cons_self, .inl ⟨entry.1, entry.2, hasKey, ofKey⟩⟩
      · cases keyFound with
        | some rejected => cases goneOn
        | none =>
            dsimp only at goneOn
            cases isNamed : member.name with
            | none =>
                rw [isNamed] at goneOn
                cases goneOn
                exact ⟨member, List.mem_cons_self, .inr (.inl ⟨isNamed, rfl⟩)⟩
            | some path =>
                rw [isNamed] at goneOn
                obtain ofValue | ⟨found, -, goneOn⟩ := Outcome.bind_eq_error_iff.mp goneOn
                · exact ⟨member, List.mem_cons_self, .inr (.inr ⟨path, ofValue⟩)⟩
                · cases found with
                  | some rejected => cases goneOn
                  | none =>
                      obtain ⟨other, isLater, ofOther⟩ := inductionHypothesis goneOn
                      exact ⟨other, List.mem_cons_of_mem _ isLater, ofOther⟩

/-- A container fails for what lies in the value if its parts do, and if its own check
accepts only values that can be gone through. -/
theorem container_hasCauses {tag : Text} {shape : Shape} {own member : Check}
    {key : Option Check} {literals : List Literal}
    (isShape : Shape.ofTag? tag = some shape)
    (tag_eq : ∀ value name, own.run Value.tag value name = .ok none → value.tag = tag)
    (ownHasCauses : own.HasCauses literals) (memberHasCauses : member.HasCauses literals)
    (keyHasCauses : ∀ check, key = some check → check.HasCauses literals) :
    (container own shape member key).HasCauses literals := by
  intro value name fault failed
  rw [run_container] at failed
  obtain ofOwn | ⟨found, ownRan, goneOn⟩ := Outcome.bind_eq_error_iff.mp failed
  · exact ownHasCauses value name fault ofOwn
  cases found with
  | some rejected => cases goneOn
  | none =>
      rw [← tag_eq value name ownRan] at isShape
      dsimp only at goneOn
      rw [Value.members_eq_membersUnder isShape, Outcome.ok_bind] at goneOn
      obtain ⟨found, isMember, cause⟩ := exists_fault_of_firstRejection goneOn
      obtain ⟨keys_mem, value_mem⟩ := Value.mem_of_mem_membersUnder isShape isMember
      obtain ⟨item, path, hasKey, ofKey⟩ | ⟨isUnnamed, rfl⟩ | ⟨path, ofValue⟩ := cause
      · cases key with
        | none => cases ofKey
        | some check =>
            exact (keyHasCauses check rfl item path fault ofKey).ofKey
              (keys_mem item path hasKey)
      · exact .unshown (Value.isWritable_of_unnamed isMember isUnnamed)
      · exact (memberHasCauses found.value path fault ofValue).ofValue value_mem

/-! ## Compiled alternatives -/

/-- A group fails for what lies in the value if each of its checks does. -/
theorem ofGroup_hasCauses {nodes : List Alternative} {checks : List Check}
    {written : Alternative → List Literal}
    (each : List.Forall₂ (fun node check => check.HasCauses (written node))
      nodes checks) :
    (ofGroup checks).HasCauses (nodes.flatMap written) := by
  intro value name fault failed
  obtain ⟨check, isMember, ofCheck⟩ := exists_fault_of_ofGroup failed
  obtain ⟨index, isBelow, rfl⟩ := List.mem_iff_getElem.mp isMember
  have isNode : index < nodes.length := each.length_eq ▸ isBelow
  have hasCauses := List.forall₂_iff_get.mp each |>.2 index isNode isBelow
  refine (hasCauses value name fault ofCheck).mono ?_
  intro literal isWritten
  exact List.mem_flatMap.mpr ⟨nodes[index], List.getElem_mem isNode, isWritten⟩

/-- The check for the keys that a member list declares fails for what lies in the key. -/
theorem compileKeys_hasCauses {aliases : AliasTable} {members : List Alternative}
    {key : Check} (compiled : compileKeys aliases members = .ok (some key)) :
    key.HasCauses (Alternative.literalsOfAll members) := by
  obtain ⟨-, ⟨⟩⟩ | ⟨-, checks, keysCompiled, ⟨⟩⟩ := compileKeys_eq_ok_iff.mp compiled
  have each : List.Forall₂ (fun (node : Alternative) (check : Check) =>
      check.HasCauses node.literal.toList)
      ((members.filter Alternative.hasKey).map Alternative.keyAlternative) checks :=
    keysCompiled.imp fun node check ⟨tag, ownCompiled⟩ => compileOwn_hasCauses ownCompiled
  have areKeys := List.map_subset Alternative.keyAlternative
    (List.filter_subset_self (p := Alternative.hasKey) members)
  exact (ofGroup_hasCauses each).mono (Alternative.keyLiterals_subset areKeys)

/-- The check of an alternative fails for what lies in the value. -/
theorem keptByCompiling_hasCauses (aliases : AliasTable) :
    KeptByCompiling aliases fun node check => check.HasCauses node.literals where
  plain node tag own noMembers ownCompiled :=
    (compileOwn_hasCauses ownCompiled).mono node.literal_subset_literals
  container node tag own shape checks key isNonempty notNegated ownCompiled isShape each
      keysCompiled := by
    have memberLiterals := node.memberLiterals_subset_literals
    have memberHasCauses := ofGroup_hasCauses each
    rw [← Alternative.literalsOfAll_eq] at memberHasCauses
    refine container_hasCauses isShape
      (fun value path => tag_eq_of_accepts ownCompiled notNegated)
      ((compileOwn_hasCauses ownCompiled).mono node.literal_subset_literals)
      (memberHasCauses.mono memberLiterals) ?_
    rintro found rfl
    exact (compileKeys_hasCauses keysCompiled).mono memberLiterals

/-- A check that alternatives compile to fails for what lies in the value. -/
theorem compileGroup_hasCauses {aliases : AliasTable} {alternatives : List Alternative}
    {check : Check} (compiled : compileGroup aliases alternatives = .ok check) :
    check.HasCauses (Alternative.literalsOfAll alternatives) := by
  obtain ⟨-, checks, eachCompiled, rfl⟩ := compileGroup_eq_ok_iff.mp compiled
  rw [Alternative.literalsOfAll_eq]
  exact ofGroup_hasCauses
    ((keptByCompiling_hasCauses aliases).each alternatives checks eachCompiled)

/-! ## Answers -/

/-- The check of a list of alternatives answers on every value under every name,
unless something in the value cannot be shown or a search for one of the literals
in a text of the value has no outcome. No other fault arises: what is gone through
as an array has items, what is gone through as an object or a map has entries, and
what is searched in is a text. -/
theorem apply_answers_unless_caused {aliases : AliasTable}
    {alternatives : List Alternative}
    {check : Check} (compiled : compileGroup aliases alternatives = .ok check)
    (value : Value)
    (name : Text) :
    (∃ message, check.apply value name = .ok message) ∨
      (check.apply value name = .error .unwritable ∧ value.isWritable = false) ∨
      ∃ fault, check.apply value name = .error (.search fault) ∧
        SearchFails (Alternative.literalsOfAll alternatives) value fault := by
  cases applied : check.apply value name with
  | ok found => exact .inl ⟨_, rfl⟩
  | error fault =>
      have ran := Outcome.map_eq_error_iff.mp applied
      cases compileGroup_hasCauses compiled value name fault ran with
      | unshown isLong => exact .inr (.inl ⟨rfl, isLong⟩)
      | search fails => exact .inr (.inr ⟨_, rfl, fails⟩)

/-- A list that contains itself, and a record with a field that is called for the
entries of what has any. -/
theorem apply_answers_unless_caused_cyclic :
    ∃ parsed check value, parse "arr<arr<obj<str>>|obj<!num:str>>" [] = .ok parsed ∧
      compileGroup .standard parsed.alternatives = .ok check ∧
      value = .linked [.list [], .record [("items", .cls .dictionary)]]
        [.list [.outside 0, .outside 1, .inside 0]] 0 ∧
      ((∃ message, check.apply value "x" = .ok message) ∨
        (check.apply value "x" = .error .unwritable ∧ value.isWritable = false) ∨
        ∃ fault, check.apply value "x" = .error (.search fault) ∧
          SearchFails (Alternative.literalsOfAll parsed.alternatives) value fault) := by
  let ofText : Alternative := ⟨"str", false, none, [], none, none, false⟩
  let alternatives : List Alternative :=
    [⟨"arr", false, none,
      [⟨"arr", false, none, [⟨"obj", false, none, [ofText], none, none, false⟩],
          none, none, false⟩,
        ⟨"obj", false, none, [{ ofText with key := some "num", keyNegated := true }],
          none, none, false⟩],
      none, none, false⟩]
  have compiled : ∃ check, compileGroup .standard alternatives = .ok check := ⟨_, rfl⟩
  obtain ⟨check, compiled⟩ := compiled
  exact ⟨⟨alternatives, "arr<arr<obj<str>>|obj<!num:str>>"⟩, check, _, rfl, compiled, rfl,
    apply_answers_unless_caused compiled _ "x"⟩

/-- A number with too many digits is of the second kind that is allowed. It is shown all
the same for the first, and cannot be. As a key it cannot name a member, although
nothing is rejected. -/
theorem apply_fails_of_unwritable :
    ∃ parsed check keyed keyedCheck, parse "str|num" [] = .ok parsed ∧
      compileGroup .standard parsed.alternatives = .ok check ∧
      check.apply (.fraction ⟨Int.ofNat (Nat.pow 10 5000), 1⟩) "x" = .error .unwritable ∧
      parse "obj<num>" [] = .ok keyed ∧
      compileGroup .standard keyed.alternatives = .ok keyedCheck ∧
      keyedCheck.apply
        (.mapping .plain [(.fraction ⟨Int.ofNat (Nat.pow 10 5000), 1⟩, .integer 1)]) "x" =
          .error .unwritable := by
  let ofNumber : Alternative := ⟨"num", false, none, [], none, none, false⟩
  let alternatives : List Alternative :=
    [⟨"str", false, none, [], none, none, false⟩, ofNumber]
  let keyed : List Alternative := [⟨"obj", false, none, [ofNumber], none, none, false⟩]
  have ran : ((compileGroup .standard alternatives).map fun check =>
      check.apply (.fraction ⟨Int.ofNat (Nat.pow 10 5000), 1⟩) "x") =
        .ok (.error .unwritable) := by
    decide +kernel
  have ranKeyed : ((compileGroup .standard keyed).map fun check => check.apply
      (.mapping .plain [(.fraction ⟨Int.ofNat (Nat.pow 10 5000), 1⟩, .integer 1)]) "x") =
        .ok (.error .unwritable) := by
    decide +kernel
  obtain ⟨check, compiled, failed⟩ := Outcome.map_eq_ok_iff.mp ran
  obtain ⟨keyedCheck, keyedCompiled, keyedFailed⟩ := Outcome.map_eq_ok_iff.mp ranKeyed
  exact ⟨⟨alternatives, "str|num"⟩, check, ⟨keyed, "obj<num>"⟩, keyedCheck, rfl,
    compiled, failed,
    rfl, keyedCompiled, keyedFailed⟩

end Check
end KindExpr
