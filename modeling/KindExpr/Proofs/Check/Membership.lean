import KindExpr.Expr.Parse
import KindExpr.Proofs.Check.Compilation
import KindExpr.Proofs.Check.Decision

/-!
# Checks decide membership

A list of alternatives that compiles gives a check that accepts exactly the values
in the set the alternatives denote, whatever their depth and whatever the value,
unless a search has no outcome.

The proof follows the compiler: what an alternative compiles to without its
members, the check for the keys that a member list declares, and the
alternatives with all their members.
-/

namespace KindExpr
namespace Check

/-! ## Alternatives without their members -/

/-- The check of an alternative without its members decides
the set it has without them. -/
theorem compileOwn_decides {aliases : AliasTable} {node : Alternative} {tag : Text}
    {own : Check} (compiled : compileOwn aliases node = .ok (tag, own)) :
    own.Decides (node.AdmitsOwn aliases) node.literal.toList := by
  intro value name isWritable
  obtain ⟨literal, pattern, isLiteral, -, patternCompiled, -, rfl⟩ |
      ⟨noLiteral, resolves, rfl⟩ :=
    compileOwn_eq_ok_iff.mp compiled
  · rw [run, isLiteral]
    exact (testFormat_tells patternCompiled isWritable name).of_iff
      (Alternative.admitsOwn_of_literal isLiteral value).symm
  · rw [run]
    exact (testKind_tells isWritable tag node.negated name).of_iff
      (Alternative.admitsOwn_of_name noLiteral resolves value).symm

/-- What an alternative without negation admits has the tag it compiles to. -/
theorem tag_eq_of_admitsOwn {aliases : AliasTable} {node : Alternative} {tag : Text}
    {own : Check} {value : Value} (compiled : compileOwn aliases node = .ok (tag, own))
    (notNegated : node.negated = false) (admits : node.AdmitsOwn aliases value) :
    value.tag = tag := by
  obtain ⟨literal, pattern, isLiteral, -, -, rfl, -⟩ | ⟨noLiteral, resolves, -⟩ :=
    compileOwn_eq_ok_iff.mp compiled
  · rw [Alternative.admitsOwn_of_literal isLiteral] at admits
    exact Value.tag_eq_iff.mpr admits.1
  · rw [Alternative.admitsOwn_of_name noLiteral resolves, notNegated] at admits
    simpa using admits

/-! ## Compiled alternatives -/

/-- The check for keys decides the set of the declared keys, and there
is one if a key is declared. -/
theorem compileKeys_decides {aliases : AliasTable} {members : List Alternative}
    {key : Option Check} (compiled : compileKeys aliases members = .ok key) :
    (∀ check, key = some check →
        check.Decides (Alternative.KeysAdmit aliases members)
          (Alternative.literalsOfAll members)) ∧
      (key = none → ∀ value, Alternative.KeysAdmit aliases members value) := by
  obtain ⟨noKeys, rfl⟩ | ⟨hasKeys, checks, keysCompiled, rfl⟩ :=
    compileKeys_eq_ok_iff.mp compiled
  · refine ⟨by simp, fun _ value ⟨member, isMember, hasKey⟩ => ?_⟩
    simp [noKeys member isMember] at hasKey
  · refine ⟨?_, by simp⟩
    rintro check ⟨⟩
    have each : List.Forall₂ (fun (node : Alternative) (check : Check) =>
        check.Decides (node.AdmitsOwn aliases) node.literal.toList)
        ((members.filter Alternative.hasKey).map Alternative.keyAlternative) checks :=
      keysCompiled.imp fun node check ⟨tag, ownCompiled⟩ => compileOwn_decides ownCompiled
    have decides := ofGroup_decides each (by simpa using hasKeys)
    have areKeys := List.map_subset Alternative.keyAlternative
      (List.filter_subset_self (p := Alternative.hasKey) members)
    refine (decides.of_iff fun value => ?_).mono (Alternative.keyLiterals_subset areKeys)
    simp [Alternative.KeysAdmit, hasKeys, and_assoc]

/-- The check of an alternative decides the set of the alternative. -/
theorem keptByCompiling_decides (aliases : AliasTable) :
    KeptByCompiling aliases fun node check =>
    check.Decides (node.Admits aliases) node.literals where
  plain node tag own noMembers ownCompiled := by
    refine ((compileOwn_decides ownCompiled).of_iff fun value => ?_).mono
      node.literal_subset_literals
    simp [Alternative.admits_iff, noMembers]
  container node tag own shape checks key isNonempty notNegated ownCompiled isShape each
      keysCompiled := by
    have memberLiterals := node.memberLiterals_subset_literals
    have groupDecides := ofGroup_decides each isNonempty
    rw [← Alternative.literalsOfAll_eq] at groupDecides
    have memberDecides :=
      (groupDecides.of_iff fun _ => Alternative.someAdmits_iff.symm).mono memberLiterals
    obtain ⟨keyDecides, noKey⟩ := compileKeys_decides keysCompiled
    have decides := container_decides isShape
      (fun _ => tag_eq_of_admitsOwn ownCompiled notNegated)
      ((compileOwn_decides ownCompiled).mono node.literal_subset_literals) memberDecides
      (fun check isKey => (keyDecides check isKey).mono memberLiterals) noKey
    refine decides.of_iff fun value => ?_
    rw [Alternative.admits_iff]
    simp only [isNonempty, ne_eq, not_false_eq_true, forall_const]

/-! ## Membership -/

/-- The check of a list of alternatives accepts exactly the values that one of
the alternatives admits, unless a search for one of their literals in a text
of the value has no outcome. -/
theorem apply_decides_membership {aliases : AliasTable} {alternatives : List Alternative}
    {check : Check} {value : Value}
    (compiled : compileGroup aliases alternatives = .ok check)
    (isWritable : value.isWritable = true) (name : Text) :
    (∃ message, check.apply value name = .ok message ∧
        (message = none ↔ ∃ alternative ∈ alternatives,
          alternative.Admits aliases value)) ∨
      ∃ fault, check.apply value name = .error (.search fault) ∧
        SearchFails (Alternative.literalsOfAll alternatives) value fault := by
  obtain ⟨isNonempty, checks, eachCompiled, rfl⟩ := compileGroup_eq_ok_iff.mp compiled
  have decides := ofGroup_decides
    ((keptByCompiling_decides aliases).each alternatives checks eachCompiled) isNonempty
  rw [← Alternative.literalsOfAll_eq] at decides
  rw [apply]
  have tells := decides value name isWritable
  generalize (ofGroup checks).run Value.tag value name = outcome at tells ⊢
  cases tells with
  | accepted isAdmitted => exact .inl ⟨none, rfl, by simpa using isAdmitted⟩
  | rejected notAdmitted rejection =>
      exact .inl ⟨some rejection.message, rfl, by simpa using notAdmitted⟩
  | failed fails => exact .inr ⟨_, rfl, fails⟩

/-- Lists of objects whose keys are no numbers, and such a list. -/
theorem apply_decides_membership_nested :
    ∃ parsed check, parse "arr<obj<!num:str>>" [] = .ok parsed ∧
      compileGroup .standard parsed.alternatives = .ok check ∧
      (Value.list [.mapping .plain [(.text "id", .text "a")]]).isWritable = true ∧
      ((∃ message,
          check.apply (.list [.mapping .plain [(.text "id", .text "a")]]) "x" =
            .ok message ∧
          (message = none ↔ ∃ alternative ∈ parsed.alternatives,
            alternative.Admits .standard
              (.list [.mapping .plain [(.text "id", .text "a")]]))) ∨
        ∃ fault,
          check.apply (.list [.mapping .plain [(.text "id", .text "a")]]) "x" =
            .error (.search fault) ∧
          SearchFails (Alternative.literalsOfAll parsed.alternatives)
            (.list [.mapping .plain [(.text "id", .text "a")]]) fault) := by
  let alternatives : List Alternative :=
    [⟨"arr", false, none,
      [⟨"obj", false, none,
        [⟨"str", false, none, [], some "num", none, true⟩], none, none,
        false⟩], none, none, false⟩]
  have compiled : ∃ check, compileGroup .standard alternatives = .ok check := ⟨_, rfl⟩
  obtain ⟨check, compiled⟩ := compiled
  exact ⟨⟨alternatives, "arr<obj<!num:str>>"⟩, check, rfl, compiled, rfl,
    apply_decides_membership compiled rfl "x"⟩

/-- A text that the second alternative admits is not accepted if the search for the
literal of the first has no outcome. -/
theorem not_accepted_of_failing_search :
    ∃ parsed check, parse "/(?:(a)|b)++/|str" [] = .ok parsed ∧
      compileGroup .standard parsed.alternatives = .ok check ∧
      (Value.text "abb").isWritable = true ∧
      (∃ alternative ∈ parsed.alternatives, alternative.Admits .standard (.text "abb")) ∧
      check.apply (.text "abb") "x" = .error (.search .reversedGroup) := by
  let alternatives : List Alternative :=
    [⟨"", false, some ⟨"(?:(a)|b)++", ""⟩, [], none, none, false⟩,
      ⟨"str", false, none, [], none, none, false⟩]
  have ran : ((compileGroup .standard alternatives).map fun check =>
      check.apply (.text "abb") "x") = .ok (.error (.search .reversedGroup)) := by
    decide +kernel
  obtain ⟨check, compiled, failed⟩ := Outcome.map_eq_ok_iff.mp ran
  refine ⟨⟨alternatives, "/(?:(a)|b)++/|str"⟩, check, rfl, compiled, rfl,
    ⟨_, List.mem_cons_of_mem _ List.mem_cons_self, ?_⟩, failed⟩
  rw [Alternative.Admits]
  exact ⟨⟨"string", rfl, by decide⟩, fun isNonempty => absurd rfl isNonempty⟩

end Check
end KindExpr
