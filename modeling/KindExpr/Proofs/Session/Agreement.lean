import KindExpr.Proofs.Check.Naming
import KindExpr.Proofs.Outcome
import KindExpr.Proofs.Value.Web
import KindExpr.Session.Basic

/-!
# The entry points agree

A value is asserted, validated or just matched against a type argument, under a name or
under none. The three agree: whether the value is accepted, whether something fails and
what is in the shared cache afterwards do not depend on the name, only the message does.
While assertions are off they accept everything, and the other two go on as before.

A type argument makes tests of a value one after the other, however it is nested. A test
is an expression or a condition, and the conditions may be any: what a named function
answers is told by the session.
-/

namespace KindExpr

/-! ## Tests -/

/-- One test that a type argument makes of a value. -/
inductive Test where
  | expression (text : Text) (placeholders : List Value)
  /-- A condition on the value, and the reason to reject the value if it does not hold. -/
  | condition (holds : Functions → Value → Except Error Bool) (reason : Text)

namespace TypeSpec

mutual

/-- The tests that a classified type argument makes, in order. -/
def tests : TypeSpec → List Test
  | .expression text placeholders => [.expression text placeholders]
  | .all specs => testsOfAll specs
  | .fixed passes => [.condition (fun _ _ => .ok passes) generalReason]
  | .inst cls =>
      [.condition (fun _ value => .ok (value.isInstance cls))
        ("Expected instance of " ++ cls.name)]
  | .condition given =>
      [.condition (fun functions value => (given.holds functions value).mapError .call)
        generalReason]

/-- The tests of several type arguments. -/
def testsOfAll : List TypeSpec → List Test
  | [] => []
  | spec :: rest => spec.tests ++ testsOfAll rest

end

end TypeSpec

namespace Session

/-- Make one test of a value. -/
def runTest (session : Session) (value : Value) (name : Text) : Test → Verdict × Session
  | .expression text placeholders =>
      session.evaluateExpression value text placeholders name
  | .condition holds reason =>
      match holds session.functions value with
      | .ok passes => (verdict passes value name reason, session)
      | .error error => (.error error, session)

/-- Make tests of a value in order until one rejects it. -/
def runTests (session : Session) (value : Value) (name : Text) :
    List Test → Verdict × Session
  | [] => (.ok none, session)
  | test :: rest =>
      match session.runTest value name test with
      | (.ok none, after) => after.runTests value name rest
      | (other, after) => (other, after)

variable {value : Value} {name : Text}

theorem runTests_singleton (session : Session) (test : Test) :
    session.runTests value name [test] = session.runTest value name test := by
  rw [runTests]
  split
  · rename_i isAccepted
    rw [isAccepted, runTests]
  · rename_i isFound
    exact isFound.symm

/-- The later ones of some tests are made after the earlier ones accept the value. -/
theorem runTests_append (session : Session) (earlier later : List Test) :
    session.runTests value name (earlier ++ later) =
      match session.runTests value name earlier with
      | (.ok none, after) => after.runTests value name later
      | (other, after) => (other, after) := by
  induction earlier generalizing session with
  | nil => rfl
  | cons test rest inductionHypothesis =>
      rw [List.cons_append, runTests, runTests]
      obtain ⟨outcome, after⟩ := session.runTest value name test
      match outcome with
      | .ok none => exact inductionHypothesis after
      | .ok (some message) => rfl
      | .error error => rfl

mutual

/-- A value is checked against a classified type argument by making its tests. -/
theorem evaluate_eq_runTests : ∀ (spec : TypeSpec) (session : Session),
    session.evaluate value name spec = session.runTests value name spec.tests
  | .expression text placeholders, session => by
      rw [evaluate, TypeSpec.tests, runTests_singleton, runTest]
  | .all specs, session => by
      rw [evaluate, TypeSpec.tests]
      exact evaluateAll_eq_runTests specs session
  | .fixed passes, session => by
      rw [evaluate, TypeSpec.tests, runTests_singleton, runTest]
  | .inst cls, session => by
      rw [evaluate, TypeSpec.tests, runTests_singleton, runTest]
  | .condition given, session => by
      rw [evaluate, TypeSpec.tests, runTests_singleton, runTest]
      cases given.holds session.functions value with
      | error fault => rfl
      | ok passes => rfl

theorem evaluateAll_eq_runTests : ∀ (specs : List TypeSpec) (session : Session),
    session.evaluateAll value name specs =
      session.runTests value name (TypeSpec.testsOfAll specs)
  | [], session => by rw [evaluateAll, TypeSpec.testsOfAll, runTests]
  | spec :: rest, session => by
      rw [evaluateAll, TypeSpec.testsOfAll, runTests_append, evaluate_eq_runTests spec]
      obtain ⟨outcome, after⟩ := session.runTests value name spec.tests
      match outcome with
      | .ok none => exact evaluateAll_eq_runTests rest after
      | .ok (some message) => rfl
      | .error error => rfl

end

/-- A value is checked against a type argument by making the tests of
the argument, if it is one. -/
theorem check_eq_runTests (session : Session) (value type : Value)
    (placeholders : List Value)
    (name : Text) :
    session.check value type placeholders name =
      match TypeSpec.ofValue placeholders type with
      | .ok spec => session.runTests value name spec.tests
      | .error error => (.error error, session) := by
  unfold check
  cases TypeSpec.ofValue placeholders type with
  | error error => rfl
  | ok spec => exact evaluate_eq_runTests spec session

/-! ## Checking under two names -/

/-- Whether two checks of a value give verdicts that are alike
and leave the same session. -/
structure GoAlike (first second : Verdict × Session) : Prop where
  verdict : Alike first.1 second.1
  session_eq : first.2 = second.2

theorem verdict_alike (passes : Bool) (value : Value) (name other reason : Text) :
    Alike (verdict passes value name reason) (verdict passes value other reason) := by
  unfold verdict rejection?
  split
  · exact .accepted
  · cases value.isWritable with
    | true => exact .rejected _ _
    | false => exact .failed _

theorem evaluateExpression_goAlike (session : Session) (value : Value)
    (name other text : Text)
    (placeholders : List Value) :
    GoAlike (session.evaluateExpression value text placeholders name)
      (session.evaluateExpression value text placeholders other) := by
  unfold evaluateExpression
  obtain ⟨found, cache⟩ := session.cache.getText text placeholders
  cases found with
  | error error => exact ⟨.failed error, rfl⟩
  | ok compiled =>
      exact ⟨(compiled.check.apply_alike value name other).mapError Error.run, rfl⟩

theorem runTest_goAlike (session : Session) (value : Value) (name other : Text)
    (test : Test) :
    GoAlike (session.runTest value name test) (session.runTest value other test) := by
  cases test with
  | expression text placeholders =>
      exact session.evaluateExpression_goAlike value name other text placeholders
  | condition holds reason =>
      rw [runTest, runTest]
      cases holds session.functions value with
      | error error => exact ⟨.failed error, rfl⟩
      | ok passes => exact ⟨verdict_alike passes value name other reason, rfl⟩

/-- Tests go alike under all names. -/
theorem runTests_goAlike (session : Session) (value : Value) (name other : Text)
    (tests : List Test) :
    GoAlike (session.runTests value name tests) (session.runTests value other tests) := by
  induction tests generalizing session with
  | nil => exact ⟨.accepted, rfl⟩
  | cons test rest inductionHypothesis =>
      obtain ⟨alike, same⟩ := session.runTest_goAlike value name other test
      rw [runTests, runTests]
      generalize session.runTest value name test = found at *
      generalize session.runTest value other test = otherFound at *
      obtain ⟨outcome, after⟩ := found
      obtain ⟨otherOutcome, otherAfter⟩ := otherFound
      cases same
      cases alike with
      | accepted => exact inductionHypothesis after
      | rejected message otherMessage => exact ⟨.rejected message otherMessage, rfl⟩
      | failed error => exact ⟨.failed error, rfl⟩

/-- A value is checked alike against a type argument under all names. -/
theorem check_goAlike (session : Session) (value type : Value) (placeholders : List Value)
    (name other : Text) :
    GoAlike (session.check value type placeholders name)
      (session.check value type placeholders other) := by
  rw [check_eq_runTests, check_eq_runTests]
  cases TypeSpec.ofValue placeholders type with
  | error error => exact ⟨.failed error, rfl⟩
  | ok spec => exact session.runTests_goAlike value name other spec.tests

/-! ## The switch -/

theorem runTest_setEnabled (session : Session) (flag value : Value) (name : Text)
    (test : Test) :
    (session.setEnabled flag).runTest value name test =
      ((session.runTest value name test).1,
        (session.runTest value name test).2.setEnabled flag) := by
  cases test with
  | expression text placeholders => rfl
  | condition holds reason =>
      rw [runTest, runTest, setEnabled]
      cases holds session.functions value with
      | error error => rfl
      | ok passes => rfl

/-- Tests are made alike whether assertions are on or off, and
do not turn them on or off. -/
theorem runTests_setEnabled (session : Session) (flag value : Value) (name : Text)
    (tests : List Test) :
    (session.setEnabled flag).runTests value name tests =
      ((session.runTests value name tests).1,
        (session.runTests value name tests).2.setEnabled flag) := by
  induction tests generalizing session with
  | nil => rfl
  | cons test rest inductionHypothesis =>
      rw [runTests, runTests, runTest_setEnabled]
      obtain ⟨outcome, after⟩ := session.runTest value name test
      match outcome with
      | .ok none => exact inductionHypothesis after
      | .ok (some message) => rfl
      | .error error => rfl

theorem check_setEnabled (session : Session) (flag value type : Value)
    (placeholders : List Value) (name : Text) :
    (session.setEnabled flag).check value type placeholders name =
      ((session.check value type placeholders name).1,
        (session.check value type placeholders name).2.setEnabled flag) := by
  rw [check_eq_runTests, check_eq_runTests]
  cases TypeSpec.ofValue placeholders type with
  | error error => rfl
  | ok spec => exact session.runTests_setEnabled flag value name spec.tests

/-! ## Failures -/

/-- Whether an outcome is not the failure of an assertion that rejects a value. -/
def NoRejection {α : Type} (outcome : Except Error α) : Prop :=
  ∀ message name, outcome ≠ .error (.rejected message name)

namespace NoRejection

variable {ε α β : Type}

theorem error_iff {error : Error} : NoRejection (.error error : Except Error α) ↔
    ∀ message name, error ≠ .rejected message name := by
  simp [NoRejection]

theorem bind {first : Except Error α} {second : α → Except Error β}
    (firstNot : NoRejection first) (secondNot : ∀ found, NoRejection (second found)) :
    NoRejection (first >>= second) := by
  intro message name failed
  obtain failed | ⟨found, -, failed⟩ := Outcome.bind_eq_error_iff.mp failed
  · exact firstNot message name failed
  · exact secondNot found message name failed

theorem mapError {outcome : Except ε α} {tell : ε → Error}
    (never : ∀ failure message name, tell failure ≠ .rejected message name) :
    NoRejection (outcome.mapError tell) := by
  intro message name
  cases outcome with
  | error failure => simpa using never failure message name
  | ok found => nofun

/-- A value is not rejected when several type arguments are,
if it is not for any of them. -/
theorem ofOutcomes {outcomes : List (Except Error TypeSpec)}
    (areNot : ∀ outcome ∈ outcomes, NoRejection outcome) :
    NoRejection (TypeSpec.ofOutcomes outcomes) := by
  have ofAll : NoRejection (outcomes.mapM id) := by
    induction outcomes with
    | nil => nofun
    | cons outcome rest inductionHypothesis =>
        obtain ⟨isNot, restAreNot⟩ := List.forall_mem_cons.mp areNot
        rw [List.mapM_cons]
        exact isNot.bind fun _ => (inductionHypothesis restAreNot).bind nofun
  exact fun message name failed => ofAll message name (Outcome.map_eq_error_iff.mp failed)

/-- A value is not rejected when a container in a web is classified. -/
theorem ofWeb {outside : List Value} {web : Web} {outcomes : List (Except Error TypeSpec)}
    (areNot : ∀ outcome ∈ outcomes, NoRejection outcome) (place : Nat) :
    NoRejection (TypeSpec.ofWeb outside web outcomes place) := by
  have ofOutside : ∀ index,
      NoRejection (outcomes.getD index (TypeSpec.refuse .null)) := by
    intro index
    rw [List.getD_eq_getElem?_getD]
    cases isThere : outcomes[index]? with
    | none => nofun
    | some outcome => exact areNot outcome (List.mem_of_getElem? isThere)
  refine Web.fold_link_induction (motive := fun _ _ outcome => NoRejection outcome)
    (fun _ index => ofOutside index)
    (fun _ _ _ _ _ ofX ofY => ofOutcomes
      (List.forall_mem_cons.mpr ⟨ofX, List.forall_mem_singleton.mpr ofY⟩))
    (fun _ _ _ _ _ isRejected => by cases isRejected)
    (fun _ place made ofParts => ?_) place
  dsimp only
  rw [Container.items?_map]
  cases hasItems : (web.container place).items? with
  | none => nofun
  | some items =>
      refine ofOutcomes (List.forall_mem_map.mpr fun link isItem => ?_)
      exact ofParts link (Container.mem_parts_of_items? hasItems isItem)

/-- A value is not rejected when a type argument is classified. -/
theorem ofValue (placeholders : List Value) (type : Value) :
    NoRejection (TypeSpec.ofValue placeholders type) := by
  induction type using Value.children_induction with
  | step type ofChildren =>
      have ofEach : ∀ outcome ∈ TypeSpec.ofEach placeholders type.children,
          NoRejection outcome := by
        rw [TypeSpec.ofEach_eq_map]
        exact List.forall_mem_map.mpr ofChildren
      cases type with
      | list items => exact ofOutcomes ofEach
      | tuple items => exact ofOutcomes ofEach
      | point x y => exact ofOutcomes ofEach
      | linked outside web place => exact ofWeb ofEach place
      | _ => nofun

theorem verdict (passes : Bool) (value : Value) (name reason : Text) :
    NoRejection (Session.verdict passes value name reason) := by
  unfold Session.verdict
  cases passes with
  | true => nofun
  | false =>
      cases rejection? value name reason with
      | none => nofun
      | some message => nofun

/-- A value is not rejected when an expression is looked up. -/
theorem getText (cache : CheckCache) (text : Text) (placeholders : List Value) :
    NoRejection (cache.getText text placeholders).1 := by
  unfold CheckCache.getText
  cases CacheKey.of? text placeholders with
  | none => nofun
  | some key =>
      dsimp only
      unfold CheckCache.getKey
      cases cache.use? key with
      | some used => nofun
      | none =>
          have compiles : NoRejection
              (Check.ofExpression cache.aliases text placeholders) :=
            (mapError nofun).bind fun _ => mapError nofun
          generalize Check.ofExpression cache.aliases text placeholders = compiled at *
          cases compiled with
          | error error => exact error_iff.mpr (error_iff.mp compiles)
          | ok check => nofun

theorem evaluateExpression (session : Session) (value : Value) (text name : Text)
    (placeholders : List Value) :
    NoRejection (session.evaluateExpression value text placeholders name).1 := by
  have found := getText session.cache text placeholders
  unfold Session.evaluateExpression
  generalize session.cache.getText text placeholders = outcome at *
  obtain ⟨outcome, cache⟩ := outcome
  cases outcome with
  | error error => exact error_iff.mpr (error_iff.mp found)
  | ok compiled => exact mapError nofun

mutual

/-- A check of a value that fails is not the failure of an assertion. -/
theorem evaluate (session : Session) (value : Value) (name : Text) (spec : TypeSpec) :
    NoRejection (session.evaluate value name spec).1 := by
  cases spec with
  | expression text placeholders =>
      exact evaluateExpression session value text name placeholders
  | all specs => exact evaluateAll session value name specs
  | fixed passes => exact verdict passes value name generalReason
  | inst cls => exact verdict _ value name _
  | condition given =>
      rw [Session.evaluate]
      cases given.holds session.functions value with
      | error fault => nofun
      | ok passes => exact verdict passes value name generalReason

theorem evaluateAll (session : Session) (value : Value) (name : Text)
    (specs : List TypeSpec) : NoRejection (session.evaluateAll value name specs).1 := by
  cases specs with
  | nil => nofun
  | cons spec rest =>
      have first := evaluate session value name spec
      rw [Session.evaluateAll]
      generalize session.evaluate value name spec = found at *
      obtain ⟨outcome, after⟩ := found
      match outcome with
      | .ok none => exact evaluateAll after value name rest
      | .ok (some message) => nofun
      | .error error => exact first

end

theorem check (session : Session) (value type : Value) (placeholders : List Value)
    (name : Text) : NoRejection (session.check value type placeholders name).1 := by
  have classified := ofValue placeholders type
  unfold Session.check
  generalize TypeSpec.ofValue placeholders type = classification at *
  cases classification with
  | error error => exact error_iff.mpr (error_iff.mp classified)
  | ok spec => exact evaluate session value name spec

end NoRejection

/-! ## Entry points -/

/-- What the entry points answer together for a value that is checked under a name. -/
inductive EntryPointsAgree (session : Session) (value type name : Value)
    (placeholders : List Value) (text : Text) : Prop where
  /-- The value matches, and is given back if assertions are on. -/
  | accepted {after : Session}
      (validated : session.validate value type name placeholders = (.ok none, after))
      (isMatch : session.isType value type placeholders = (.ok true, after))
      (asserted : session.enabled = true →
        session.assertType value type name placeholders = (.ok value, after))
  /-- The value does not match, and an assertion fails with the message for this. -/
  | rejected {message : Text} {after : Session}
      (validated : session.validate value type name placeholders =
        (.ok (some message), after))
      (noMatch : session.isType value type placeholders = (.ok false, after))
      (asserted : session.enabled = true →
        session.assertType value type name placeholders =
          (.error (.rejected message text), after))
  /-- Whether the value matches cannot be told, for the same reason everywhere. -/
  | failed {error : Error} {after : Session}
      (noRejection : ∀ message other, error ≠ .rejected message other)
      (validated : session.validate value type name placeholders = (.error error, after))
      (noAnswer : session.isType value type placeholders = (.error error, after))
      (asserted : session.enabled = true →
        session.assertType value type name placeholders = (.error error, after))

/-- A text that is not empty is a name. -/
theorem checkName_eq {name : Value} {text : Text} (isText : name.text? = some text)
    (isNamed : text ≠ "") : checkName name = .ok text := by
  rw [checkName, isText]
  exact if_neg (by simpa using isNamed)

/-- An assertion answers as the validation does, while assertions are on. -/
theorem assertType_eq {session : Session} (isEnabled : session.enabled = true)
    (value type : Value) {name : Value} {text : Text} (isText : name.text? = some text)
    (placeholders : List Value) :
    session.assertType value type name placeholders =
      match session.validate value type name placeholders with
      | (.ok none, after) => (.ok value, after)
      | (.ok (some message), after) => (.error (.rejected message text), after)
      | (.error error, after) => (.error error, after) := by
  rw [assertType, isEnabled, isText]
  rfl

/-- The entry points agree under a name. -/
theorem entryPointsAgree (session : Session) (value type : Value) {name : Value}
    (placeholders : List Value) {text : Text} (isText : name.text? = some text)
    (isNamed : text ≠ "") :
    EntryPointsAgree session value type name placeholders text := by
  have validated : session.validate value type name placeholders =
      session.check value type placeholders text := by
    rw [validate, checkName_eq isText isNamed]
  have isMatch : session.isType value type placeholders =
      ((session.check value type placeholders "").1.map Option.isNone,
        (session.check value type placeholders "").2) := rfl
  have asserted := fun isEnabled : session.enabled = true =>
    assertType_eq isEnabled value type isText placeholders
  obtain ⟨alike, same⟩ := session.check_goAlike value type placeholders text ""
  have noRejection := NoRejection.check session value type placeholders text
  rw [validated] at asserted
  generalize session.check value type placeholders text = underName at *
  generalize session.check value type placeholders "" = underNone at *
  obtain ⟨outcome, after⟩ := underName
  obtain ⟨otherOutcome, otherAfter⟩ := underNone
  cases same
  cases alike with
  | accepted => exact .accepted validated isMatch asserted
  | rejected message otherMessage => exact .rejected validated isMatch asserted
  | failed error =>
      exact .failed (NoRejection.error_iff.mp noRejection) validated isMatch asserted

/-- The entry points agree on every value, type argument and name. While
assertions are off they give every value back, under any name, and the other two
do as they do otherwise. What conditions answer makes no difference: any tests go
alike under a name and under none. -/
theorem entry_points_agree_whatever_name (session : Session) (value type : Value)
    {name : Value} (placeholders : List Value) {text : Text}
    (isText : name.text? = some text) (isNamed : text ≠ "") :
    EntryPointsAgree session value type name placeholders text ∧
      (session.enabled = false → ∀ anyName,
        session.assertType value type anyName placeholders = (.ok value, session)) ∧
      (∀ flag anyName,
        (session.setEnabled flag).validate value type anyName placeholders =
            ((session.validate value type anyName placeholders).1,
              (session.validate value type anyName placeholders).2.setEnabled flag) ∧
          (session.setEnabled flag).isType value type placeholders =
            ((session.isType value type placeholders).1,
              (session.isType value type placeholders).2.setEnabled flag)) ∧
      ∀ tests, GoAlike (session.runTests value text tests)
        (session.runTests value "" tests) := by
  refine ⟨session.entryPointsAgree value type placeholders isText isNamed, ?_, ?_,
    session.runTests_goAlike value text ""⟩
  · intro isDisabled anyName
    rw [assertType, isDisabled]
    rfl
  · intro flag anyName
    constructor
    · unfold validate
      cases checkName anyName with
      | error error => rfl
      | ok text => exact session.check_setEnabled flag value type placeholders text
    · unfold isType
      rw [check_setEnabled]

/-- A text where a number should be, in an array of arrays that has a name. -/
theorem entry_points_agree_whatever_name_item :
    (Value.text "rows").text? = some "rows" ∧ ("rows" : Text) ≠ "" ∧
      (start.validate (.list [.list [.text "a"]])
        (.list [.text "arr", .text "arr<arr<num>>"])
          (.text "rows") []).1.toOption =
        some (some ("Expected number for \"rows[0][0]\", got \"a\" (string)" : Text)) ∧
      EntryPointsAgree start (.list [.list [.text "a"]])
        (.list [.text "arr", .text "arr<arr<num>>"]) (.text "rows") [] "rows" := by
  have isNamed : ("rows" : Text) ≠ "" := by decide
  refine ⟨rfl, isNamed, by decide +kernel, ?_⟩
  exact (entry_points_agree_whatever_name start (.list [.list [.text "a"]])
    (.list [.text "arr", .text "arr<arr<num>>"]) [] rfl isNamed).1

end Session
end KindExpr
