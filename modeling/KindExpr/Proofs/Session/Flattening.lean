import KindExpr.Proofs.Session.Agreement
import Mathlib.Data.List.GetD

/-!
# Nested type arguments

A list of type arguments stands for all of them together, and so does a list inside it.
Lists can be nested in any way: a value is checked as it is against the leaves in one
flat list, with the same outcome and the same session afterwards.

There are two kinds of failure. All leaves are classified before the value is checked
against any, so that a leaf that is no type argument is refused wherever it stands.
After that the leaves are taken one by one, and the first that the value does not pass
ends the check: of the leaves that follow nothing is read, looked up or called.
-/

namespace KindExpr

/-! ## Leaves -/

namespace Value

/-- A list that holds itself and nothing else. It stands for every list that is come
upon inside of itself: there is no end to taking it apart. -/
def endless : Value :=
  .linked [] [.list [.inside 0]] 0

/-- The leaves of the container at a place of a web, from those
of the values from outside. -/
def leavesOfWeb (outside : List Value) (web : Web) (leaves : List (List Value))
    (place : Nat) : List Value :=
  web.fold
    { key := fun _ => ()
      outside := fun index => leaves.getD index [.null]
      point := fun x y => x ++ y
      container := fun place container =>
        match container.items? with
        | some parts => parts.flatten
        | none => [.linked outside web place]
      again := fun _ => [endless] }
    place

mutual

/-- The leaves of a type argument, from left to right. -/
def leaves : Value → List Value
  | .list items => (leavesOfEach items).flatten
  | .tuple items => (leavesOfEach items).flatten
  | .point x y => leaves x ++ leaves y
  | .linked outside web place => leavesOfWeb outside web (leavesOfEach outside) place
  | leaf => [leaf]

/-- The leaves of each of several type arguments. -/
def leavesOfEach : List Value → List (List Value)
  | [] => []
  | item :: rest => leaves item :: leavesOfEach rest

end

theorem leavesOfEach_eq_map (items : List Value) :
    leavesOfEach items = items.map leaves := by
  induction items with
  | nil => rfl
  | cons item rest inductionHypothesis => rw [leavesOfEach, inductionHypothesis]; rfl

/-- A type argument with the items of every nested list in place of the list. -/
def flattened (type : Value) : Value :=
  match type.container?, type with
  | some (.list _), _ => .list type.leaves
  | some (.tuple _), _ => .tuple type.leaves
  | none, .point _ _ => .tuple type.leaves
  | _, other => other

/-- Whether nothing can be taken out of a type argument. -/
def IsLeaf (type : Value) : Prop :=
  type.items? = none ∨ type = endless

/-- The leaves of a container in a web are leaves, if those of
the values from outside are. -/
theorem isLeaf_of_mem_leavesOfWeb {outside : List Value} {web : Web} {place : Nat}
    (ofOutside : ∀ value ∈ outside, ∀ leaf ∈ value.leaves, leaf.IsLeaf) :
    ∀ leaf ∈ leavesOfWeb outside web (leavesOfEach outside) place, leaf.IsLeaf := by
  rw [leavesOfEach_eq_map]
  have ofIndex (index : Nat) :
      ∀ leaf ∈ (outside.map leaves).getD index [.null], leaf.IsLeaf := by
    rw [show [Value.null] = Value.leaves .null from rfl, List.getD_map]
    exact forall_outer (List.forall_mem_singleton.mpr (.inl rfl)) ofOutside index
  refine Web.fold_link_induction
    (motive := fun _ _ (leaves : List Value) => ∀ leaf ∈ leaves, leaf.IsLeaf)
    (fun _ index => ofIndex index)
    (fun _ _ _ _ _ ofX ofY => List.forall_mem_append.mpr ⟨ofX, ofY⟩)
    (fun _ _ _ => List.forall_mem_singleton.mpr (.inr rfl))
    (fun _ place made ofParts => ?_) place
  dsimp only
  rw [Container.items?_map]
  cases hasItems : (web.container place).items? with
  | none =>
      refine List.forall_mem_singleton.mpr (.inl ?_)
      rw [items?_linked, hasItems]
      rfl
  | some items =>
      refine List.forall_mem_flatten.mpr (List.forall_mem_map.mpr fun link isItem => ?_)
      exact ofParts link (Container.mem_parts_of_items? hasItems isItem)

theorem isLeaf_of_mem_leaves (type : Value) : ∀ leaf ∈ type.leaves, leaf.IsLeaf := by
  induction type using children_induction with
  | step type ofChildren =>
      cases type with
      | list items | tuple items =>
          rw [leaves, leavesOfEach_eq_map]
          exact List.forall_mem_flatten.mpr (List.forall_mem_map.mpr ofChildren)
      | point x y =>
          rw [leaves]
          exact List.forall_mem_append.mpr
            ⟨ofChildren x (by simp [children]), ofChildren y (by simp [children])⟩
      | linked outside web place =>
          rw [leaves]
          exact isLeaf_of_mem_leavesOfWeb ofChildren
      | _ => exact List.forall_mem_singleton.mpr (.inl rfl)

/-- Why a leaf is refused, if it is no type argument. The only leaf with items is a list
that is come upon inside of itself. -/
def refusal? : Value → Option Error
  | .boolean _ => none
  | .text _ => none
  | .derivedText _ => none
  | .pattern _ => none
  | .cls _ => none
  | .function _ => none
  | .builtin _ => none
  | .callable => none
  | .bytePattern _ => some (.compile .bytePattern)
  | other => some (if other.items?.isSome then .endless else .typeArgument other.tag)

end Value

/-! ## Taking items in order -/

namespace Session

section

variable {α : Type} (take : Session → α → Verdict × Session)

/-- Whether a value passes some items, each taken in the session
that the one before it leaves. -/
inductive PassesEach : Session → List α → Session → Prop
  | nil (session : Session) : PassesEach session [] session
  | cons {session between after : Session} {item : α} {rest : List α}
      (passes : take session item = (.ok none, between))
      (passesLater : PassesEach between rest after) :
        PassesEach session (item :: rest) after

/-- What comes of some items if they are taken in order until the value does not pass
one. The items after that one make no difference. -/
inductive DecidedByFirst (session : Session) (items : List α) : Verdict × Session → Prop
  | passed {after : Session} (passesAll : PassesEach take session items after) :
      DecidedByFirst session items (.ok none, after)
  | decided {earlier later : List α} {item : α} {between after : Session}
        {outcome : Verdict}
      (isSplit : items = earlier ++ item :: later)
      (passesEarlier : PassesEach take session earlier between)
      (decides : take between item = (outcome, after)) (notPassed : outcome ≠ .ok none) :
      DecidedByFirst session items (outcome, after)

/-- Take items in order until the value does not pass one. -/
def takeEach (session : Session) : List α → Verdict × Session
  | [] => (.ok none, session)
  | item :: rest =>
      match take session item with
      | (.ok none, after) => after.takeEach rest
      | (other, after) => (other, after)

variable {take} in
/-- An item that the value passes decides nothing. -/
theorem DecidedByFirst.cons {session between : Session} {item : α} {rest : List α}
    {result : Verdict × Session} (isDecided : DecidedByFirst take between rest result)
    (passes : take session item = (.ok none, between)) :
    DecidedByFirst take session (item :: rest) result := by
  cases isDecided with
  | passed passesAll => exact .passed (.cons passes passesAll)
  | decided isSplit passesEarlier decides notPassed =>
      exact .decided (congrArg (item :: ·) isSplit)
        (.cons passes passesEarlier) decides notPassed

/-- The first item that the value does not pass decides. -/
theorem decidedByFirst_takeEach (session : Session) (items : List α) :
    DecidedByFirst take session items (session.takeEach take items) := by
  induction items generalizing session with
  | nil => exact .passed (.nil session)
  | cons item rest inductionHypothesis =>
      rw [takeEach]
      cases taken : take session item with
      | mk outcome after =>
          cases outcome with
          | error error => exact .decided rfl (.nil session) taken nofun
          | ok verdict =>
              cases verdict with
              | some message => exact .decided rfl (.nil session) taken nofun
              | none => exact (inductionHypothesis after).cons taken

end

/-- Tests are made as any other items are taken. -/
theorem runTests_eq_takeEach (session : Session) (value : Value) (name : Text)
    (tests : List Test) :
    session.runTests value name tests =
      session.takeEach (fun before test => before.runTest value name test) tests := by
  induction tests generalizing session with
  | nil => rfl
  | cons test rest inductionHypothesis =>
      rw [runTests, takeEach]
      obtain ⟨outcome, after⟩ := session.runTest value name test
      cases outcome with
      | error error => rfl
      | ok verdict =>
          cases verdict with
          | none => exact inductionHypothesis after
          | some message => rfl

end Session

/-! ## Classification -/

/-- Why a computation failed, if it did. -/
def Outcome.failure? {ε α : Type} : Except ε α → Option ε
  | .ok _ => none
  | .error failure => some failure

namespace TypeSpec

/-- The tests that a type argument makes, if it is one. -/
def testsFor (placeholders : List Value) (type : Value) : Except Error (List Test) :=
  (ofValue placeholders type).map tests

/-- The tests that several type arguments make, if each is one. -/
def testsForAll (placeholders types : List Value) : Except Error (List Test) :=
  (ofOutcomes (types.map (ofValue placeholders))).map tests

/-- Some tests and the tests after them, if there are both. -/
def followedBy (earlier later : Except Error (List Test)) : Except Error (List Test) :=
  earlier.bind fun first => later.map (first ++ ·)

theorem ok_nil_followedBy (later : Except Error (List Test)) :
    followedBy (.ok []) later = later := by
  cases later with
  | error error => rfl
  | ok tests => rfl

theorem followedBy_ok_nil (earlier : Except Error (List Test)) :
    followedBy earlier (.ok []) = earlier := by
  cases earlier with
  | error error => rfl
  | ok tests => exact congrArg Except.ok (List.append_nil tests)

theorem followedBy_assoc (first second third : Except Error (List Test)) :
    followedBy (followedBy first second) third =
      followedBy first (followedBy second third) := by
  cases first with
  | error error => rfl
  | ok tests =>
      cases second with
      | error error => rfl
      | ok others =>
          cases third with
          | error error => rfl
          | ok last => exact congrArg Except.ok (List.append_assoc tests others last)

/-- The first failure counts. -/
theorem failure?_followedBy (earlier later : Except Error (List Test)) :
    Outcome.failure? (followedBy earlier later) =
      (Outcome.failure? earlier).or (Outcome.failure? later) := by
  cases earlier with
  | error error => rfl
  | ok tests =>
      cases later with
      | error error => rfl
      | ok others => rfl

section

variable (placeholders : List Value)

/-- Several classified type arguments make their tests one after the other. -/
theorem ofOutcomes_cons (outcome : Except Error TypeSpec)
    (rest : List (Except Error TypeSpec)) :
    (ofOutcomes (outcome :: rest)).map tests =
      followedBy (outcome.map tests) ((ofOutcomes rest).map tests) := by
  rw [ofOutcomes, ofOutcomes, List.mapM_cons]
  cases outcome with
  | error error => rfl
  | ok spec =>
      cases rest.mapM id with
      | error error => rfl
      | ok specs => exact congrArg Except.ok (by simp only [tests, testsOfAll])

theorem ofOutcomes_nil : (ofOutcomes []).map tests = .ok [] :=
  congrArg Except.ok (by rw [tests]; rfl)

theorem testsForAll_nil : testsForAll placeholders [] = .ok [] :=
  ofOutcomes_nil

theorem testsForAll_cons (type : Value) (rest : List Value) :
    testsForAll placeholders (type :: rest) =
      followedBy (testsFor placeholders type) (testsForAll placeholders rest) :=
  ofOutcomes_cons _ _

theorem testsForAll_append (earlier later : List Value) :
    testsForAll placeholders (earlier ++ later) =
      followedBy (testsForAll placeholders earlier) (testsForAll placeholders later) := by
  induction earlier with
  | nil => rw [List.nil_append, testsForAll_nil, ok_nil_followedBy]
  | cons type rest inductionHypothesis =>
      rw [List.cons_append, testsForAll_cons, testsForAll_cons, inductionHypothesis,
        followedBy_assoc]

theorem testsForAll_singleton (type : Value) :
    testsForAll placeholders [type] = testsFor placeholders type := by
  rw [testsForAll_cons, testsForAll_nil]
  exact followedBy_ok_nil _

theorem testsFor_list (items : List Value) :
    testsFor placeholders (.list items) = testsForAll placeholders items := by
  rw [testsFor, testsForAll, ofValue, ofEach_eq_map]

theorem testsFor_tuple (items : List Value) :
    testsFor placeholders (.tuple items) = testsForAll placeholders items := by
  rw [testsFor, testsForAll, ofValue, ofEach_eq_map]

/-! ## Leaves make the tests -/

variable {placeholders} in
/-- If leaves make the tests of each of some parts, then together those of all parts. -/
theorem testsForAll_flatten {α : Type} {parts : List α} {leavesOf : α → List Value}
    {outcomeOf : α → Except Error TypeSpec}
    (ofPart : ∀ part ∈ parts,
      testsForAll placeholders (leavesOf part) = (outcomeOf part).map tests) :
    testsForAll placeholders (parts.map leavesOf).flatten =
      (ofOutcomes (parts.map outcomeOf)).map tests := by
  induction parts with
  | nil => rfl
  | cons part rest inductionHypothesis =>
      obtain ⟨ofFirst, ofRest⟩ := List.forall_mem_cons.mp ofPart
      rw [List.map_cons, List.flatten_cons, testsForAll_append, List.map_cons,
        ofOutcomes_cons, ofFirst, inductionHypothesis ofRest]

variable {placeholders} in
theorem testsForAll_pair {leaves others : List Value}
    {first second : Except Error TypeSpec}
    (ofFirst : testsForAll placeholders leaves = first.map tests)
    (ofSecond : testsForAll placeholders others = second.map tests) :
    testsForAll placeholders (leaves ++ others) =
      (ofOutcomes [first, second]).map tests := by
  rw [testsForAll_append, ofOutcomes_cons, ofOutcomes_cons, ofOutcomes_nil,
    followedBy_ok_nil, ofFirst, ofSecond]

/-- A container in a web that is no list is no type argument. -/
theorem ofWeb_of_items?_eq_none {outside : List Value} {web : Web} {place : Nat}
    (noItems : (web.container place).items? = none)
    (outcomes : List (Except Error TypeSpec)) :
    ofWeb outside web outcomes place = refuse (.linked outside web place) := by
  rw [ofWeb, Web.fold_eq]
  dsimp only
  rw [Container.items?_map, noItems]
  rfl

variable {placeholders} in
/-- If leaves make the tests of the values from outside of a web, then the leaves of each
container in it make the tests of the container. -/
theorem testsForAll_leavesOfWeb {outside : List Value}
    (ofOutside : ∀ value ∈ outside,
      testsForAll placeholders value.leaves = testsFor placeholders value)
    (web : Web) (place : Nat) :
    testsForAll placeholders
        (Value.leavesOfWeb outside web (Value.leavesOfEach outside) place) =
      (ofWeb outside web (ofEach placeholders outside) place).map tests := by
  rw [Value.leavesOfEach_eq_map, ofEach_eq_map]
  have ofIndex (index : Nat) :
      testsForAll placeholders ((outside.map Value.leaves).getD index [.null]) =
        ((outside.map (ofValue placeholders)).getD index (refuse .null)).map tests := by
    rw [show [Value.null] = Value.leaves .null from rfl,
      show refuse .null = ofValue placeholders .null from rfl, List.getD_map,
        List.getD_map]
    exact Value.forall_outer (testsForAll_singleton placeholders _) ofOutside index
  refine Web.foldFrom_relates
    (motive := fun leaves (outcome : Except Error TypeSpec) =>
      testsForAll placeholders leaves = outcome.map tests)
    ofIndex (fun _ _ _ _ => testsForAll_pair) (fun _ => rfl)
    (fun place made madeToo ofParts => ?_) _ _ place
  dsimp only
  rw [Container.items?_map, Container.items?_map]
  cases hasItems : (web.container place).items? with
  | none =>
      exact (testsForAll_singleton placeholders _).trans
        (congrArg (Except.map tests) (ofWeb_of_items?_eq_none hasItems _))
  | some items => exact testsForAll_flatten fun link _ => ofParts link

/-- The leaves of a type argument make its tests. -/
theorem testsForAll_leaves (type : Value) :
    testsForAll placeholders type.leaves = testsFor placeholders type := by
  induction type using Value.children_induction with
  | step type ofChildren =>
      cases type with
      | list items | tuple items =>
          rw [Value.leaves, Value.leavesOfEach_eq_map, testsFor, ofValue, ofEach_eq_map]
          exact testsForAll_flatten ofChildren
      | point x y =>
          rw [Value.leaves, testsFor, ofValue]
          exact testsForAll_pair (ofChildren x (by simp [Value.children]))
            (ofChildren y (by simp [Value.children]))
      | linked outside web place =>
          rw [Value.leaves, testsFor, ofValue]
          exact testsForAll_leavesOfWeb ofChildren web place
      | _ => exact testsForAll_singleton placeholders _

/-- Flattening a type argument leaves its tests as they are. -/
theorem testsFor_flattened (type : Value) :
    testsFor placeholders type.flattened = testsFor placeholders type := by
  unfold Value.flattened
  split
  · rw [testsFor_list, testsForAll_leaves]
  · rw [testsFor_tuple, testsForAll_leaves]
  · rw [testsFor_tuple, testsForAll_leaves]
  · rfl

/-- Several type arguments are refused for the first of them that is. -/
theorem failure?_testsForAll (types : List Value) :
    Outcome.failure? (testsForAll placeholders types) =
      types.findSome? fun type => Outcome.failure? (testsFor placeholders type) := by
  induction types with
  | nil => rw [testsForAll_nil]; rfl
  | cons type rest inductionHypothesis =>
      rw [testsForAll_cons, failure?_followedBy, List.findSome?_cons, inductionHypothesis]
      cases Outcome.failure? (testsFor placeholders type) <;> rfl

/-- A leaf is refused if it is no type argument. -/
theorem failure?_testsFor_leaf {leaf : Value} (isLeaf : leaf.IsLeaf) :
    Outcome.failure? (testsFor placeholders leaf) = leaf.refusal? := by
  obtain noItems | rfl := isLeaf
  · cases leaf with
    | list items | tuple items | point x y => cases noItems
    | linked outside web place =>
        unfold Value.refusal?
        dsimp only
        rw [noItems]
        rw [Value.items?_linked, Option.map_eq_none_iff] at noItems
        rw [testsFor, ofValue, ofWeb_of_items?_eq_none noItems]
        rfl
    | _ => rfl
  · rfl

/-- A type argument is refused for the first of its leaves that is. -/
theorem failure?_testsFor (type : Value) :
    Outcome.failure? (testsFor placeholders type) =
      type.leaves.findSome? Value.refusal? := by
  rw [← testsForAll_leaves, failure?_testsForAll]
  have areLeaves := Value.isLeaf_of_mem_leaves type
  generalize type.leaves = leaves at areLeaves ⊢
  induction leaves with
  | nil => rfl
  | cons leaf rest inductionHypothesis =>
      obtain ⟨isLeaf, restAreLeaves⟩ := List.forall_mem_cons.mp areLeaves
      rw [List.findSome?_cons, List.findSome?_cons,
        failure?_testsFor_leaf placeholders isLeaf, inductionHypothesis restAreLeaves]

end
end TypeSpec

/-! ## Checks -/

namespace Session

variable {value : Value} {placeholders : List Value} {name : Text}

theorem check_of_testsFor_ok {type : Value} {tests : List Test}
    (isClassified : TypeSpec.testsFor placeholders type = .ok tests) (session : Session) :
    session.check value type placeholders name = session.runTests value name tests := by
  obtain ⟨spec, isSpec, rfl⟩ := Outcome.map_eq_ok_iff.mp isClassified
  rw [check_eq_runTests, isSpec]

theorem check_of_testsFor_error {type : Value} {error : Error}
    (isRefused : TypeSpec.testsFor placeholders type = .error error) (session : Session) :
    session.check value type placeholders name = (.error error, session) := by
  rw [check_eq_runTests, Outcome.map_eq_error_iff.mp isRefused]

/-- What is checked against a type argument depends on its tests only. -/
theorem check_congr {type other : Value}
    (same : TypeSpec.testsFor placeholders type = TypeSpec.testsFor placeholders other)
    (session : Session) :
    session.check value type placeholders name =
      session.check value other placeholders name := by
  cases classified : TypeSpec.testsFor placeholders other with
  | error error =>
      rw [check_of_testsFor_error classified,
        check_of_testsFor_error (same.trans classified)]
  | ok tests =>
      rw [check_of_testsFor_ok classified, check_of_testsFor_ok (same.trans classified)]

/-- Making the tests of several type arguments is checking against one after the other. -/
theorem runTests_of_testsForAll_ok {types : List Value} {tests : List Test}
    (areClassified : TypeSpec.testsForAll placeholders types = .ok tests)
    (session : Session) :
    session.runTests value name tests =
      session.takeEach (fun before type =>
        before.check value type placeholders name) types := by
  induction types generalizing tests session with
  | nil =>
      obtain rfl := Except.ok.inj areClassified
      rfl
  | cons type rest inductionHypothesis =>
      rw [TypeSpec.testsForAll_cons] at areClassified
      obtain ⟨first, isFirst, isRest⟩ := Outcome.bind_eq_ok_iff.mp areClassified
      obtain ⟨later, isLater, rfl⟩ := Outcome.map_eq_ok_iff.mp isRest
      rw [runTests_append, takeEach, check_of_testsFor_ok isFirst]
      obtain ⟨outcome, after⟩ := session.runTests value name first
      cases outcome with
      | error error => rfl
      | ok verdict =>
          cases verdict with
          | none => exact inductionHypothesis isLater after
          | some message => rfl

/-- How a check of a value against some leaves ends. -/
inductive CheckedByLeaves (session : Session) (value : Value) (placeholders : List Value)
    (name : Text) (leaves : List Value) : Verdict × Session → Prop
  /-- The first leaf that is no type argument is refused before
  the value is checked at all. -/
  | refused {earlier later : List Value} {leaf : Value} {error : Error}
      (isSplit : leaves = earlier ++ leaf :: later)
      (earlierTaken : ∀ other ∈ earlier, other.refusal? = none)
      (isRefused : leaf.refusal? = some error) :
      CheckedByLeaves session value placeholders name leaves (.error error, session)
  /-- The first leaf that the value does not pass decides. -/
  | decided {result : Verdict × Session}
        (allTaken : ∀ leaf ∈ leaves, leaf.refusal? = none)
      (isDecided : DecidedByFirst
        (fun before leaf => before.check value leaf placeholders name) session
          leaves result) :
      CheckedByLeaves session value placeholders name leaves result

/-- A value is checked against the leaves of a type argument. -/
theorem checkedByLeaves (session : Session) (value type : Value)
    (placeholders : List Value) (name : Text) :
    CheckedByLeaves session value placeholders name type.leaves
      (session.check value type placeholders name) := by
  have refusal := TypeSpec.failure?_testsFor placeholders type
  cases classified : TypeSpec.testsFor placeholders type with
  | error error =>
      rw [classified, Outcome.failure?, eq_comm, List.findSome?_eq_some_iff] at refusal
      obtain ⟨earlier, leaf, later, isSplit, isRefused, earlierTaken⟩ := refusal
      rw [check_of_testsFor_error classified]
      exact .refused isSplit earlierTaken isRefused
  | ok tests =>
      rw [classified, Outcome.failure?, eq_comm, List.findSome?_eq_none_iff] at refusal
      have leavesClassified :=
        (TypeSpec.testsForAll_leaves placeholders type).trans classified
      rw [check_of_testsFor_ok classified, runTests_of_testsForAll_ok leavesClassified]
      exact .decided refusal (decidedByFirst_takeEach _ session type.leaves)

/-- What follows in a list makes no difference to a value that does not pass the items
before, as long as no leaf in it is refused. -/
theorem check_list_append {session : Session} {items others : List Value}
    (notPassed : (session.check value (.list items) placeholders name).1 ≠ .ok none)
    (allTaken : ∀ leaf ∈ (Value.list others).leaves, leaf.refusal? = none) :
    session.check value (.list (items ++ others)) placeholders name =
      session.check value (.list items) placeholders name := by
  have together := TypeSpec.testsForAll_append placeholders items others
  rw [← TypeSpec.testsFor_list, ← TypeSpec.testsFor_list placeholders items] at together
  cases classified : TypeSpec.testsFor placeholders (.list items) with
  | error error =>
      rw [classified] at together
      rw [check_of_testsFor_error classified, check_of_testsFor_error together]
  | ok tests =>
      have noRefusal := TypeSpec.failure?_testsFor placeholders (.list others)
      rw [List.findSome?_eq_none_iff.mpr allTaken, TypeSpec.testsFor_list] at noRefusal
      cases othersClassified : TypeSpec.testsForAll placeholders others with
      | error error => rw [othersClassified] at noRefusal; cases noRefusal
      | ok later =>
          rw [classified, othersClassified] at together
          rw [check_of_testsFor_ok classified] at notPassed
          rw [check_of_testsFor_ok classified, check_of_testsFor_ok together,
            runTests_append]
          generalize session.runTests value name tests = found at notPassed ⊢
          obtain ⟨outcome, after⟩ := found
          cases outcome with
          | error error => rfl
          | ok verdict =>
              cases verdict with
              | none => exact absurd rfl notPassed
              | some message => rfl

/-- Making groups of tests one after the other is making all their tests. -/
theorem takeEach_runTests (session : Session) (value : Value) (name : Text)
    (groups : List (List Test)) :
    session.takeEach (fun before group => before.runTests value name group) groups =
      session.runTests value name groups.flatten := by
  induction groups generalizing session with
  | nil => rfl
  | cons group rest inductionHypothesis =>
      rw [takeEach, List.flatten_cons, runTests_append]
      obtain ⟨outcome, after⟩ := session.runTests value name group
      cases outcome with
      | error error => rfl
      | ok verdict =>
          cases verdict with
          | none => exact inductionHypothesis after
          | some message => rfl

/-- How a value is checked against a type argument in which lists are nested. -/
structure ChecksFlattened (session : Session) (value type : Value)
    (placeholders : List Value) : Prop where
  /-- Nothing can be taken out of the leaves. -/
  areLeaves : ∀ leaf ∈ type.leaves, leaf.IsLeaf
  /-- The flattened type argument gives the same outcome and leaves the same session. -/
  sameCheck : ∀ name, session.check value type placeholders name =
    session.check value type.flattened placeholders name
  sameValidation : ∀ name, session.validate value type name placeholders =
    session.validate value type.flattened name placeholders
  sameAssertion : ∀ name, session.assertType value type name placeholders =
    session.assertType value type.flattened name placeholders
  sameMatch : session.isType value type placeholders =
    session.isType value type.flattened placeholders
  /-- A leaf that is no type argument is refused before anything else is done. Otherwise
  the first leaf that the value does not pass decides. -/
  byLeaves : ∀ name, CheckedByLeaves session value placeholders name type.leaves
    (session.check value type placeholders name)
  /-- What follows a leaf that the value does not pass makes no difference. -/
  restIsIdle : ∀ name items others,
    (session.check value (.list items) placeholders name).1 ≠ .ok none →
    (∀ leaf ∈ (Value.list others).leaves, leaf.refusal? = none) →
    session.check value (.list (items ++ others)) placeholders name =
      session.check value (.list items) placeholders name
  /-- Of any tests the first that the value does not pass decides. -/
  testsInOrder : ∀ name tests,
    DecidedByFirst (fun before test => before.runTest value name test) session tests
      (session.runTests value name tests)
  /-- Groups of any tests can be put together. -/
  groupsTogether : ∀ name groups,
    session.takeEach (fun before group => before.runTests value name group) groups =
      session.runTests value name groups.flatten

/-- However type arguments are nested in lists, a value is checked
against their leaves in order. -/
theorem nested_type_arguments_are_flattened (session : Session) (value type : Value)
    (placeholders : List Value) : ChecksFlattened session value type placeholders := by
  have sameCheck (name : Text) : session.check value type placeholders name =
      session.check value type.flattened placeholders name :=
    check_congr (TypeSpec.testsFor_flattened placeholders type).symm session
  have sameValidation (name : Value) : session.validate value type name placeholders =
      session.validate value type.flattened name placeholders := by
    unfold validate
    cases checkName name with
    | error error => rfl
    | ok text => exact sameCheck text
  exact {
    areLeaves := type.isLeaf_of_mem_leaves
    sameCheck := sameCheck
    sameValidation := sameValidation
    sameAssertion := fun name => by rw [assertType, assertType, sameValidation]
    sameMatch := by rw [isType, isType, sameCheck]
    byLeaves := session.checkedByLeaves value type placeholders
    restIsIdle := fun name items others => check_list_append
    testsInOrder := fun name tests => by
      rw [runTests_eq_takeEach]
      exact decidedByFirst_takeEach _ session tests
    groupsTogether := session.takeEach_runTests value }

/-- A text that is no expression is not read behind a leaf that the value does not pass.
A value that is no type argument is refused there all the same. -/
theorem nested_type_arguments_are_flattened_rejected :
    (start.check (.integer 1) (.list [.tuple [.text "str"]]) [] "x").1 ≠ .ok none ∧
      (∀ leaf ∈ (Value.list [.text "arr<"]).leaves, leaf.refusal? = none) ∧
      start.check (.integer 1) (.list [.tuple [.text "str"], .text "arr<"]) [] "x" =
        start.check (.integer 1) (.list [.tuple [.text "str"]]) [] "x" ∧
      (start.isType (.integer 1) (.list [.tuple [.text "str"], .null]) []).1.toOption =
        none := by
  have isRejected :
      (start.check (.integer 1) (.list [.tuple [.text "str"]]) [] "x").1 ≠ .ok none := by
    have message :
        (start.check (.integer 1) (.list [.tuple [.text "str"]]) [] "x").1.toOption =
        some (some ("Expected string for \"x\", got 1 (number)" : Text)) := by
      decide +kernel
    intro isAccepted
    rw [isAccepted] at message
    cases message
  have noRefusal : ∀ leaf ∈ (Value.list [.text "arr<"]).leaves, leaf.refusal? = none :=
    List.forall_mem_singleton.mpr rfl
  have isIdle :=
    (nested_type_arguments_are_flattened start (.integer 1) .null []).restIsIdle
    "x" [.tuple [.text "str"]] [.text "arr<"] isRejected noRefusal
  exact ⟨isRejected, noRefusal, isIdle, by decide +kernel⟩

end Session
end KindExpr
