import KindExpr.Proofs.Expr.Spelling

/-!
# What surrounds a literal

A scan does not look into the literals it has read. What it makes of an
expression with a literal at some place is therefore a surrounding of this
literal: a list of alternatives with a gap, which every literal that may stand at
the place fills in the same way.

The gap is followed through the scan, one case for each thing a character
can do. It is in the list that is being written, in one of those around
it, or in a finished alternative.
-/

namespace KindExpr

/-! ## Alternatives with a gap -/

/-- An alternative in which one literal is left open. -/
inductive Alternative.Gap where
  /-- The literal of the alternative itself. -/
  | own (node : Alternative)
  /-- The literal of its key. -/
  | key (node : Alternative)
  /-- A literal in one of its members. -/
  | member (node : Alternative) (before : List Alternative) (gap : Gap)
        (after : List Alternative)

/-- Put a literal into a gap. -/
def Alternative.Gap.fill (written : Literal) : Alternative.Gap → Alternative
  | own node => { node with literal := some written }
  | key node => { node with keyLiteral := some written }
  | member node before gap after =>
      { node with members := before ++ gap.fill written :: after }

/-- A list of alternatives in which one literal is left open. -/
structure Surrounding where
  before : List Alternative
  gap : Alternative.Gap
  after : List Alternative

/-- Put a literal into its surrounding. -/
def Surrounding.fill (surrounding : Surrounding) (written : Literal) : List Alternative :=
  surrounding.before ++ surrounding.gap.fill written :: surrounding.after

/-- A list that is being written in which one literal is left open. -/
inductive OpenList.Gap where
  /-- The gap is in the alternative that is being written. -/
  | inCurrent (finished : List Alternative) (gap : Alternative.Gap)
  /-- The gap is in a finished alternative. -/
  | inFinished (newer : List Alternative) (gap : Alternative.Gap)
        (older : List Alternative)
      (current : Alternative)

namespace OpenList.Gap

/-- Put a literal into a gap. -/
def fill (written : Literal) : OpenList.Gap → OpenList
  | inCurrent finished gap => ⟨finished, gap.fill written⟩
  | inFinished newer gap older current => ⟨newer ++ gap.fill written :: older, current⟩

/-- What surrounds the gap once the list is complete. -/
def surrounding : OpenList.Gap → Surrounding
  | inCurrent finished gap => ⟨finished.reverse, gap, []⟩
  | inFinished newer gap older current => ⟨older.reverse, gap, newer.reverse ++ [current]⟩

theorem alternatives_fill (gap : OpenList.Gap) (written : Literal) :
    (gap.fill written).alternatives = gap.surrounding.fill written := by
  cases gap with
  | inCurrent finished gap => rfl
  | inFinished newer gap older current =>
      simp [fill, surrounding, Surrounding.fill, OpenList.alternatives]

/-- Finish the alternative that is being written. -/
def next : OpenList.Gap → OpenList.Gap
  | inCurrent finished gap => inFinished [] gap finished .blank
  | inFinished newer gap older current => inFinished (current :: newer) gap older .blank

theorem next_fill (gap : OpenList.Gap) (written : Literal) :
    (gap.fill written).next = gap.next.fill written := by
  cases gap <;> rfl

/-- Whether there is content does not depend on what fills a gap. -/
theorem hasContent_fill (gap : OpenList.Gap) (written other : Literal) :
    (gap.fill written).current.hasContent = (gap.fill other).current.hasContent := by
  cases gap with
  | inCurrent finished gap => cases gap <;> rfl
  | inFinished newer gap older current => rfl

end OpenList.Gap

namespace Scan

/-- Closing a list, as what it does to the scan written out. -/
theorem PlainStep.close {mode : ScanMode} {list parent : OpenList} {outer : List OpenList}
    (content : list.current.hasContent = true) :
    PlainStep ⟨mode, list, parent :: outer⟩ '>'
      ⟨.plain, parent.update fun node =>
        { node with members := list.alternatives }, outer⟩ :=
  .closeMembers content rfl

/-- A scan in which one literal is left open: the lists inside of the one with the gap,
the innermost first, this list, and those around it. -/
structure Gap where
  mode : ScanMode
  inner : List OpenList
  list : OpenList.Gap
  outer : List OpenList

namespace Gap

/-- Put a literal into a gap. -/
def fill (written : Literal) (gap : Scan.Gap) : Scan :=
  match gap.inner with
  | [] => ⟨gap.mode, gap.list.fill written, gap.outer⟩
  | first :: rest => ⟨gap.mode, first, rest ++ gap.list.fill written :: gap.outer⟩

/-- Whether nothing is written over a gap by reading on: nothing is added to an
alternative that has its members or its own literal, and a key is declared but once. -/
inductive IsProper : Scan.Gap → Prop
  | own {mode : ScanMode} {inner outer : List OpenList} {finished : List Alternative}
      {node : Alternative} (plain : inner = [] → mode = .plain) :
      IsProper ⟨mode, inner, .inCurrent finished (.own node), outer⟩
  | key {mode : ScanMode} {inner outer : List OpenList} {finished : List Alternative}
      {node : Alternative} (hasKey : node.key ≠ none) :
      IsProper ⟨mode, inner, .inCurrent finished (.key node), outer⟩
  | member {mode : ScanMode} {outer : List OpenList} {finished : List Alternative}
      {node : Alternative} {before after : List Alternative} {gap : Alternative.Gap} :
      IsProper ⟨mode, [], .inCurrent finished (.member node before gap after), outer⟩
  | finished {mode : ScanMode} {inner outer : List OpenList}
      {newer older : List Alternative} {gap : Alternative.Gap} {current : Alternative} :
      IsProper ⟨mode, inner, .inFinished newer gap older current, outer⟩

/-- In the lists inside of the one with the gap anything may be written. -/
theorem IsProper.withInner {mode : ScanMode} {first : OpenList}
    {rest outer : List OpenList}
    {list : OpenList.Gap} (proper : IsProper ⟨mode, first :: rest, list, outer⟩)
    (other : ScanMode) (second : OpenList) (further : List OpenList) :
    IsProper ⟨other, second :: further, list, outer⟩ := by
  cases proper with
  | own plain => exact .own (fun isNil => absurd isNil (List.cons_ne_nil _ _))
  | key hasKey => exact .key hasKey
  | finished => exact .finished

/-- The mode matters only if the alternative that is being written
has a gap for its own literal. -/
theorem IsProper.withMode {mode : ScanMode} {inner outer : List OpenList}
    {list : OpenList.Gap} (proper : IsProper ⟨mode, inner, list, outer⟩)
    (notPlain : mode ≠ .plain)
    (other : ScanMode) : IsProper ⟨other, inner, list, outer⟩ := by
  cases proper with
  | own plain => exact .own (fun isNil => absurd (plain isNil) notPlain)
  | key hasKey => exact .key hasKey
  | member => exact .member
  | finished => exact .finished

/-- Whether a character takes a scan with a gap to another one, whatever fills the gap. -/
def Steps (gap : Scan.Gap) (c : Code) (after : Scan.Gap) : Prop :=
  after.IsProper ∧ ∀ written, PlainStep (gap.fill written) c (after.fill written)

/-- A character that is read inside of the list with the gap does the
same whatever fills the gap. -/
theorem exists_steps_of_inner {mode : ScanMode} {first : OpenList}
    {rest outer : List OpenList}
    {list : OpenList.Gap} {written : Literal} {c : Code} {next : Scan}
    (proper : IsProper ⟨mode, first :: rest, list, outer⟩)
    (step : PlainStep (fill written ⟨mode, first :: rest, list, outer⟩) c next) :
    ∃ after : Scan.Gap, next = after.fill written ∧
      Steps ⟨mode, first :: rest, list, outer⟩ c after := by
  have ofInner : ∀ (other : ScanMode) (second : OpenList) (further : List OpenList),
      IsProper ⟨other, second :: further, list, outer⟩ := proper.withInner
  cases step with
  | blank isBlank => exact ⟨_, rfl, proper, fun _ => .blank isBlank⟩
  | openLiteral noContent noMembers =>
      exact ⟨⟨.body [], first :: rest, list, outer⟩, rfl, ofInner _ _ _,
        fun _ => .openLiteral noContent noMembers⟩
  | negate noContent =>
      exact ⟨⟨mode, first.update _ :: rest, list, outer⟩, rfl, ofInner _ _ _,
        fun _ => .negate noContent⟩
  | nameChar isName noLiteral noMembers =>
      exact ⟨⟨mode, first.update _ :: rest, list, outer⟩, rfl, ofInner _ _ _,
        fun _ => .nameChar isName noLiteral noMembers⟩
  | openMembers content noMembers =>
      exact ⟨⟨.plain, .start :: first :: rest, list, outer⟩, rfl, ofInner _ _ _,
        fun _ => .openMembers content noMembers⟩
  | @closeMembers parent further content nested =>
      cases rest with
      | cons second later =>
          cases nested
          exact ⟨⟨.plain, parent.update _ :: later, list, outer⟩, rfl, ofInner _ _ _,
            fun _ => .close content⟩
      | nil =>
          cases nested
          cases proper with
          | @own _ _ _ finished node plain =>
              exact ⟨⟨.plain, [], .inCurrent finished
                (.own { node with members := first.alternatives }), outer⟩, rfl,
                .own fun _ => rfl, fun _ => .close content⟩
          | @key _ _ _ finished node hasKey =>
              exact ⟨⟨.plain, [], .inCurrent finished
                (.key { node with members := first.alternatives }), outer⟩, rfl,
                .key hasKey, fun _ => .close content⟩
          | @finished _ _ _ newer older gap current =>
              exact ⟨⟨.plain, [], .inFinished newer gap older
                { current with members := first.alternatives }, outer⟩, rfl,
                .finished, fun _ => .close content⟩
  | nextAlternative content =>
      exact ⟨⟨mode, first.next :: rest, list, outer⟩, rfl, ofInner _ _ _,
        fun _ => .nextAlternative content⟩
  | declareKey content nested noKey noMembers =>
      refine ⟨⟨mode, first.update declareKey :: rest, list, outer⟩, rfl, ofInner _ _ _,
        fun _ => .declareKey content ?_ noKey noMembers⟩
      simp [fill]

section List

variable {mode : ScanMode} {list : OpenList.Gap} {outer : List OpenList}
  {finished : List Alternative}
  {node : Alternative} {written : Literal} {c : Code} {next : Scan}

/-- The end of the list with the gap does the same whatever fills the gap. -/
theorem exists_steps_of_closeMembers {parent : OpenList}
    (content : (list.fill written).current.hasContent = true) :
    ∃ after : Scan.Gap,
      ⟨.plain, parent.update fun node =>
        { node with members := (list.fill written).alternatives },
        outer⟩ = after.fill written ∧
          Steps ⟨mode, [], list, parent :: outer⟩ '>' after := by
  refine ⟨⟨.plain, [], .inCurrent parent.finished (.member parent.current
    list.surrounding.before list.surrounding.gap list.surrounding.after), outer⟩, ?_,
    .member, fun other => ?_⟩
  · simp only [fill, list.alternatives_fill]
    rfl
  · have step : PlainStep ⟨mode, list.fill other, parent :: outer⟩ '>' _ :=
      .close ((list.hasContent_fill other written).trans content)
    rw [list.alternatives_fill] at step
    exact step

/-- The end of an alternative in the list with the gap does the
same whatever fills the gap. -/
theorem exists_steps_of_nextAlternative
    (content : (list.fill written).current.hasContent = true) :
    ∃ after : Scan.Gap, ⟨mode, (list.fill written).next, outer⟩ = after.fill written ∧
      Steps ⟨mode, [], list, outer⟩ '|' after := by
  refine ⟨⟨mode, [], list.next, outer⟩, ?_, ?_, fun other => ?_⟩
  · simp only [fill, list.next_fill]
  · cases list <;> exact .finished
  · have step : PlainStep ⟨mode, list.fill other, outer⟩ '|' _ :=
      .nextAlternative ((list.hasContent_fill other written).trans content)
    simp only [list.next_fill] at step
    exact step

/-- In an alternative whose own literal is left open members begin or a key ends. -/
theorem exists_steps_of_own (plain : mode = .plain)
    (step : PlainStep
      (fill written ⟨mode, [], .inCurrent finished (.own node), outer⟩) c next) :
    ∃ after : Scan.Gap, next = after.fill written ∧
      Steps ⟨mode, [], .inCurrent finished (.own node), outer⟩ c after := by
  cases step with
  | blank isBlank => exact ⟨_, rfl, .own fun _ => plain, fun _ => .blank isBlank⟩
  | @closeMembers parent further content nested =>
      cases nested
      exact exists_steps_of_closeMembers content
  | nextAlternative content => exact exists_steps_of_nextAlternative content
  | openMembers content noMembers =>
      exact ⟨⟨.plain, [.start], .inCurrent finished (.own node), outer⟩, rfl,
        .own (fun isNil => absurd isNil (List.cons_ne_nil _ _)),
        fun _ => .openMembers content noMembers⟩
  | declareKey content nested noKey noMembers =>
      exact ⟨⟨mode, [], .inCurrent finished (.key (Scan.declareKey node)), outer⟩, rfl,
        .key (Option.some_ne_none _), fun _ => .declareKey content nested noKey noMembers⟩
  | openLiteral noContent noMembers =>
      simp [fill, OpenList.Gap.fill, Alternative.Gap.fill, current,
        Alternative.hasContent]
        at noContent
  | negate noContent =>
      simp [fill, OpenList.Gap.fill, Alternative.Gap.fill, current,
        Alternative.hasContent]
        at noContent
  | nameChar isName noLiteral noMembers => cases noLiteral

/-- In an alternative whose key is left open anything but a second key may be written. -/
theorem exists_steps_of_key (hasKey : node.key ≠ none)
    (step : PlainStep
      (fill written ⟨mode, [], .inCurrent finished (.key node), outer⟩) c next) :
    ∃ after : Scan.Gap, next = after.fill written ∧
      Steps ⟨mode, [], .inCurrent finished (.key node), outer⟩ c after := by
  cases step with
  | blank isBlank => exact ⟨_, rfl, .key hasKey, fun _ => .blank isBlank⟩
  | @closeMembers parent further content nested =>
      cases nested
      exact exists_steps_of_closeMembers content
  | nextAlternative content => exact exists_steps_of_nextAlternative content
  | openLiteral noContent noMembers =>
      exact ⟨⟨.body [], [], .inCurrent finished (.key node), outer⟩, rfl, .key hasKey,
        fun _ => .openLiteral noContent noMembers⟩
  | negate noContent =>
      exact ⟨⟨mode, [], .inCurrent finished (.key { node with negated := !node.negated }),
        outer⟩, rfl, .key hasKey, fun _ => .negate noContent⟩
  | nameChar isName noLiteral noMembers =>
      exact ⟨⟨mode, [], .inCurrent finished (.key { node with name := node.name.push c }),
        outer⟩, rfl, .key hasKey, fun _ => .nameChar isName noLiteral noMembers⟩
  | openMembers content noMembers =>
      exact ⟨⟨.plain, [.start], .inCurrent finished (.key node), outer⟩, rfl, .key hasKey,
        fun _ => .openMembers content noMembers⟩
  | declareKey content nested noKey noMembers => exact absurd noKey hasKey

/-- An alternative with the gap in a member can only be negated, and ends otherwise. -/
theorem exists_steps_of_member {before after : List Alternative} {gap : Alternative.Gap}
    (step : PlainStep
      (fill written ⟨mode, [], .inCurrent finished (.member node before gap after),
        outer⟩) c next) :
    ∃ later : Scan.Gap, next = later.fill written ∧
      Steps ⟨mode, [], .inCurrent finished (.member node before gap after), outer⟩
        c later := by
  cases step with
  | blank isBlank => exact ⟨_, rfl, .member, fun _ => .blank isBlank⟩
  | @closeMembers parent further content nested =>
      cases nested
      exact exists_steps_of_closeMembers content
  | nextAlternative content => exact exists_steps_of_nextAlternative content
  | negate noContent =>
      exact ⟨⟨mode, [], .inCurrent finished
        (.member { node with negated := !node.negated } before gap after), outer⟩,
          rfl, .member,
        fun _ => .negate noContent⟩
  | openLiteral noContent noMembers =>
      simp [fill, OpenList.Gap.fill, Alternative.Gap.fill, current] at noMembers
  | nameChar isName noLiteral noMembers =>
      simp [fill, OpenList.Gap.fill, Alternative.Gap.fill, current] at noMembers
  | openMembers content noMembers =>
      simp [fill, OpenList.Gap.fill, Alternative.Gap.fill, current] at noMembers
  | declareKey content nested noKey noMembers =>
      simp [fill, OpenList.Gap.fill, Alternative.Gap.fill, current] at noMembers

/-- After the alternative with the gap anything may be written. -/
theorem exists_steps_of_finished {newer older : List Alternative} {gap : Alternative.Gap}
    {current : Alternative}
    (step : PlainStep
      (fill written ⟨mode, [], .inFinished newer gap older current, outer⟩)
      c next) :
    ∃ after : Scan.Gap, next = after.fill written ∧
      Steps ⟨mode, [], .inFinished newer gap older current, outer⟩ c after := by
  cases step with
  | blank isBlank => exact ⟨_, rfl, .finished, fun _ => .blank isBlank⟩
  | @closeMembers parent further content nested =>
      cases nested
      exact exists_steps_of_closeMembers content
  | nextAlternative content => exact exists_steps_of_nextAlternative content
  | openLiteral noContent noMembers =>
      exact ⟨⟨.body [], [], .inFinished newer gap older current, outer⟩, rfl, .finished,
        fun _ => .openLiteral noContent noMembers⟩
  | negate noContent =>
      exact ⟨⟨mode, [], .inFinished newer gap older
        { current with negated := !current.negated }, outer⟩, rfl, .finished,
        fun _ => .negate noContent⟩
  | nameChar isName noLiteral noMembers =>
      exact ⟨⟨mode, [], .inFinished newer gap older
        { current with name := current.name.push c }, outer⟩, rfl, .finished,
        fun _ => .nameChar isName noLiteral noMembers⟩
  | openMembers content noMembers =>
      exact ⟨⟨.plain, [.start], .inFinished newer gap older current, outer⟩,
        rfl, .finished,
        fun _ => .openMembers content noMembers⟩
  | declareKey content nested noKey noMembers =>
      exact ⟨⟨mode, [], .inFinished newer gap older (Scan.declareKey current), outer⟩,
        rfl,
        .finished, fun _ => .declareKey content nested noKey noMembers⟩

/-- A character that is read in the list with the gap does the
same whatever fills the gap. -/
theorem exists_steps_of_list (proper : IsProper ⟨mode, [], list, outer⟩)
    (step : PlainStep (fill written ⟨mode, [], list, outer⟩) c next) :
    ∃ after : Scan.Gap, next = after.fill written ∧
      Steps ⟨mode, [], list, outer⟩ c after := by
  cases proper with
  | own plain => exact exists_steps_of_own (plain rfl) step
  | key hasKey => exact exists_steps_of_key hasKey step
  | member => exact exists_steps_of_member step
  | finished => exact exists_steps_of_finished step

end List

/-- A character outside of literals does the same whatever fills the gap. -/
theorem exists_steps {gap : Scan.Gap} {written : Literal} {c : Code} {next : Scan}
    (proper : gap.IsProper) (step : PlainStep (gap.fill written) c next) :
    ∃ after : Scan.Gap, next = after.fill written ∧ gap.Steps c after := by
  obtain ⟨mode, inner, list, outer⟩ := gap
  cases inner with
  | nil => exact exists_steps_of_list proper step
  | cons first rest => exact exists_steps_of_inner proper step

/-! ## Characters of literals and the end -/

@[simp] theorem mode_fill (gap : Scan.Gap) (written : Literal) :
    (gap.fill written).mode = gap.mode := by
  rw [fill]
  split <;> rfl

/-- Filling a gap does not depend on the mode. -/
theorem fill_withMode (gap : Scan.Gap) (mode : ScanMode) (written : Literal) :
    fill written { gap with mode := mode } = { gap.fill written with mode := mode } := by
  obtain ⟨own, inner, list, outer⟩ := gap
  cases inner <;> rfl

/-- The flags of a literal end in the same way whatever fills the gap. -/
theorem exists_endFlags {gap : Scan.Gap} (proper : gap.IsProper) :
    ∃ after : Scan.Gap, after.IsProper ∧
      ∀ written, (gap.fill written).endFlags = after.fill written := by
  obtain ⟨mode, inner, list, outer⟩ := gap
  cases mode with
  | flags text letters =>
      have hasMode : ∀ written,
          (fill written ⟨.flags text letters, inner, list, outer⟩).mode =
            .flags text letters :=
        fun written => mode_fill _ written
      cases inner with
      | cons first rest =>
          exact ⟨⟨.plain, (first.update fun node =>
            { node with literal := some (literalOf text letters) }) :: rest, list, outer⟩,
            proper.withInner _ _ _, fun written => rfl⟩
      | nil =>
          cases proper with
          | own plain => cases plain rfl
          | @key _ _ _ finished node hasKey =>
              exact ⟨⟨.plain, [], .inCurrent finished
                (.key { node with literal := some (literalOf text letters) }), outer⟩,
                .key hasKey, fun written => rfl⟩
          | @member _ _ finished node before after gap =>
              exact ⟨⟨.plain, [], .inCurrent finished (.member
                { node with literal := some (literalOf text letters) } before gap
                  after), outer⟩,
                .member, fun written => rfl⟩
          | @finished _ _ _ newer older gap current =>
              exact ⟨⟨.plain, [], .inFinished newer gap older
                { current with literal := some (literalOf text letters) }, outer⟩,
                .finished, fun written => rfl⟩
  | _ => exact ⟨_, proper, fun written => by simp [endFlags]⟩

/-- A character is read in the same way whatever fills the gap. -/
theorem exists_step {gap : Scan.Gap} {written : Literal} {c : Code} {next : Scan}
    (proper : gap.IsProper) (stepped : (gap.fill written).step c = .ok next) :
    ∃ after : Scan.Gap, after.IsProper ∧ next = after.fill written ∧
      ∀ other, (gap.fill other).step c = .ok (after.fill other) := by
  -- Inside of a literal only the mode changes.
  have ofMode : ∀ mode : ScanMode, gap.mode ≠ .plain →
      (∀ other, (gap.fill other).step c = .ok { gap.fill other with mode := mode }) →
      ∃ after : Scan.Gap, after.IsProper ∧ next = after.fill written ∧
        ∀ other, (gap.fill other).step c = .ok (after.fill other) := by
    intro mode notPlain steps
    have steps : ∀ other,
        (gap.fill other).step c = .ok (fill other { gap with mode := mode }) := by
      intro other
      rw [steps other, ← fill_withMode]
    exact ⟨{ gap with mode := mode }, proper.withMode notPlain mode,
      Except.ok.inj (stepped.symm.trans (steps written)), steps⟩
  cases mode : gap.mode with
  | plain =>
      rw [step_of_plain (by rw [mode_fill, mode])] at stepped
      obtain ⟨after, nextEqual, afterProper, steps⟩ :=
        exists_steps proper (plainStep_of_stepPlain stepped)
      refine ⟨after, afterProper, nextEqual, fun other => ?_⟩
      rw [step_of_plain (by rw [mode_fill, mode])]
      exact stepPlain_of_plainStep (steps other)
  | body text =>
      by_cases isEscape : c = '\\'
      · exact ofMode (.escaped (c :: text)) (by simp [mode]) fun other => by
          simp [step, mode, isEscape]
      · by_cases isDelimiter : c = '/'
        · exact ofMode (.flags text []) (by simp [mode]) fun other => by
            simp [step, mode, isDelimiter]
        · exact ofMode (.body (c :: text)) (by simp [mode]) fun other => by
            simp [step, mode, isEscape, isDelimiter]
  | escaped text =>
      exact ofMode (.body (c :: text)) (by simp [mode]) fun other => by simp [step, mode]
  | flags text letters =>
      by_cases isLetter : Text.isAsciiLetter c = true
      · exact ofMode (.flags text (c :: letters)) (by simp [mode]) fun other => by
          simp [step, mode, isLetter]
      · obtain ⟨ended, endedProper, ends⟩ := exists_endFlags proper
        have steps : ∀ other, (gap.fill other).step c =
            (ended.fill other).stepPlain c := by
          intro other
          simp [step, mode, isLetter, ends]
        rw [steps written] at stepped
        obtain ⟨after, nextEqual, afterProper, accepted⟩ :=
          exists_steps endedProper (plainStep_of_stepPlain stepped)
        refine ⟨after, afterProper, nextEqual, fun other => ?_⟩
        rw [steps other]
        exact stepPlain_of_plainStep (accepted other)

/-- A scan ends in the same way whatever fills the gap. -/
theorem exists_finish {gap : Scan.Gap} {written : Literal}
    {alternatives : List Alternative}
    (proper : gap.IsProper) (finished : (gap.fill written).finish = .ok alternatives) :
    ∃ surrounding : Surrounding, alternatives = surrounding.fill written ∧
      ∀ other, (gap.fill other).finish = .ok (surrounding.fill other) := by
  obtain ⟨ended, endedProper, ends⟩ := exists_endFlags proper
  have finishes : ∀ other, gap.mode = .plain ∨
      (∃ text letters, gap.mode = .flags text letters) →
      (gap.fill other).finish =
        if !(ended.fill other).outer.isEmpty then .error (.missingClose, 0)
        else if !(ended.fill other).current.hasContent then .error (.unexpectedEnd, 0)
        else .ok (ended.fill other).list.alternatives := by
    rintro other (mode | ⟨text, letters, mode⟩) <;> simp [finish, mode, ends]
  have modes : gap.mode = .plain ∨ ∃ text letters, gap.mode = .flags text letters := by
    cases mode : gap.mode with
    | plain => exact .inl rfl
    | flags text letters => exact .inr ⟨text, letters, rfl⟩
    | _ => simp [finish, mode] at finished
  rw [finishes written modes] at finished
  obtain ⟨mode, inner, list, outer⟩ := ended
  cases inner with
  | cons first rest => simp [fill] at finished
  | nil =>
      by_cases isRoot : outer = []
      · by_cases content : (list.fill written).current.hasContent = true
        · subst isRoot
          refine ⟨list.surrounding, ?_, fun other => ?_⟩
          · simpa [fill, current, content, list.alternatives_fill, eq_comm] using finished
          · rw [list.hasContent_fill written other] at content
            rw [finishes other modes]
            simp [fill, current, content, list.alternatives_fill]
        · simp [fill, current, isRoot, content] at finished
      · simp [fill, isRoot] at finished

end Gap
end Scan
end KindExpr
