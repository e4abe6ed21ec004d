import KindExpr.Proofs.Pattern.Sequences

/-!
# Verbose mode that is set late

A pattern may set verbose mode for itself, but only before its first item. Up
to there it holds comments and flags, which read the same in both modes. So a
reader that is in verbose mode from the start arrives at the same place as
one that is told by the pattern.
-/

namespace KindExpr
namespace Pattern

/-! ## Results of reading steps -/

/-- Whether all results of a reading step have a property. -/
def Yields {α : Type} (property : α → Prop) (reader : Reader α) : Prop :=
  ∀ state found final, reader.run state = .ok (found, final) → property found

namespace Yields

variable {α β : Type} {property : α → Prop} {possible : β → Prop}

theorem pure {found : α} (holds : property found) :
    Yields property (Pure.pure found) := by
  intro state _ _ isRead
  cases isRead
  exact holds

theorem of_fails {reader : Reader α} (fails : Fails reader) : Yields property reader :=
  fun state _ _ isRead => absurd isRead (fails state _)

theorem bind {reader : Reader β} {next : β → Reader α} (first : Yields possible reader)
    (further : ∀ found, possible found → Yields property (next found)) :
    Yields property (reader >>= next) := by
  intro state found final isRead
  obtain ⟨value, middle, isFirst, goesOn⟩ := Reader.run_bind_eq_ok_iff.mp isRead
  exact further value (first state value middle isFirst) middle found final goesOn

/-- What comes first does not matter. -/
theorem after (reader : Reader β) {next : β → Reader α}
    (further : ∀ found, Yields property (next found)) :
    Yields property (reader >>= next) := by
  have anyResult : Yields (fun _ => True) reader := fun _ _ _ _ => trivial
  exact anyResult.bind fun found _ => further found

theorem ite {condition : Prop} [Decidable condition] {reader otherwise : Reader α}
    (ifTrue : Yields property reader) (ifFalse : Yields property otherwise) :
    Yields property (if condition then reader else otherwise) := by
  split
  · exact ifTrue
  · exact ifFalse

end Yields

namespace Reader

variable {extra : Flags} {tokens : List Token} {flags : Flags}
  {alternatives alternativesToo : Bool → Reader (List (List Node))}
  {sequence sequenceToo : Bool → Reader (List Node)} {bound second start : Nat}
  {verbose first : Bool} {items : List Node} {state other middle final : ReaderState}

/-! ## Steps that read an item -/

/-- A repetition leaves an item. -/
theorem readRepetition_yields (place : Nat) (bounds : Nat × Option Nat)
    (items : List Node) :
    Yields (· ≠ []) (readRepetition place bounds items) := by
  cases items with
  | nil => exact .of_fails (Fails.failAt _ _)
  | cons last earlier =>
      rw [readRepetition]
      refine .ite (.of_fails ((Fails.failAt _ _).bind_left _)) ?_
      refine .ite (.of_fails ((Fails.failAt _ _).bind_left _)) ?_
      have repeated : ∀ greed, Yields (· ≠ []) (Pure.pure
          (Node.repetition greed bounds.1 bounds.2 (.ofList last.unpacked) :: earlier)) :=
        fun _ => .pure (List.cons_ne_nil _ _)
      refine .after _ fun isLazy => ?_
      simp only [pure_bind]
      refine .ite (repeated _) (.after _ fun isPossessive => ?_)
      exact .ite (repeated _) (repeated _)

/-- Without verbose mode, a character other than a parenthesis leaves an item. -/
theorem readPlain_yields {c : Code} (notOpen : c ≠ '(') :
    Yields (fun step : Step => step.2 ≠ [])
      (readPlain alternatives sequence bound false first items start c) := by
  have item : ∀ node, Yields (fun step : Step => step.2 ≠ [])
      (Pure.pure (false, node :: items)) := fun _ => .pure (List.cons_ne_nil _ _)
  unfold readPlain
  simp only [Bool.false_and, Bool.false_eq_true, if_false]
  split
  · exact .after _ fun node => item node
  · exact item _
  · exact item _
  · exact item _
  · exact absurd rfl notOpen
  · refine .ite ?_ (item _)
    rw [readMark]
    refine .after _ fun bounds => ?_
    cases bounds with
    | none => exact item _
    | some bounds =>
        exact .bind (readRepetition_yields _ _ _) fun repeated notEmpty => .pure notEmpty

/-! ## Steps that read no item -/

/-- At a parenthesis, only a comment or flags leave no item. -/
theorem exists_head_of_readOpened {mode : Bool}
    (isRead : (readOpened alternatives sequence bound verbose first items start).run
      state =
      .ok ((mode, []), final)) :
    ∃ head, (readHead bound start).run state = .ok (head, final) ∧
      (head = .comment ∧ mode = verbose ∨
        head = .globalFlags ∧ mode = final.flags.verbose) := by
  rw [readOpened] at isRead
  obtain ⟨head, middle, isHead, goesOn⟩ := run_bind_eq_ok_iff.mp isRead
  have notItem : ∀ {reader : Reader Step}, Yields (fun step => step.2 ≠ []) reader →
      reader.run middle ≠ .ok ((mode, []), final) :=
    fun yields isRead => yields _ _ _ isRead rfl
  have item : ∀ node, Yields (fun step : Step => step.2 ≠ [])
      (Pure.pure (verbose, node :: items)) := fun _ => .pure (List.cons_ne_nil _ _)
  cases head with
  | comment =>
      cases goesOn
      exact ⟨.comment, isHead, .inl ⟨rfl, rfl⟩⟩
  | globalFlags =>
      dsimp only at goesOn
      split at goesOn
      · exact absurd goesOn ((Fails.failAt _ _).bind_left _ _ _)
      · cases goesOn
        exact ⟨.globalFlags, isHead, .inr ⟨rfl, rfl⟩⟩
  | whole node => exact absurd goesOn (notItem (item _))
  | look behind negated =>
      refine absurd goesOn
        (notItem (.after _ fun _ => .after _ fun _ => .after _ fun _ => ?_))
      exact .after _ fun _ => .after _ fun _ => item _
  | conditional group =>
      refine absurd goesOn
        (notItem (.after _ fun _ => .after _ fun _ => .after _ fun _ => ?_))
      exact item _
  | atomic => exact absurd goesOn (notItem (.after _ fun _ => .after _ fun _ => item _))
  | group number added removed =>
      refine absurd goesOn
        (notItem (.after _ fun _ => .after _ fun _ => .after _ fun _ => ?_))
      exact item _

/-- A comment leaves the items as they are. -/
theorem readOpened_of_comment
    (isHead : (readHead bound start).run state = .ok (.comment, final)) :
    (readOpened alternatives sequence bound verbose first items start).run state =
      .ok ((verbose, items), final) := by
  rw [readOpened]
  exact run_bind_eq_ok_iff.mpr ⟨_, _, isHead, rfl⟩

/-- Flags before the first item set the mode. -/
theorem readOpened_of_globalFlags
    (isHead : (readHead bound start).run state = .ok (.globalFlags, final)) :
    (readOpened alternatives sequence bound verbose true [] start).run state =
      .ok ((final.flags.verbose, []), final) := by
  rw [readOpened]
  exact run_bind_eq_ok_iff.mpr ⟨_, _, isHead, rfl⟩

/-- A parenthesis is opened in both modes. -/
theorem readPlain_parenthesis :
    readPlain alternatives sequence bound verbose first items start '(' =
      readOpened alternatives sequence bound verbose first items start := by
  cases verbose with
  | false => rfl
  | true => rfl

/-- Without verbose mode, a step that leaves no item is one at a parenthesis. -/
theorem exists_head_of_readStep {mode : Bool}
    (isRead : (readStep alternatives sequence bound false first items).run state =
      .ok (some (mode, []), final)) :
    ∃ next head, state.cursor.peek = some (.plain '(') ∧
    advance.run state = .ok ((), next) ∧
      (readHead bound state.cursor.position).run next = .ok (head, final) ∧
        (head = .comment ∧ mode = false ∨ head = .globalFlags ∧
          mode = final.flags.verbose) := by
  have notItem : ∀ {reader : Reader (Option Step)},
      Yields (fun step => ∀ mode, step ≠ some (mode, [])) reader →
        reader.run state ≠ .ok (some (mode, []), final) :=
    fun yields isRead => yields _ _ _ isRead mode rfl
  unfold readStep at isRead
  obtain ⟨token, _, isPeeked, goesOn⟩ := run_bind_eq_ok_iff.mp isRead
  cases isPeeked
  cases isAhead : state.cursor.peek with
  | none =>
      rw [isAhead] at goesOn
      cases goesOn
  | some token =>
      rw [isAhead] at goesOn
      cases token with
      | escaped c =>
          refine absurd goesOn (notItem (.after _ fun _ => .after _ fun node => .pure ?_))
          simp
      | plain c =>
          by_cases isOpen : c = '('
          · subst isOpen
            have notEnd : ¬ (Code.char '(' = '|' ∨ Code.char '(' = ')') := by decide
            simp only [if_neg notEnd] at goesOn
            obtain ⟨place, _, isPlace, goesOn⟩ := run_bind_eq_ok_iff.mp goesOn
            cases isPlace
            obtain ⟨_, next, isAdvanced, goesOn⟩ := run_bind_eq_ok_iff.mp goesOn
            rw [readPlain_parenthesis] at goesOn
            obtain ⟨step, _, isOpened, isDone⟩ := run_bind_eq_ok_iff.mp goesOn
            cases isDone
            obtain ⟨head, isHead, isKind⟩ := exists_head_of_readOpened isOpened
            exact ⟨next, head, rfl, isAdvanced, isHead, isKind⟩
          · refine absurd goesOn (notItem (.ite (.pure (by simp)) (.after _ fun _ => ?_)))
            refine .after _ fun _ => .bind
              (readPlain_yields isOpen) fun step notEmpty => .pure ?_
            rintro mode ⟨⟩
            exact notEmpty rfl

/-- The step at a parenthesis, in any mode. -/
theorem readStep_of_opened {next : ReaderState} {step : Step}
    (isAhead : state.cursor.peek = some (.plain '('))
    (isAdvanced : advance.run state = .ok ((), next))
    (isOpened : (readOpened alternatives sequence bound verbose first items
      state.cursor.position).run next = .ok (step, final)) :
    (readStep alternatives sequence bound verbose first items).run state =
      .ok (some step, final) := by
  unfold readStep
  refine run_bind_eq_ok_iff.mpr ⟨some (.plain '('), state, ?_, ?_⟩
  · rw [← isAhead]
    rfl
  · have notEnd : ¬ (Code.char '(' = '|' ∨ Code.char '(' = ')') := by decide
    simp only [if_neg notEnd, readPlain_parenthesis]
    refine run_bind_eq_ok_iff.mpr ⟨state.cursor.position, state, rfl, ?_⟩
    refine run_bind_eq_ok_iff.mpr ⟨(), next, isAdvanced, ?_⟩
    exact run_bind_eq_ok_iff.mpr ⟨step, final, isOpened, rfl⟩

/-! ## Up to where the mode is set -/

/-- A step that leaves no item is taken in verbose mode too. -/
theorem exists_readStep_of_late {mode : Bool} (isLate : extra.verbose = true)
    (notYet : flags.verbose = false) (beside : IsBeside extra tokens flags state other)
    (few : tokens.length ≤ second)
    (isRead : (readStep alternatives sequence bound false true []).run state =
      .ok (some (mode, []), final)) :
    ∃ last later kept,
      (readStep alternativesToo sequenceToo second true true []).run other =
        .ok (some (true, []), last) ∧
      kept.verbose = mode ∧ Reaches tokens later ∧ later.length < tokens.length ∧
        IsBeside extra later kept final last := by
  obtain ⟨next, head, isAhead, isAdvanced, isHead, isKind⟩ :=
    exists_head_of_readStep isRead
  obtain ⟨rest, rfl⟩ : ∃ rest, tokens = .plain '(' :: rest := by
    rw [beside.cursors.peek.1] at isAhead
    exact List.head?_eq_some_iff.mp isAhead
  have isAheadToo : other.cursor.peek = some (.plain '(') := beside.cursors.peek.2
  have fewer : rest.length < second := few
  have sameHead : Follows extra (.plain '(' :: rest) flags
      (advance >>= fun _ => readHead bound state.cursor.position)
      (advance >>= fun _ => readHead second other.cursor.position)
      fun found foundToo later kept => foundToo = found ∧
        IsKept (found = .globalFlags) flags kept ∧ later.length ≤ rest.length :=
    Follows.bind_advance ((readHead_follows fewer).imp fun _ _ _ _ isRelated reaches =>
      ⟨isRelated.1, isRelated.2, reaches.length_le⟩)
  obtain ⟨_, last, later, kept, isReadToo, ⟨rfl, isKept, isFewer⟩, reaches, besideLast⟩ :=
    sameHead state other beside head final
      (run_bind_eq_ok_iff.mpr ⟨(), next, isAdvanced, isHead⟩)
  obtain ⟨_, nextToo, isAdvancedToo, isHeadToo⟩ := run_bind_eq_ok_iff.mp isReadToo
  refine ⟨last, later, kept, ?_, ?_, reaches, Nat.lt_succ_of_le isFewer, besideLast⟩
  · refine readStep_of_opened isAheadToo isAdvancedToo ?_
    obtain ⟨rfl, rfl⟩ | ⟨rfl, rfl⟩ := isKind
    · exact readOpened_of_comment isHeadToo
    · rw [readOpened_of_globalFlags isHeadToo, besideLast.otherFlags_eq,
        Flags.union, isLate, Bool.or_true]
  · obtain ⟨rfl, rfl⟩ | ⟨rfl, rfl⟩ := isKind
    · rw [isKept.keeps (by simp), notYet]
    · rw [besideLast.flags_eq]

/-- A reader is beside another one with no further flags. -/
theorem besideItself (beside : IsBeside extra tokens flags state other) :
    IsBeside .none tokens flags state { other with flags := flags } := by
  exact { beside with otherFlags_eq := flags.union_none.symm }

/-- After the first item, a sequence keeps the flags. -/
theorem flags_eq_of_readSequence {found : List Node}
    (beside : IsBeside extra tokens flags state other)
    (enough : 2 * tokens.length < bound)
    (mayNot : ¬ (first = true ∧ items = []))
    (isRead : (readSequence bound verbose first items).run state = .ok (found, final)) :
    final.flags = flags := by
  have aligned : Flags.none.verbose = true → flags.verbose = true :=
    fun isVerbose => by cases isVerbose
  have follows :=
    (alternativesFollow_and_sequencesFollow .none bound).2 verbose first items
    aligned enough enough
  obtain ⟨_, _, _, _, _, ⟨-, isKept⟩, -, besideFinal⟩ :=
    follows state _ (besideItself beside) found final isRead
  rw [besideFinal.flags_eq, isKept.keeps mayNot]

/-- A sequence after which verbose mode holds is read in that mode from the start. -/
theorem exists_readSequence_of_late {found : List Node} (isLate : extra.verbose = true)
    (notYet : flags.verbose = false) (beside : IsBeside extra tokens flags state other)
    (enough : 2 * tokens.length < bound) (enoughToo : 2 * tokens.length < second)
    (isRead : (readSequence bound false true []).run state = .ok (found, final))
    (isVerbose : final.flags.verbose = true) :
    ∃ last later kept, (readSequence second true true []).run other = .ok (found, last) ∧
      kept.verbose = true ∧ Reaches tokens later ∧
        IsBeside extra later kept final last := by
  induction bound generalizing tokens flags second state other with
  | zero => exact absurd enough (Nat.not_lt_zero _)
  | succ bound inductionHypothesis =>
      obtain ⟨second, rfl⟩ : ∃ less, second = less + 1 := ⟨second - 1, by omega⟩
      rw [readSequence] at isRead
      obtain ⟨step, middle, isStep, goesOn⟩ := run_bind_eq_ok_iff.mp isRead
      have notKept : final.flags ≠ flags := by
        rintro rfl
        rw [isVerbose] at notYet
        cases notYet
      have aligned : Flags.none.verbose = true → flags.verbose = true :=
        fun isVerbose => by cases isVerbose
      have byItself := alternativesFollow_and_sequencesFollow .none bound
      obtain ⟨_, _, later, kept, _, isRelated, _, besideMiddle⟩ :=
        nextStep_follows byItself.1 byItself.2 aligned (Nat.le_of_lt_succ enough)
          (Nat.le_of_lt_succ enough) state _ (besideItself beside) step middle isStep
      obtain ⟨rfl, -, rfl⟩ | ⟨⟨mode, items⟩, rfl, -, isSame, fewer⟩ := isRelated
      · cases goesOn
        exact absurd besideMiddle.flags_eq notKept
      · cases items with
        | cons node items =>
            obtain rfl := isSame.isKept.keeps (by simp)
            refine absurd
              (flags_eq_of_readSequence besideMiddle ?_ (by simp) goesOn) notKept
            omega
        | nil =>
            have few : tokens.length ≤ second := by omega
            obtain ⟨otherMiddle, further, keptToo, isStepToo, isMode, reaches, isFewer,
                besideThen⟩ := exists_readStep_of_late isLate notYet beside few isStep
            have goesOnAlike : ∃ last end_ keptThen,
                (readSequence second true true []).run otherMiddle = .ok (found, last) ∧
                  keptThen.verbose = true ∧ Reaches further end_ ∧
                    IsBeside extra end_ keptThen final last := by
              cases mode with
              | false =>
                  exact inductionHypothesis isMode besideThen (by omega) (by omega) goesOn
              | true =>
                  have follows :=
                    (alternativesFollow_and_sequencesFollow extra bound).2 true true
                    [] (fun _ => isMode) (by omega : 2 * further.length < bound)
                    (by omega : 2 * further.length < second)
                  obtain ⟨_, last, end_, keptThen, isReadToo, ⟨rfl, -⟩, reachesEnd,
                      besideLast⟩ :=
                    follows middle otherMiddle besideThen found final goesOn
                  exact ⟨last, end_, keptThen, isReadToo, besideLast.flags_eq ▸ isVerbose,
                    reachesEnd, besideLast⟩
            obtain ⟨last, end_, keptThen, isReadToo, isVerboseThen, reachesEnd,
                besideLast⟩ :=
              goesOnAlike
            refine ⟨last, end_, keptThen, ?_, isVerboseThen,
              reaches.trans reachesEnd, besideLast⟩
            rw [readSequence]
            exact run_bind_eq_ok_iff.mpr ⟨_, otherMiddle, isStepToo, isReadToo⟩

/-! ## Whole patterns -/

/-- Whatever a reader of alternatives comes to, it has only added flags. -/
theorem exists_added_of_readAlternatives {top : Bool} {found : List (List Node)}
    (beside : IsBeside extra tokens flags state other)
    (enough : 2 * tokens.length + 1 < bound)
    (isRead : (readAlternatives bound verbose top first).run state = .ok (found, final)) :
    ∃ later added itself, IsBeside .none later (flags.union added) final itself := by
  have aligned : Flags.none.verbose = true → flags.verbose = true :=
    fun isVerbose => by cases isVerbose
  have follows := (alternativesFollow_and_sequencesFollow .none bound).1 verbose top first
    aligned enough enough
  obtain ⟨_, itself, later, kept, _, ⟨-, isKept⟩, -, besideFinal⟩ :=
    follows state _ (besideItself beside) found final isRead
  obtain ⟨added, rfl⟩ := isKept.grows
  exact ⟨later, added, itself, besideFinal⟩

/-- Further alternatives keep the flags. -/
theorem flags_eq_of_readFurther {mode top : Bool} {parts : List Node}
    {found : List (List Node)} (beside : IsBeside extra tokens flags state other)
    (enough : 2 * tokens.length < bound)
    (isFirst : (readSequence bound verbose first items).run state = .ok (parts, middle))
    (isRead : (readFurther (fun further =>
      readAlternatives bound further top false) mode top
      parts).run middle = .ok (found, final)) :
    final.flags = middle.flags := by
  have aligned : ∀ kept : Flags, Flags.none.verbose = true → kept.verbose = true :=
    fun _ isVerbose => by cases isVerbose
  have byItself := alternativesFollow_and_sequencesFollow .none bound
  obtain ⟨_, _, later, kept, _, -, reaches, besideMiddle⟩ :=
    byItself.2 verbose first items (aligned flags) enough enough state _
      (besideItself beside)
      parts middle isFirst
  have fewer := reaches.length_le
  have alike : Agrees .none later kept
      (readFurther (fun further => readAlternatives bound further top false)
        mode top parts)
      (readFurther (fun further => readAlternatives bound further top false) mode
        top parts) :=
    readFurther_agrees byItself.1 (aligned kept) (.inr rfl) (by omega) (by omega)
  obtain ⟨_, _, _, _, _, ⟨-, rfl⟩, -, besideFinal⟩ :=
    alike middle _ besideMiddle found final isRead
  rw [besideFinal.flags_eq, besideMiddle.flags_eq]

/-- A whole pattern is read alike by a reader with further flags from the start, if
verbose mode is not among them or holds in the end. -/
theorem exists_readAlternatives_of_extra {found : List (List Node)}
    (beside : IsBeside extra tokens flags state other)
    (enough : 2 * tokens.length + 1 < bound)
    (enoughToo : 2 * tokens.length + 1 < second)
    (isSet : extra.verbose = true → final.flags.verbose = true)
    (isRead : (readAlternatives bound flags.verbose true true).run state =
      .ok (found, final)) :
    ∃ last later,
      (readAlternatives second (flags.union extra).verbose true true).run other =
        .ok (found, last) ∧
      Reaches tokens later ∧ IsBeside extra later final.flags final last := by
  by_cases aligned : extra.verbose = true → flags.verbose = true
  · have sameMode := beside.verbose_eq aligned
    rw [beside.flags_eq, beside.otherFlags_eq] at sameMode
    have follows :=
      (alternativesFollow_and_sequencesFollow extra bound).1 flags.verbose true true
      aligned enough enoughToo
    obtain ⟨_, last, later, kept, isReadToo, ⟨rfl, -⟩, reaches, besideLast⟩ :=
      follows state other beside found final isRead
    rw [sameMode]
    exact ⟨last, later, isReadToo, reaches, besideLast.flags_eq ▸ besideLast⟩
  · obtain ⟨isLate, notYet⟩ : extra.verbose = true ∧ flags.verbose = false := by
      simpa using aligned
    have isVerboseToo : (flags.union extra).verbose = true := by
      rw [Flags.union, isLate, Bool.or_true]
    obtain ⟨bound, rfl⟩ : ∃ less, bound = less + 1 := ⟨bound - 1, by omega⟩
    obtain ⟨second, rfl⟩ : ∃ less, second = less + 1 := ⟨second - 1, by omega⟩
    rw [notYet, readAlternatives] at isRead
    rw [isVerboseToo, readAlternatives]
    obtain ⟨parts, middle, isFirst, goesOn⟩ := run_bind_eq_ok_iff.mp isRead
    have isVerboseThen : middle.flags.verbose = true := by
      rw [← flags_eq_of_readFurther beside (by omega) isFirst goesOn]
      exact isSet isLate
    obtain ⟨otherMiddle, rest, kept, isFirstToo, isKeptVerbose, reaches, besideMiddle⟩ :=
      exists_readSequence_of_late isLate notYet beside (by omega)
        (by omega : _ < second) isFirst
        isVerboseThen
    have fewer := reaches.length_le
    have alike : Agrees extra rest kept
        (readFurther (fun further => readAlternatives bound further true false)
          false true parts)
        (readFurther (fun further => readAlternatives second further true false) true true
          parts) :=
      readFurther_agrees (alternativesFollow_and_sequencesFollow extra bound).1
        (fun _ => isKeptVerbose) (.inl rfl) (by omega) (by omega)
    obtain ⟨_, last, later, _, goesOnToo, ⟨rfl, rfl⟩, reachesLater, besideLast⟩ :=
      alike middle otherMiddle besideMiddle found final goesOn
    exact ⟨last, later, run_bind_eq_ok_iff.mpr
      ⟨parts, otherMiddle, isFirstToo, goesOnToo⟩,
      reaches.trans reachesLater, besideLast.flags_eq ▸ besideLast⟩

end Reader
end Pattern
end KindExpr
