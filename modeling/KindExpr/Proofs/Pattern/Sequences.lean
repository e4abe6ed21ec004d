import KindExpr.Proofs.Pattern.Groups

/-!
# Sequences side by side

Two readers that are both in verbose mode, or both not, read the same parts. A
reader that is told the flags of a pattern from the start is in verbose mode before
the pattern says so itself. Up to there only comments and flags can stand, and
nothing in them depends on that mode.
-/

namespace KindExpr
namespace Pattern
namespace Reader

variable {extra : Flags} {tokens : List Token} {flags : Flags}

open Follows (bind_get bind_peek bind_take bind_advance bind_accept bind_agrees
  bind_lift bind_goTo bind_modify bind_position bind_choice)

/-! ## Parts of a step -/

/-- The end of a group is read alike. -/
theorem close_agrees {start otherStart : Nat} :
    Agrees extra tokens flags (close start) (close otherStart) := by
  rw [close, close]
  refine bind_agrees (accept_agrees (by decide)) fun isThere _ _ => ?_
  exact .ite (fun _ => (Fails.failAt _ _).follows _ _) fun _ => Agrees.pure ()

/-- A look-behind is entered alike. -/
theorem enterLook_agrees (behind : Bool) :
    Agrees extra tokens flags (enterLook behind) (enterLook behind) := by
  rw [enterLook]
  refine bind_get fun state other beside => ?_
  rw [beside.lookBehind_eq]
  refine .ite (fun _ => ?_) fun _ => Agrees.pure ()
  refine bind_agrees groupCount_agrees fun count later _ => ?_
  rw [← bind_pure (modify _)]
  refine bind_modify (fun state other beside => ?_) (Agrees.pure ())
  exact { beside with lookBehind_eq := rfl }

/-- A group that may have a number is closed alike. -/
theorem closeNumbered_agrees (number : Option Nat) (width : Width) :
    Agrees extra tokens flags (closeNumbered number width)
      (closeNumbered number width) := by
  cases number with
  | none => exact Agrees.pure ()
  | some group => exact closeGroup_agrees group width

/-- The rest of a line is skipped alike. -/
theorem skipLine_agrees : Agrees extra tokens flags skipLine skipLine := by
  rw [skipLine]
  refine bind_get fun state other beside => bind_lift fun result collected => ?_
  obtain ⟨text, found, cursor⟩ := result
  obtain ⟨textToo, last, later, collectedToo, -, besideLater, reaches⟩ :=
    beside.cursors.upTo (by decide) collected
  refine ⟨(textToo, found, last), collectedToo, ?_⟩
  dsimp only
  rw [← bind_pure (goTo cursor), ← bind_pure (goTo last)]
  exact bind_goTo besideLater reaches (Agrees.pure ())

/-- The second branch of a condition is read alike if its items are. -/
theorem readOtherwise_agrees {branch branchToo : Reader (List Node)}
    (sameBranch : ∀ later, later.length ≤ tokens.length →
      Agrees extra later flags branch branchToo) :
    Agrees extra tokens flags (readOtherwise branch) (readOtherwise branchToo) := by
  rw [readOtherwise, readOtherwise]
  refine bind_accept (by decide) (fun rest isThere => ?_) (Agrees.pure _)
  subst isThere
  refine bind_agrees (sameBranch rest (Nat.le_succ _)) fun items later _ => bind_peek ?_
  simp only [head?_map_inBody_eq_plain_iff (show Code.char '|' ≠ '/' by decide)]
  refine .ite (fun _ => ((Fails.failBack _ _).bind_left _).follows _ _) fun _ => ?_
  exact Agrees.pure _

/-! ## Steps -/

/-- Whether two steps come to the same, where flags may be added
only before the first item. -/
structure IsSameStep (first : Bool) (items : List Node) (flags : Flags)
    (found foundToo : Step)
    (kept : Flags) : Prop where
  same : foundToo = found
  goesOn : items ≠ [] → found.2 ≠ []
  isKept : IsKept (first = true ∧ found.2 = []) flags kept

namespace IsSameStep

variable {first : Bool} {items : List Node} {found foundToo : Step} {kept : Flags}

/-- An item is added. -/
theorem cons (first verbose : Bool) (items : List Node) (flags : Flags) (node : Node) :
    IsSameStep first items flags (verbose, node :: items)
      (verbose, node :: items) flags :=
  ⟨rfl, fun _ => List.cons_ne_nil _ _, .refl _ _⟩

/-- Nothing is added. -/
theorem skip (first verbose : Bool) (items : List Node) (flags : Flags) :
    IsSameStep first items flags (verbose, items) (verbose, items) flags :=
  ⟨rfl, id, .refl _ _⟩

end IsSameStep

section Steps

variable {alternatives alternativesToo : Bool → Reader (List (List Node))}
  {sequence sequenceToo : Bool → Reader (List Node)} {bound second start otherStart : Nat}
  {verbose first : Bool} {items : List Node}

/-- A parenthesis is read alike if what is inside of it is. -/
theorem readOpened_follows (aligned : extra.verbose = true → flags.verbose = true)
    (few : tokens.length < second)
    (sameAlternatives : ∀ later inner, later.length ≤ tokens.length →
      Agrees extra later flags (alternatives inner) (alternativesToo inner))
    (sameSequence : ∀ later inner, later.length ≤ tokens.length →
      Agrees extra later flags (sequence inner) (sequenceToo inner)) :
    Follows extra tokens flags
      (readOpened alternatives sequence bound verbose first items start)
      (readOpened alternativesToo sequenceToo second verbose first items otherStart)
      fun found foundToo _ kept => IsSameStep first items flags found foundToo kept := by
  rw [readOpened, readOpened]
  refine Follows.bind (readHead_follows few) ?_
  rintro _ head later kept ⟨rfl, isKept⟩ reaches
  have fewer := reaches.length_le
  cases head with
  | comment => exact Follows.pure ⟨rfl, id, isKept.mono fun isFlags => by cases isFlags⟩
  | globalFlags =>
      refine .ite (fun _ => ((Fails.failAt _ _).bind_left _).follows _ _) fun isEarly =>
        ?_
      obtain ⟨rfl, rfl⟩ : first = true ∧ items = [] := by simpa using isEarly
      refine bind_get fun state other beside =>
        Follows.pure ⟨?_, id, isKept.mono fun _ => ⟨rfl, rfl⟩⟩
      rw [beside.verbose_eq fun isVerbose => isKept.staysVerbose (aligned isVerbose)]
  | whole node =>
      obtain rfl := isKept.keeps (by simp)
      exact Follows.pure (.cons ..)
  | look behind negated =>
      obtain rfl := isKept.keeps (by simp)
      refine bind_get fun state other beside => ?_
      refine bind_agrees (enterLook_agrees behind) fun _ entered reachesEntered => ?_
      refine bind_agrees (sameAlternatives entered verbose ?_) fun parts afterBody _ => ?_
      · exact Nat.le_trans reachesEntered.length_le fewer
      · refine bind_modify (fun left right besideBody => ?_) ?_
        · exact { besideBody with lookBehind_eq := beside.lookBehind_eq }
        · exact bind_agrees close_agrees fun _ _ _ => Follows.pure (.cons ..)
  | conditional group =>
      obtain rfl := isKept.keeps (by simp)
      refine bind_agrees (sameSequence later verbose fewer)
        fun yes afterYes reachesYes => ?_
      refine bind_agrees (readOtherwise_agrees fun further isFewer => ?_) fun no _ _ => ?_
      · exact sameSequence further verbose
          (Nat.le_trans isFewer (Nat.le_trans reachesYes.length_le fewer))
      · exact bind_agrees close_agrees fun _ _ _ => Follows.pure (.cons ..)
  | atomic =>
      obtain rfl := isKept.keeps (by simp)
      refine bind_agrees (sameAlternatives later verbose fewer) fun parts _ _ => ?_
      exact bind_agrees close_agrees fun _ _ _ => Follows.pure (.cons ..)
  | group number added removed =>
      obtain rfl := isKept.keeps (by simp)
      refine bind_agrees (sameAlternatives later _ fewer) fun parts _ _ => ?_
      refine bind_agrees close_agrees fun _ _ _ => ?_
      exact bind_agrees (closeNumbered_agrees number _) fun _ _ _ =>
        Follows.pure (.cons ..)

/-- A mark of repetition is read alike. -/
theorem readMark_follows {mark : Code} (few : tokens.length < bound)
    (fewToo : tokens.length < second) :
    Follows extra tokens flags (readMark bound verbose items start mark)
      (readMark second verbose items otherStart mark)
      fun found foundToo _ kept => IsSameStep first items flags found foundToo kept := by
  rw [readMark, readMark]
  refine bind_agrees (readBounds_agrees few fewToo) fun bounds later _ => ?_
  cases bounds with
  | none => exact Follows.pure (.cons ..)
  | some bounds =>
      refine Follows.bind (readRepetition_follows bounds items) ?_
      rintro _ repeated _ kept ⟨rfl, notEmpty, rfl⟩ -
      exact Follows.pure ⟨rfl, fun _ => notEmpty, .refl _ _⟩

/-- A plain character other than the slash is read alike. -/
theorem readPlain_follows {c : Code}
    (aligned : extra.verbose = true → flags.verbose = true)
    (few : tokens.length < bound) (fewToo : tokens.length < second)
    (sameAlternatives : ∀ later inner, later.length ≤ tokens.length →
      Agrees extra later flags (alternatives inner) (alternativesToo inner))
    (sameSequence : ∀ later inner, later.length ≤ tokens.length →
      Agrees extra later flags (sequence inner) (sequenceToo inner)) :
    Follows extra tokens flags
      (readPlain alternatives sequence bound verbose first items start c)
      (readPlain alternativesToo sequenceToo second verbose first items otherStart c)
      fun found foundToo _ kept => IsSameStep first items flags found foundToo kept := by
  unfold readPlain
  refine .ite (fun _ => Follows.pure (.skip ..)) fun _ => .ite (fun _ => ?_) fun _ => ?_
  · exact bind_agrees skipLine_agrees fun _ _ _ => Follows.pure (.skip ..)
  · split
    · exact bind_agrees (readSet_agrees fewToo) fun node _ _ => Follows.pure (.cons ..)
    · exact Follows.pure (.cons ..)
    · exact Follows.pure (.cons ..)
    · exact Follows.pure (.cons ..)
    · exact readOpened_follows aligned fewToo sameAlternatives sameSequence
    · exact .ite (fun _ => readMark_follows few fewToo) fun _ => Follows.pure (.cons ..)

/-- A slash stands for itself. -/
theorem readPlain_delimiter :
    readPlain alternatives sequence bound verbose first items start '/' =
      pure (verbose, .code '/'.toNat :: items) := by
  cases verbose with
  | false => rfl
  | true => rfl

/-- An escaped slash stands for a slash. -/
theorem readEscape_delimiter : readEscape '/' = pure (.code '/'.toNat) := by
  funext state
  rfl

/-- A step is read alike. Only at the end of a sequence no token is passed. -/
theorem readStep_follows (aligned : extra.verbose = true → flags.verbose = true)
    (few : tokens.length ≤ bound) (fewToo : tokens.length ≤ second)
    (sameAlternatives : ∀ later inner, later.length < tokens.length →
      Agrees extra later flags (alternatives inner) (alternativesToo inner))
    (sameSequence : ∀ later inner, later.length < tokens.length →
      Agrees extra later flags (sequence inner) (sequenceToo inner)) :
    Follows extra tokens flags
      (readStep alternatives sequence bound verbose first items)
      (readStep alternativesToo sequenceToo second verbose first items)
      fun found foundToo later kept => (found = none ∧ foundToo = none ∧ kept = flags) ∨
        ∃ step, found = some step ∧ foundToo = some step ∧
          IsSameStep first items flags step step kept ∧ later.length < tokens.length := by
  unfold readStep
  refine bind_peek ?_
  cases tokens with
  | nil => exact Follows.pure (.inl ⟨rfl, rfl, rfl⟩)
  | cons token rest =>
      have sameParts : ∀ later inner, later.length ≤ rest.length →
          Agrees extra later flags (alternatives inner) (alternativesToo inner) ∧
            Agrees extra later flags (sequence inner) (sequenceToo inner) :=
        fun later inner fewer =>
          ⟨sameAlternatives later inner (Nat.lt_succ_of_le fewer),
            sameSequence later inner (Nat.lt_succ_of_le fewer)⟩
      cases token with
      | escaped c =>
          refine bind_advance
            (bind_agrees (readEscape_agrees c) fun node later reaches => ?_)
          exact Follows.pure
            (.inr ⟨_, rfl, rfl, .cons .., Nat.lt_succ_of_le reaches.length_le⟩)
      | plain c =>
          by_cases isDelimiter : c = '/'
          · subst isDelimiter
            refine Follows.position_left fun start => bind_advance ?_
            rw [readPlain_delimiter, readEscape_delimiter, pure_bind, pure_bind]
            exact Follows.pure (.inr ⟨_, rfl, rfl, .cons .., Nat.lt_succ_self _⟩)
          · simp only [List.map_cons, List.head?_cons, Token.inBody_plain isDelimiter]
            refine .ite (fun _ => Follows.pure (.inl ⟨rfl, rfl, rfl⟩)) fun _ => ?_
            refine bind_position fun start otherStart => bind_advance ?_
            refine Follows.bind (readPlain_follows aligned few fewToo
              (fun later inner fewer => (sameParts later inner fewer).1)
              (fun later inner fewer => (sameParts later inner fewer).2)) ?_
            rintro step stepToo later kept isSame reaches
            obtain rfl := isSame.same
            exact Follows.pure
              (.inr ⟨_, rfl, rfl, isSame, Nat.lt_succ_of_le reaches.length_le⟩)

end Steps

/-! ## Sequences and alternatives -/

/-- Whether sequences are read alike with a bound. -/
def SequencesFollow (extra : Flags) (bound : Nat) : Prop :=
  ∀ {tokens : List Token} {flags : Flags} {second : Nat} (verbose first : Bool)
    (items : List Node), (extra.verbose = true → flags.verbose = true) →
      2 * tokens.length < bound → 2 * tokens.length < second →
        Follows extra tokens flags (readSequence bound verbose first items)
          (readSequence second verbose first items) fun found foundToo _ kept =>
            foundToo = found ∧ IsKept (first = true ∧ items = []) flags kept

/-- Whether alternatives are read alike with a bound. -/
def AlternativesFollow (extra : Flags) (bound : Nat) : Prop :=
  ∀ {tokens : List Token} {flags : Flags} {second : Nat} (verbose top first : Bool),
    (extra.verbose = true → flags.verbose = true) →
      2 * tokens.length + 1 < bound → 2 * tokens.length + 1 < second →
        Follows extra tokens flags (readAlternatives bound verbose top first)
          (readAlternatives second verbose top first) fun found foundToo _ kept =>
            foundToo = found ∧ IsKept (first = true) flags kept

/-- Inside of a group flags are kept. -/
theorem agrees_of_isKept {α : Type} {mayAdd : Prop} {reader second : Reader α}
    (mayNot : ¬ mayAdd)
    (follows : Follows extra tokens flags reader second fun found foundToo _ kept =>
      foundToo = found ∧ IsKept mayAdd flags kept) :
    Agrees extra tokens flags reader second :=
  follows.imp fun _ _ _ _ isRelated _ => ⟨isRelated.1, isRelated.2.keeps mayNot⟩

/-- The next step of a sequence is read alike if all that can be inside of it is. -/
theorem nextStep_follows {bound second : Nat} {verbose first : Bool} {items : List Node}
    (alternatives : AlternativesFollow extra bound)
    (sequences : SequencesFollow extra bound)
    (aligned : extra.verbose = true → flags.verbose = true)
    (enough : 2 * tokens.length ≤ bound)
    (enoughToo : 2 * tokens.length ≤ second) :
    Follows extra tokens flags
      (readStep (fun inner => readAlternatives bound inner false false)
        (fun inner => readSequence bound inner false []) bound verbose first items)
      (readStep (fun inner => readAlternatives second inner false false)
        (fun inner => readSequence second inner false []) second verbose first items)
      fun found foundToo later kept => (found = none ∧ foundToo = none ∧ kept = flags) ∨
        ∃ step, found = some step ∧ foundToo = some step ∧
          IsSameStep first items flags step step kept ∧ later.length < tokens.length := by
  refine readStep_follows aligned (by omega) (by omega) (fun later inner fewer => ?_)
    fun later inner fewer => ?_
  · exact agrees_of_isKept (by simp)
      (alternatives inner false false aligned (by omega) (by omega))
  · exact agrees_of_isKept (by simp)
      (sequences inner false [] aligned (by omega) (by omega))

theorem sequencesFollow_succ {bound : Nat} (alternatives : AlternativesFollow extra bound)
    (sequences : SequencesFollow extra bound) : SequencesFollow extra (bound + 1) := by
  intro tokens flags second verbose first items aligned enough enoughToo
  obtain ⟨second, rfl⟩ : ∃ less, second = less + 1 := ⟨second - 1, by omega⟩
  rw [readSequence, readSequence]
  refine Follows.bind
    (nextStep_follows alternatives sequences aligned (by omega) (by omega)) ?_
  rintro _ _ later kept (⟨rfl, rfl, rfl⟩ | ⟨step, rfl, rfl, isSame, fewer⟩) -
  · exact Follows.pure ⟨rfl, .refl _ _⟩
  · have alignedThen : extra.verbose = true → kept.verbose = true :=
      fun isVerbose => isSame.isKept.staysVerbose (aligned isVerbose)
    refine (sequences step.1 first step.2 alignedThen (by omega) (by omega)).imp ?_
    rintro found _ last keptThen ⟨rfl, isKept⟩ -
    refine ⟨rfl, (isSame.isKept.trans isKept).mono ?_⟩
    rintro ⟨isFirst, isEmpty⟩
    exact ⟨isFirst, Classical.not_not.mp fun notEmpty => isSame.goesOn notEmpty isEmpty⟩

/-- Further alternatives are read alike, and outside of all groups in whichever
mode the first one was read. -/
theorem readFurther_agrees {bound second : Nat} {verbose verboseToo top : Bool}
    {parts : List Node} (alternatives : AlternativesFollow extra bound)
    (aligned : extra.verbose = true → flags.verbose = true)
    (sameMode : top = true ∨ verboseToo = verbose) (enough : 2 * tokens.length ≤ bound)
    (enoughToo : 2 * tokens.length ≤ second) :
    Agrees extra tokens flags
      (readFurther (fun further => readAlternatives bound further top false)
        verbose top parts)
      (readFurther (fun further => readAlternatives second further top false)
        verboseToo top
        parts) := by
  rw [readFurther, readFurther]
  refine bind_accept (by decide) (fun rest isThere => ?_) (Agrees.pure _)
  subst isThere
  rw [List.length_cons] at enough enoughToo
  refine bind_get fun state other beside => ?_
  have sameFurther : (if top then other.flags.verbose else verboseToo) =
      (if top then state.flags.verbose else verbose) := by
    rw [beside.verbose_eq aligned]
    obtain rfl | rfl := sameMode <;> rfl
  dsimp only
  rw [sameFurther]
  refine bind_agrees (agrees_of_isKept (by simp)
    (alternatives _ top false aligned (by omega) (by omega))) fun others _ _ => ?_
  exact Agrees.pure _

theorem alternativesFollow_succ {bound : Nat}
    (alternatives : AlternativesFollow extra bound)
    (sequences : SequencesFollow extra bound) : AlternativesFollow extra (bound + 1) := by
  intro tokens flags second verbose top first aligned enough enoughToo
  obtain ⟨second, rfl⟩ : ∃ less, second = less + 1 := ⟨second - 1, by omega⟩
  rw [readAlternatives, readAlternatives]
  refine Follows.bind (sequences verbose first [] aligned (by omega) (by omega)) ?_
  rintro parts _ later kept ⟨rfl, isKept⟩ reaches
  have fewer := reaches.length_le
  have alignedThen : extra.verbose = true → kept.verbose = true :=
    fun isVerbose => isKept.staysVerbose (aligned isVerbose)
  refine (readFurther_agrees alternatives alignedThen (.inr rfl) (by omega)
    (by omega)).imp ?_
  rintro found _ last _ ⟨rfl, rfl⟩ -
  exact ⟨rfl, isKept.mono And.left⟩

/-- Alternatives and sequences are read alike with every bound. -/
theorem alternativesFollow_and_sequencesFollow (extra : Flags) (bound : Nat) :
    AlternativesFollow extra bound ∧ SequencesFollow extra bound := by
  induction bound with
  | zero =>
      exact ⟨fun _ _ _ _ few => absurd few (Nat.not_lt_zero _),
        fun _ _ _ _ few => absurd few (Nat.not_lt_zero _)⟩
  | succ bound inductionHypothesis =>
      exact ⟨alternativesFollow_succ inductionHypothesis.1 inductionHypothesis.2,
        sequencesFollow_succ inductionHypothesis.1 inductionHypothesis.2⟩

end Reader
end Pattern
end KindExpr
