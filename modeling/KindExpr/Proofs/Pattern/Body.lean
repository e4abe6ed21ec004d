import KindExpr.Pattern.Basic
import KindExpr.Proofs.Pattern.Verbose
import Mathlib.Data.List.Basic

/-!
# Patterns in the bodies of literals

A pattern that was compiled with the flags that some letters set is compiled from its
literal too: the slashes are escaped there, and the flags that the pattern sets for
itself are among the letters. The outcome is the same tree with the same flags.
-/

namespace KindExpr

/-! ## Flags with a letter -/

namespace Pattern

/-- The flags in a set that can be written after a literal. -/
def Flags.written (flags : Flags) : Flags :=
  { Flags.none with
    ignoreCase := flags.ignoreCase
    multiLine := flags.multiLine
    dotAll := flags.dotAll
    verbose := flags.verbose
    ascii := flags.ascii }

theorem Flags.written_union (flags others : Flags) :
    (flags.union others).written = flags.written.union others.written := rfl

/-- The flags in a set that can be written are in it anyway. -/
theorem Flags.union_written (flags : Flags) : flags.union flags.written = flags := by
  simp [union, written, none]

/-- Of the flags in a set, a flag that can be written meets only those that can. -/
theorem Flags.written_inter {flags other : Flags} (isWritten : other.written = other) :
    flags.written.inter other = flags.inter other := by
  rw [← isWritten]
  simp [inter, written, none]

end Pattern

namespace Literal

open Pattern (Flags)

theorem written_of_mem_flagLetters :
    ∀ entry ∈ flagLetters, entry.2.written = entry.2 := by
  decide

theorem lettersOf_written (flags : Flags) :
    lettersOf flags.written = lettersOf flags := by
  refine List.filterMap_congr fun entry isThere => ?_
  rw [Flags.written_inter (written_of_mem_flagLetters entry isThere)]

/-- The letters of the flags in a set are those that can be written. -/
theorem readFlags_lettersOf (flags : Flags) :
    readFlags (lettersOf flags) = .ok flags.written := by
  rw [← lettersOf_written]
  obtain ⟨template, ignoreCase, locale, multiLine, dotAll, unicode, verbose, ascii⟩ :=
    flags
  cases ignoreCase <;> cases multiLine <;> cases dotAll <;> cases verbose <;>
    cases ascii <;> rfl

/-- Every letter sets a flag that can be written. -/
theorem written_of_flagOfLetter {letter : Code} {flag : Flags}
    (isFlag : flagOfLetter? letter = some flag) : flag.written = flag := by
  rw [flagOfLetter?] at isFlag
  split at isFlag
  · cases isFlag
    rfl
  · obtain ⟨before, after, areLetters, -⟩ := List.lookup_eq_some_iff.mp isFlag
    exact written_of_mem_flagLetters (letter, flag) (by simp [areLetters])

/-- Letters set flags that can be written. -/
theorem written_of_readFlags {letters : List Code} {flags : Flags}
    (isRead : readFlags letters = .ok flags) : flags.written = flags := by
  induction letters generalizing flags with
  | nil =>
      cases isRead
      rfl
  | cons letter rest inductionHypothesis =>
      rw [readFlags] at isRead
      cases isFlag : flagOfLetter? letter with
      | none =>
          rw [isFlag] at isRead
          cases isRead
      | some flag =>
          rw [isFlag] at isRead
          obtain ⟨others, isOthers, rfl⟩ := Outcome.map_eq_ok_iff.mp isRead
          rw [Flags.written_union, written_of_flagOfLetter isFlag,
            inductionHypothesis isOthers]

/-- The letters of flags are letters. -/
theorem isAsciiLetter_of_mem_lettersOf {flags : Flags} {c : Code}
    (isThere : c ∈ lettersOf flags) :
    Text.isAsciiLetter c = true := by
  have areLetters : ∀ entry ∈ flagLetters, Text.isAsciiLetter entry.1 = true := by decide
  obtain ⟨entry, isEntry, isLetter⟩ := List.mem_filterMap.mp isThere
  split at isLetter
  · cases isLetter
  · cases isLetter
    exact areLetters entry isEntry

end Literal

namespace Pattern

/-! ## Reading a whole pattern -/

/-- A plain backslash ends its text. -/
theorem getLast?_of_mem_tokensOf {text : List Code}
    (isThere : .plain '\\' ∈ tokensOf text) :
    (tokensOf text).getLast? = some (.plain '\\') := by
  have afterwards : ∀ {token : Token} {tokens : List Token},
      tokens.getLast? = some (.plain '\\') →
        (token :: tokens).getLast? = some (.plain '\\') := by
    intro token tokens isLast
    rw [List.getLast?_cons, isLast, Option.getD_some]
  induction text using tokensOf.induct with
  | case1 c rest inductionHypothesis =>
      rw [tokensOf_pair, List.mem_cons] at isThere
      obtain isFirst | isLater := isThere
      · cases isFirst
      · exact afterwards (inductionHypothesis isLater)
  | case2 c rest notPair inductionHypothesis =>
      rw [tokensOf_plain notPair] at isThere ⊢
      obtain isFirst | isLater := List.mem_cons.mp isThere
      · cases rest with
        | nil => rw [← isFirst, tokensOf_nil, List.getLast?_singleton]
        | cons d rest =>
            exact (notPair d rest (Token.plain.inj isFirst).symm rfl).elim
      · exact afterwards (inductionHypothesis isLater)
  | case3 => cases isThere

/-- Whether conditions ask for groups that are there depends on the numbers only. -/
theorem checkConditions_eq_ok_iff {conditions : List (Nat × Nat)} {count : Nat} :
    checkConditions count conditions = .ok () ↔
      ∀ number ∈ conditions.map Prod.fst, number ≤ count := by
  induction conditions with
  | nil => simp [checkConditions]
  | cons entry rest inductionHypothesis =>
      rw [checkConditions, List.map_cons, List.forall_mem_cons, ← inductionHypothesis]
      split
      · rename_i isMore
        simp [Nat.not_le_of_gt isMore]
      · rename_i notMore
        simp [Nat.le_of_not_gt notMore]

/-- Completing flags changes none that can be written. -/
theorem written_of_completeFlags {flags complete : Flags}
    (isComplete : completeFlags true flags = .ok complete) :
    complete.written = flags.written := by
  simp only [completeFlags, if_true] at isComplete
  split at isComplete
  · cases isComplete
    rfl
  · split at isComplete
    · cases isComplete
    · cases isComplete
      rfl

/-- When a pattern whose alternatives are read comes to something, and to what. -/
theorem ReaderState.finish_eq_ok_iff {state : ReaderState}
    {alternatives : List (List Node)}
    {reading : Reading} :
    state.finish alternatives = .ok reading ↔
      completeFlags state.forText state.flags = .ok reading.flags ∧
        state.cursor.peek.isSome = false ∧
        checkConditions state.groups.length state.conditions = .ok () ∧
        reading.tree = Reader.joinAlternatives alternatives ∧
        reading.groups = state.groups.length ∧
        reading.tree.checkShape reading.flags.template = .ok () ∧
        reading.tree.isWithinReach = true := by
  unfold finish
  constructor
  · intro finished
    obtain ⟨complete, isComplete, finished⟩ := Outcome.bind_eq_ok_iff.mp finished
    cases atEnd : state.cursor.peek.isSome with
    | true =>
        simp only [atEnd, if_true] at finished
        cases finished
    | false =>
        simp only [atEnd, Bool.false_eq_true, if_false] at finished
        obtain ⟨_, isChecked, finished⟩ := Outcome.bind_eq_ok_iff.mp finished
        split at finished
        · cases finished
        · rename_i isShape
          split at finished
          · rename_i isWithin
            cases finished
            exact ⟨isComplete, rfl, isChecked, rfl, rfl, isShape, isWithin⟩
          · cases finished
  · obtain ⟨tree, complete, groups⟩ := reading
    rintro ⟨isComplete, atEnd, isChecked, rfl, rfl, isShape, isWithin⟩
    refine Outcome.bind_eq_ok_iff.mpr ⟨complete, isComplete, ?_⟩
    simp only [atEnd, Bool.false_eq_true, if_false]
    refine Outcome.bind_eq_ok_iff.mpr ⟨(), isChecked, ?_⟩
    simp only at isShape isWithin
    simp only [isShape, isWithin, if_true]
    rfl

/-- Two readers that have read a whole pattern come to the same, if the further flags of
the second one are those of the pattern that can be written. -/
theorem ReaderState.finish_of_beside {tokens : List Token} {flags : Flags}
    {state other : ReaderState} {alternatives : List (List Node)} {reading : Reading}
    (beside : IsBeside reading.flags.written tokens flags state other)
    (finished : state.finish alternatives = .ok reading) :
    tokens = [] ∧ other.finish alternatives = .ok reading := by
  obtain ⟨isComplete, atEnd, isChecked, isTree, isCount, isShape, isWithin⟩ :=
    finish_eq_ok_iff.mp finished
  rw [beside.forText] at isComplete
  have sameFlags : other.flags = state.flags := by
    rw [beside.otherFlags_eq, beside.flags_eq, written_of_completeFlags isComplete,
      beside.flags_eq, Flags.union_written]
  have isEmpty : tokens = [] := by
    rw [beside.cursors.peek.1] at atEnd
    cases tokens with
    | nil => rfl
    | cons token rest => cases atEnd
  refine ⟨isEmpty, finish_eq_ok_iff.mpr ⟨?_, ?_, ?_, isTree, ?_, isShape, isWithin⟩⟩
  · rw [beside.otherForText, sameFlags, isComplete]
  · rw [beside.cursors.peek.2, isEmpty]
    rfl
  · rw [checkConditions_eq_ok_iff, beside.groups_eq, beside.conditions_eq,
      ← checkConditions_eq_ok_iff]
    exact isChecked
  · rw [isCount, beside.groups_eq]

/-- The body of a pattern's literal is read like the pattern, if it was given
flags that can be written and its literal has those that it came to. The pattern
does not end with a lone backslash. -/
theorem read_escapeDelimiters {source : List Code} {given : Flags} {reading : Reading}
    (isGiven : given.written = given) (isRead : read true source given = .ok reading) :
    .plain '\\' ∉ tokensOf source ∧
      read true (Literal.escapeDelimiters source) reading.flags.written =
        .ok reading := by
  unfold read at isRead
  obtain ⟨start, isStart, isRead⟩ := Outcome.bind_eq_ok_iff.mp isRead
  obtain ⟨⟨alternatives, final⟩, isRun, finished⟩ := Outcome.bind_eq_ok_iff.mp isRead
  obtain ⟨notLone, rfl⟩ := Cursor.at?_eq_ok_iff.mp isStart
  have besideStart : IsBeside reading.flags.written (tokensOf source) given
      (.initial true given ⟨source, 0⟩)
      (.initial true (given.union reading.flags.written)
        ⟨Literal.escapeDelimiters source, 0⟩) :=
    { cursors := ⟨rfl, tokensOf_escapeDelimiters source, notLone⟩
      forText := rfl
      otherForText := rfl
      flags_eq := rfl
      otherFlags_eq := rfl
      names_eq := rfl
      groups_eq := rfl
      lookBehind_eq := rfl
      conditions_eq := rfl }
  have few := Cursor.IsBeside.length_le source
  have fewToo : (tokensOf source).length ≤ (Literal.escapeDelimiters source).length := by
    have fewInBody := Cursor.IsBeside.length_le (Literal.escapeDelimiters source)
    rwa [tokensOf_escapeDelimiters, List.length_map] at fewInBody
  obtain ⟨_, added, _, besideItself⟩ :=
    Reader.exists_added_of_readAlternatives besideStart (by omega) isRun
  have isComplete := (ReaderState.finish_eq_ok_iff.mp finished).1
  rw [besideItself.forText] at isComplete
  have isWritten := written_of_completeFlags isComplete
  have isAmong : given.union reading.flags.written = reading.flags.written := by
    rw [isWritten, besideItself.flags_eq, Flags.written_union, isGiven,
      ← Flags.union_assoc, Flags.union_self]
  have isSet : reading.flags.written.verbose = true → final.flags.verbose = true := by
    rw [isWritten]
    exact id
  obtain ⟨last, later, isRunToo, reaches, besideLast⟩ :=
    Reader.exists_readAlternatives_of_extra besideStart (by omega)
      (by omega : _ < 2 * (Literal.escapeDelimiters source).length + 4) isSet isRun
  obtain ⟨rfl, finishedToo⟩ := ReaderState.finish_of_beside besideLast finished
  refine ⟨fun isThere => reaches.notPassed (getLast?_of_mem_tokensOf isThere) rfl, ?_⟩
  unfold read
  refine Outcome.bind_eq_ok_iff.mpr ⟨⟨Literal.escapeDelimiters source, 0⟩, ?_, ?_⟩
  · refine Cursor.at?_eq_ok_iff.mpr ⟨?_, rfl⟩
    rw [tokensOf_escapeDelimiters, ne_eq, Cursor.IsBeside.map_inBody_eq_lone_iff]
    exact notLone
  · rw [isAmong] at isRunToo
    exact Outcome.bind_eq_ok_iff.mpr ⟨(alternatives, last), isRunToo, finishedToo⟩

end Pattern
end KindExpr
