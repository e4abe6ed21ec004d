import KindExpr.Proofs.Expr.Expansion

/-!
# The scan of an expression ends

Of the three kinds of rounds only one reads a character. The end of flags leaves the
text as it is, and the replacement of a placeholder puts a text in front of what is
still to be read, with dollar signs of its own perhaps. Still there are only so many
rounds. Flags can end only after they began, for which a character was read, and a
placeholder is replaced only for a dollar sign of the expression and by a value of its
own. So up to a place there are at most two rounds for each character before it and one
for each value that is spent. (A backslash in a literal and the character after it are
read in two rounds, so that nothing is read in larger steps than this.)

The main result gives a limit for the rounds of an expression that is known
before its scan begins, whatever its placeholder values are and whether or not
it is parsed. It also says what all rounds keep: the characters that were
read, and what parsing comes to.
-/

namespace KindExpr
namespace Reading

/-! ## Counted rounds -/

/-- Some number of rounds, with the values that they spend in order. -/
inductive Run : Reading → Nat → List Value → Reading → Prop
  | none (reading : Reading) : Run reading 0 [] reading
  | more {first next last : Reading} {count : Nat} {earlier later : List Value}
      (round : Round first earlier next)
      (run : Run next count later last) :
      Run first (count + 1) (earlier ++ later) last

namespace Run

variable {first middle reading last : Reading} {count total : Nat}
  {spent earlier later : List Value}

theorem rounds (run : Run first count spent last) : Rounds first spent last := by
  induction run with
  | none reading => exact .none
  | more round run inductionHypothesis => exact .cons round inductionHypothesis

/-- One round after others. -/
theorem concat (run : Run first count earlier middle) (round : Round middle later last) :
    Run first (count + 1) (earlier ++ later) last := by
  induction run with
  | none reading =>
      rw [List.nil_append, ← List.append_nil later]
      exact .more round (.none last)
  | more firstRound run inductionHypothesis =>
      rw [List.append_assoc]
      exact .more firstRound (inductionHypothesis round)

/-- A run of rounds is part of one that ends where there are no further rounds. -/
theorem exists_rest (run : Run first count spent reading)
    (whole : Run first total earlier last)
    (isLast : ∀ further next, ¬ Round last further next) :
    ∃ left further, Run reading left further last ∧ count + left = total := by
  induction run generalizing total earlier with
  | none reading => exact ⟨total, earlier, whole, Nat.zero_add total⟩
  | more round run inductionHypothesis =>
      cases whole with
      | none => exact absurd round (isLast _ _)
      | more firstRound others =>
          obtain ⟨-, rfl⟩ := round.unique firstRound
          obtain ⟨left, further, rest, isSum⟩ := inductionHypothesis others
          exact ⟨left, further, rest, by omega⟩

end Run

theorem Rounds.exists_run {first last : Reading} {spent : List Value}
    (rounds : Rounds first spent last) : ∃ count, Run first count spent last := by
  induction rounds with
  | none => exact ⟨0, .none first⟩
  | more rounds round inductionHypothesis =>
      obtain ⟨count, run⟩ := inductionHypothesis
      exact ⟨count + 1, run.concat round⟩

/-! ## What was read -/

/-- What was read before a round was read before what follows. -/
theorem Round.seen_suffix {reading next : Reading} {spent : List Value}
    (round : Round reading spent next) : reading.place.seen <:+ next.place.seen := by
  cases round with
  | @character scan next place c rest values goesOn stepped =>
      exact List.suffix_cons c place.seen
  | flagsEnd mode noLetter => exact List.suffix_refl _
  | placeholder plain unspliced replaced notEmpty => exact List.suffix_refl _

theorem Rounds.seen_suffix {first last : Reading} {spent : List Value}
    (rounds : Rounds first spent last) : first.place.seen <:+ last.place.seen := by
  induction rounds with
  | none => exact List.suffix_refl _
  | more rounds round inductionHypothesis =>
      exact inductionHypothesis.trans round.seen_suffix

/-- The text up to a place is what was read. -/
theorem text_take_position (reading : Reading) :
    reading.text.take reading.place.position = reading.place.seen.reverse := by
  rw [text, Place.position, ← List.length_reverse, List.take_left]

/-- Rounds go on from where they are, and leave the text before this place as it is. -/
theorem Rounds.keep_text {first last : Reading} {spent : List Value}
    (rounds : Rounds first spent last) :
    first.place.position ≤ last.place.position ∧
      last.text.take first.place.position = first.text.take first.place.position := by
  obtain ⟨later, seenEqual⟩ := rounds.seen_suffix
  refine ⟨rounds.seen_suffix.length_le, ?_⟩
  rw [text_take_position, text, ← seenEqual, List.reverse_append, List.append_assoc,
    Place.position, ← List.length_reverse, List.take_left]

/-! ## The number of rounds -/

/-- One if flags are being read, which take a round to end. -/
def openFlags (reading : Reading) : Nat :=
  match reading.scan.mode with
  | .flags _ _ => 1
  | _ => 0

theorem openFlags_le_one (reading : Reading) : reading.openFlags ≤ 1 := by
  unfold openFlags
  split <;> omega

/-- A round takes a character or ends flags or spends a value. -/
theorem Round.account {reading next : Reading} {spent : List Value}
    (round : Round reading spent next) :
    2 * reading.place.position + next.openFlags + 1 ≤
      2 * next.place.position + spent.length + reading.openFlags := by
  cases round with
  | @character scan next place c rest values goesOn stepped =>
      have atMostOne := openFlags_le_one ⟨next, place.advance c, rest, values⟩
      simp only [Place.position, Place.advance, List.length_cons, List.length_nil] at *
      omega
  | flagsEnd mode noLetter => simp [openFlags, mode, Scan.endFlags]
  | placeholder plain unspliced replaced notEmpty =>
      simp [openFlags, plain, Place.position]

/-- A run takes two rounds for a character and one for a value. -/
theorem Run.account {first last : Reading} {count : Nat} {spent : List Value}
    (run : Run first count spent last) :
    2 * first.place.position + last.openFlags + count ≤
      2 * last.place.position + spent.length + first.openFlags := by
  induction run with
  | none reading => simp
  | more round run inductionHypothesis =>
      have ofRound := round.account
      rw [List.length_append]
      omega

/-! ## The length of the text -/

/-- The characters of what a placeholder value stands for. -/
def replacementChars (value : Value) : List Code :=
  match value.replacement? with
  | some replacement => replacement.toList
  | none => []

/-- The length that a text has at most when all values that are left are spent. -/
def longest (reading : Reading) : Nat :=
  reading.text.length + (reading.values.flatMap replacementChars).length

theorem longest_start (expression : Text) (placeholders : List Value) :
    (start expression placeholders).longest =
      expression.length + (placeholders.flatMap replacementChars).length := by
  rw [← Text.length_toList]
  rfl

theorem position_le_longest (reading : Reading) :
    reading.place.position ≤ reading.longest := by
  rw [longest, text, List.length_append, List.length_reverse, Place.position]
  omega

theorem Round.longest_le {reading next : Reading} {spent : List Value}
    (round : Round reading spent next) : next.longest ≤ reading.longest := by
  cases round with
  | character goesOn stepped => simp [longest, text, Place.advance]
  | flagsEnd mode noLetter => simp [longest, text]
  | placeholder plain unspliced replaced notEmpty =>
      simp only [longest, text, List.flatMap_cons, replacementChars, replaced,
        List.length_append, List.length_cons]
      omega

theorem Rounds.longest_le {first last : Reading} {spent : List Value}
    (rounds : Rounds first spent last) : last.longest ≤ first.longest := by
  induction rounds with
  | none => exact Nat.le_refl _
  | more rounds round inductionHypothesis =>
      exact round.longest_le.trans inductionHypothesis

/-! ## Placeholders that are replaced -/

/-- A value that pieces take stands for a dollar sign of the expression. -/
theorem length_values_le_count (pieces : List Piece) :
    (pieces.flatMap Piece.values).length ≤
      (pieces.flatMap Piece.source).count (.char '$') := by
  induction pieces with
  | nil => simp
  | cons piece rest inductionHypothesis =>
      rw [List.flatMap_cons, List.flatMap_cons, List.length_append, List.count_append]
      cases piece with
      | kept c =>
          rw [Piece.values, List.length_nil, Nat.zero_add]
          exact Nat.le_add_left_of_le inductionHypothesis
      | replacement value text =>
          rw [Piece.values, Piece.source, List.length_singleton,
            List.count_singleton_self]
          exact Nat.add_le_add_left inductionHypothesis 1

/-- Not more values are spent than there are, or dollar signs in the expression. -/
theorem Rounds.length_spent_le {expression : Text} {placeholders spent : List Value}
    {reading : Reading} (rounds : Rounds (.start expression placeholders) spent reading) :
    spent.length ≤ min (expression.toList.count (.char '$')) placeholders.length := by
  obtain ⟨-, pieces, tail, expansion, rfl⟩ := rounds.exists_isExpansion
  refine Nat.le_min.mpr ⟨?_, ?_⟩
  · rw [expansion.source_eq, List.count_append]
    exact Nat.le_add_right_of_le (length_values_le_count pieces)
  · have valuesEqual : placeholders = _ ++ reading.values := rounds.values_eq
    rw [valuesEqual, List.length_append]
    exact Nat.le_add_right _ _

/-! ## Characters after flags -/

/-- Whether the next character is dealt with outside of literals: it is read, or
replaced by a value, or at fault. -/
def TakesPlain (reading : Reading) (c : Code) : Prop :=
  reading.scan.mode = .plain ∧
    (reading.FailsHere ∨ ∃ spent next, Round reading spent next ∧
      (next.place = reading.place.advance c ∨ c = '$' ∧ spent ≠ []))

/-- Outside of literals a character is dealt with as such. -/
theorem takesPlain_of_plain {reading : Reading} {c : Code} {rest : List Code}
    (plain : reading.scan.mode = .plain) (ahead : reading.rest = c :: rest) :
    reading.TakesPlain c := by
  refine ⟨plain, ?_⟩
  rcases reading.exists_round_or_failsHere with ⟨spent, next, round⟩ | atEnd | failsHere
  · refine .inr ⟨spent, next, round, ?_⟩
    cases round with
    | character goesOn stepped =>
        cases ahead
        exact .inl rfl
    | flagsEnd mode noLetter =>
        rw [plain] at mode
        cases mode
    | placeholder _ unspliced replaced notEmpty =>
        cases ahead
        exact .inr ⟨rfl, List.cons_ne_nil _ _⟩
  · rw [ahead] at atEnd
    cases atEnd
  · exact .inl failsHere

/-- Whether flags that end before a character end in a round that changes nothing else,
after which this character is dealt with outside of literals. -/
def EndsFlagsFirst (reading : Reading) : Prop :=
  ∀ body letters c rest, reading.scan.mode = .flags body letters →
    reading.rest = c :: rest →
    Text.isAsciiLetter c = false →
    ∃ next, Round reading [] next ∧ next.place = reading.place ∧
    next.rest = reading.rest ∧
      next.values = reading.values ∧ next.TakesPlain c

theorem endsFlagsFirst (reading : Reading) : reading.EndsFlagsFirst := by
  intro body letters c rest mode ahead noLetter
  obtain ⟨scan, place, ownRest, values⟩ := reading
  cases ahead
  have plain : scan.endFlags.mode = .plain := by
    rw [Scan.endFlags, show scan.mode = .flags body letters from mode]
  exact ⟨_, .flagsEnd mode noLetter, rfl, rfl, rfl, takesPlain_of_plain plain rfl⟩

end Reading

/-! ## Expressions -/

/-- The number of rounds that an expression takes at most: two for each character of the
longest text that it can come to, and one for each placeholder that can be replaced. -/
def roundLimit (expression : Text) (placeholders : List Value) : Nat :=
  2 * (expression.length + (placeholders.flatMap Reading.replacementChars).length) +
    min (expression.toList.count (.char '$')) placeholders.length

theorem Reading.Run.count_le_roundLimit {expression : Text}
    {placeholders spent : List Value}
    {reading : Reading} {count : Nat}
    (run : Run (.start expression placeholders) count spent reading) :
    count ≤ roundLimit expression placeholders := by
  have account := run.account
  have fromStart : (start expression placeholders).openFlags = 0 := rfl
  have notLonger := run.rounds.longest_le
  rw [longest_start] at notLonger
  have inText := reading.position_le_longest
  have spentBound := run.rounds.length_spent_le
  rw [roundLimit]
  omega

/-- The scan of an expression ends, whatever the placeholder values are. All of its
rounds lead to one last reading, at the end of the text or at a fault, and there are not
more of them than the expression and the values allow.

Wherever the rounds are, parsing comes to what it comes to from there. Not more
placeholders were replaced than the expression has dollar signs, and not more than
there are values. Rounds never go back, and the text before their place stays as
it is. Flags that end before a character are followed by a round outside of
literals at this character. -/
theorem scan_ends_within_limit (expression : Text) (placeholders : List Value) :
    (∃ total all last, Reading.Run (.start expression placeholders) total all last ∧
      (∀ further next, ¬ Reading.Round last further next) ∧
      (last.rest = [] ∨ last.FailsHere) ∧
      total ≤ roundLimit expression placeholders ∧
      ∀ count spent reading, Reading.Run
        (.start expression placeholders) count spent reading →
        ∃ left further, Reading.Run reading left further last ∧ count + left = total) ∧
    ∀ count spent reading, Reading.Run
      (.start expression placeholders) count spent reading →
      parse expression placeholders = reading.outcome ∧
      spent.length ≤ min (expression.toList.count (.char '$')) placeholders.length ∧
      (∀ left further next, Reading.Run reading left further next →
        reading.place.position ≤ next.place.position ∧
          next.text.take reading.place.position =
            reading.text.take reading.place.position) ∧
      reading.EndsFlagsFirst := by
  constructor
  · obtain ⟨all, last, rounds, isLast⟩ :=
      (Reading.start expression placeholders).exists_last
    obtain ⟨total, run⟩ := rounds.exists_run
    refine ⟨total, all, last, run, isLast, ?_, run.count_le_roundLimit,
      fun count spent reading part => part.exists_rest run isLast⟩
    rcases last.exists_round_or_failsHere with ⟨further, next, round⟩ | isOver
    · exact absurd round (isLast further next)
    · exact isOver
  · intro count spent reading run
    have rounds := run.rounds
    refine ⟨?_, rounds.length_spent_le, fun left further next later =>
      later.rounds.keep_text,
      reading.endsFlagsFirst⟩
    rw [← Reading.outcome_start, rounds.outcome_eq]

/-- The scan of an expression with one placeholder, from its first reading to its last. -/
theorem scan_ends_within_limit_array :
    ∃ (total : Nat) (all : List Value) (last : Reading),
      Reading.Run (.start "arr<$>" [.text "num", .null]) total all last ∧
        total ≤ 19 ∧ all.length ≤ 1 ∧
        parse "arr<$>" [.text "num", .null] = last.outcome := by
  have limit : roundLimit "arr<$>" [.text "num", .null] = 19 := by decide +kernel
  have ends := scan_ends_within_limit "arr<$>" [.text "num", .null]
  obtain ⟨⟨total, all, last, run, -, -, isLimited, -⟩, kept⟩ := ends
  obtain ⟨sameOutcome, spends, -⟩ := kept total all last run
  rw [limit] at isLimited
  exact ⟨total, all, last, run, isLimited, spends, sameOutcome⟩

end KindExpr
