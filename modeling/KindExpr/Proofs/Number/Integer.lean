import Mathlib.Data.Nat.Digits.Defs
import Mathlib.Tactic.Ring
import KindExpr.Number.Numeral
import KindExpr.Proofs.Expr.Reading

/-!
# Integer numerals

An integer numeral is an optional sign with decimal digits of any script behind it, and
a single underscore may stand between two of them. Leading zeros count as digits, and
there may not be more digits than a limit.

`integer?` reads exactly these numerals, with padding around them. No letter
stands in a numeral, so a text is one if and only if the text in small letters
is. The limit is also that of the numbers that can be written, so that every
number that is read can be written.
-/

namespace KindExpr

/-! ## Characters -/

namespace Text

/-- A digit stands behind the zero of its script, at the distance of its value. -/
theorem exists_zero_of_digitValue? {c : Code} {digit : Nat}
    (isDigit : digitValue? c = some digit) :
    ∃ first ∈ zeroDigits, c.toNat = first + digit ∧ digit < 10 := by
  unfold digitValue? at isDigit
  obtain ⟨first, found, rfl⟩ := Option.map_eq_some_iff.mp isDigit
  have isInRun := List.find?_some found
  rw [Bool.and_eq_true, decide_eq_true_eq, decide_eq_true_eq] at isInRun
  refine ⟨first, List.mem_of_find?_eq_some found, ?_, ?_⟩ <;> omega

/-- The value of a digit is below ten. -/
theorem digitValue?_lt {c : Code} {digit : Nat} (isDigit : digitValue? c = some digit) :
    digit < 10 := by
  obtain ⟨first, -, -, isSmall⟩ := exists_zero_of_digitValue? isDigit
  exact isSmall

/-- Digits are no letters. -/
theorem isAsciiLetter_of_digitValue? {c : Code} {digit : Nat}
    (isDigit : digitValue? c = some digit) : isAsciiLetter c = false := by
  obtain ⟨first, isFirst, place, isSmall⟩ := exists_zero_of_digitValue? isDigit
  have isFarOff : ∀ first ∈ zeroDigits, first = 48 ∨ 1632 ≤ first := by decide
  have := isFarOff first isFirst
  rw [Bool.eq_false_iff, ne_eq, isAsciiLetter_iff]
  omega

/-- Only letters have a small form that is different from them, and it is a letter. -/
theorem lowerAscii_cases (c : Code) :
    c.lowerAscii = c ∨ isAsciiLetter c = true ∧ isAsciiLetter c.lowerAscii = true := by
  cases c with
  | surrogate index => exact .inl rfl
  | char c =>
      rw [isAsciiLetter_iff, isAsciiLetter_iff, Code.lowerAscii, Code.toNat_char,
        Code.toNat_char]
      unfold Char.toLower
      split
      · rename_i isCapital
        right
        simp only [ge_iff_le, UInt32.le_iff_toNat_le] at isCapital
        have first : ('A' : Char).val.toNat = 65 := rfl
        have last : ('Z' : Char).val.toNat = 90 := rfl
        have small : (c.val + ('a'.val - 'A'.val)).toNat = c.val.toNat + 32 := by
          rw [UInt32.toNat_add]
          have distance : ('a'.val - 'A'.val).toNat = 32 := rfl
          omega
        simp only [Char.toNat, small]
        omega
      · exact .inl rfl

/-- A text without letters is the same in small letters. -/
theorem lowerAscii_of_noLetters {text : List Code}
    (noLetters : ∀ c ∈ text, isAsciiLetter c = false) : lowerAscii text = text := by
  refine (List.map_congr_left fun c isChar => ?_).trans (List.map_id text)
  obtain unchanged | ⟨isLetter, -⟩ := lowerAscii_cases c
  · exact unchanged
  · rw [noLetters c isChar] at isLetter
    cases isLetter

/-- A text that has no letters in small letters has none. -/
theorem lowerAscii_of_noSmallLetters {text : List Code}
    (noLetters : ∀ c ∈ lowerAscii text, isAsciiLetter c = false) :
    lowerAscii text = text := by
  apply lowerAscii_of_noLetters
  intro c isChar
  have notSmall := noLetters c.lowerAscii (List.mem_map_of_mem isChar)
  obtain unchanged | ⟨-, isLetter⟩ := lowerAscii_cases c
  · rwa [unchanged] at notSmall
  · rw [notSmall] at isLetter
    cases isLetter

end Text

namespace Numeral

/-! ## Digits -/

/-- Characters that write some digits. -/
inductive WritesDigits : List Code → List Nat → Prop
  | last {c : Code} {digit : Nat} (isDigit : Text.digitValue? c = some digit) :
      WritesDigits [c] [digit]
  | next {c : Code} {digit : Nat} {text : List Code} {digits : List Nat}
      (isDigit : Text.digitValue? c = some digit) (others : WritesDigits text digits) :
      WritesDigits (c :: text) (digit :: digits)
  | separated {c : Code} {digit : Nat} {text : List Code} {digits : List Nat}
      (isDigit : Text.digitValue? c = some digit) (others : WritesDigits text digits) :
      WritesDigits (c :: .char '_' :: text) (digit :: digits)

/-- The first character is a digit. -/
theorem WritesDigits.exists_cons {text : List Code} {digits : List Nat}
    (writes : WritesDigits text digits) :
    ∃ c rest digit, text = c :: rest ∧ Text.digitValue? c = some digit := by
  cases writes with
  | last isDigit => exact ⟨_, _, _, rfl, isDigit⟩
  | next isDigit others => exact ⟨_, _, _, rfl, isDigit⟩
  | separated isDigit others => exact ⟨_, _, _, rfl, isDigit⟩

theorem WritesDigits.lt_ten {text : List Code} {digits : List Nat}
    (writes : WritesDigits text digits) : ∀ digit ∈ digits, digit < 10 := by
  induction writes with
  | last isDigit => exact List.forall_mem_singleton.mpr (Text.digitValue?_lt isDigit)
  | next isDigit others inductionHypothesis =>
      exact List.forall_mem_cons.mpr ⟨Text.digitValue?_lt isDigit, inductionHypothesis⟩
  | separated isDigit others inductionHypothesis =>
      exact List.forall_mem_cons.mpr ⟨Text.digitValue?_lt isDigit, inductionHypothesis⟩

theorem WritesDigits.noLetters {text : List Code} {digits : List Nat}
    (writes : WritesDigits text digits) : ∀ c ∈ text, Text.isAsciiLetter c = false := by
  induction writes with
  | last isDigit =>
      exact List.forall_mem_singleton.mpr (Text.isAsciiLetter_of_digitValue? isDigit)
  | next isDigit others inductionHypothesis =>
      exact List.forall_mem_cons.mpr
        ⟨Text.isAsciiLetter_of_digitValue? isDigit, inductionHypothesis⟩
  | separated isDigit others inductionHypothesis =>
      refine List.forall_mem_cons.mpr ⟨Text.isAsciiLetter_of_digitValue? isDigit, ?_⟩
      exact List.forall_mem_cons.mpr ⟨by decide, inductionHypothesis⟩

/-- A character that is a digit is none that is not. -/
theorem ne_of_digitValue? {c other : Code} {digit : Nat}
    (isDigit : Text.digitValue? c = some digit)
    (noDigit : Text.digitValue? other = none) :
    c ≠ other := by
  rintro rfl
  rw [noDigit] at isDigit
  cases isDigit

theorem readSeparatedDigits_cons {c : Code} {digit : Nat}
    (isDigit : Text.digitValue? c = some digit) (rest : List Code) :
    readSeparatedDigits (c :: rest) =
      (digit :: (readSeparatedDigits rest).1, (readSeparatedDigits rest).2) := by
  have notSeparator : c ≠ '_' := ne_of_digitValue? isDigit (by decide)
  rw [readSeparatedDigits]
  · rw [isDigit]
  · intro other others isSeparator
    exact absurd isSeparator notSeparator

/-- An underscore in front of a digit is passed over. -/
theorem readSeparatedDigits_separator {c : Code} {digit : Nat}
    (isDigit : Text.digitValue? c = some digit) (rest : List Code) :
    readSeparatedDigits (.char '_' :: c :: rest) = readSeparatedDigits (c :: rest) := by
  rw [readSeparatedDigits_cons isDigit, readSeparatedDigits, isDigit]

/-- Digits that are written are read to the end. -/
theorem WritesDigits.readSeparatedDigits_eq {text : List Code} {digits : List Nat}
    (writes : WritesDigits text digits) : readSeparatedDigits text = (digits, []) := by
  induction writes with
  | last isDigit =>
      rw [readSeparatedDigits_cons isDigit]
      rfl
  | next isDigit others inductionHypothesis =>
      rw [readSeparatedDigits_cons isDigit, inductionHypothesis]
  | separated isDigit others inductionHypothesis =>
      obtain ⟨next, rest, _, rfl, isNext⟩ := others.exists_cons
      rw [readSeparatedDigits_cons isDigit, readSeparatedDigits_separator isNext,
        inductionHypothesis]

/-- What is read to the end is nothing, or digits, or an underscore and digits. -/
theorem writesDigits_of_readSeparatedDigits {text : List Code} {digits : List Nat}
    (areRead : readSeparatedDigits text = (digits, [])) :
    text = [] ∧ digits = [] ∨ WritesDigits text digits ∨
      ∃ rest, text = .char '_' :: rest ∧ WritesDigits rest digits := by
  -- A digit may stand in front of each of the three.
  have cons {c : Code} {digit : Nat} {text : List Code} {digits : List Nat}
      (isDigit : Text.digitValue? c = some digit)
      (others : text = [] ∧ digits = [] ∨ WritesDigits text digits ∨
        ∃ rest, text = .char '_' :: rest ∧ WritesDigits rest digits) :
      WritesDigits (c :: text) (digit :: digits) := by
    obtain ⟨rfl, rfl⟩ | others | ⟨rest, rfl, others⟩ := others
    · exact .last isDigit
    · exact .next isDigit others
    · exact .separated isDigit others
  fun_induction readSeparatedDigits text generalizing digits with
  | case1 =>
      cases areRead
      exact .inl ⟨rfl, rfl⟩
  | case2 c rest digit isDigit others remaining read inductionHypothesis =>
      cases areRead
      exact .inr (.inr ⟨c :: rest, rfl, cons isDigit (inductionHypothesis read)⟩)
  | case3 => cases areRead
  | case4 c rest _ digit isDigit others remaining read inductionHypothesis =>
      cases areRead
      exact .inr (.inl (cons isDigit (inductionHypothesis read)))
  | case5 => cases areRead

theorem readDigits_eq_iff {text : List Code} {digits : List Nat} :
    readDigits text = (digits, []) ∧ digits ≠ [] ↔ WritesDigits text digits := by
  constructor
  · rintro ⟨areRead, someDigits⟩
    unfold readDigits at areRead
    split at areRead
    · cases areRead
    · rename_i notSeparator
      obtain ⟨-, noDigits⟩ | writes | ⟨rest, rfl, -⟩ :=
        writesDigits_of_readSeparatedDigits areRead
      · exact absurd noDigits someDigits
      · exact writes
      · exact absurd rfl (notSeparator rest)
  · intro writes
    constructor
    · rw [← writes.readSeparatedDigits_eq]
      obtain ⟨c, rest, digit, rfl, isDigit⟩ := writes.exists_cons
      have notSeparator : c ≠ '_' := ne_of_digitValue? isDigit (by decide)
      unfold readDigits
      split
      · rename_i isSeparator
        exact absurd (List.cons.inj isSeparator).1 notSeparator
      · rfl
    · cases writes <;> simp

/-- The value of digits is the sum of their values by place. -/
theorem ofDigits_eq (digits : List Nat) :
    ofDigits digits = Nat.ofDigits 10 digits.reverse := by
  unfold ofDigits
  rw [Nat.ofDigits_eq_foldr, List.foldr_reverse]
  congr 1
  funext total digit
  push_cast
  ring

/-! ## Integers -/

/-- Characters that write an integer. -/
inductive WritesInteger : List Code → Int → Prop
  | unsigned {text : List Code} {digits : List Nat}
      (writes : WritesDigits text digits) (isShort : digits.length ≤ maxDigits) :
      WritesInteger text (Nat.ofDigits 10 digits.reverse : Nat)
  | positive {text : List Code} {digits : List Nat}
      (writes : WritesDigits text digits) (isShort : digits.length ≤ maxDigits) :
      WritesInteger (.char '+' :: text) (Nat.ofDigits 10 digits.reverse : Nat)
  | negative {text : List Code} {digits : List Nat}
      (writes : WritesDigits text digits) (isShort : digits.length ≤ maxDigits) :
      WritesInteger (.char '-' :: text) (-(Nat.ofDigits 10 digits.reverse : Nat))

theorem WritesInteger.noLetters {text : List Code} {number : Int}
    (writes : WritesInteger text number) : ∀ c ∈ text, Text.isAsciiLetter c = false := by
  cases writes with
  | unsigned writes _ => exact writes.noLetters
  | positive writes _ => exact List.forall_mem_cons.mpr ⟨by decide, writes.noLetters⟩
  | negative writes _ => exact List.forall_mem_cons.mpr ⟨by decide, writes.noLetters⟩

/-- A text writes an integer if and only if it does so in small letters. -/
theorem writesInteger_lowerAscii_iff {text : List Code} {number : Int} :
    WritesInteger (Text.lowerAscii text) number ↔ WritesInteger text number := by
  constructor
  · intro writes
    rwa [Text.lowerAscii_of_noSmallLetters writes.noLetters] at writes
  · intro writes
    rwa [Text.lowerAscii_of_noLetters writes.noLetters]

/-- What a sign leaves behind it. -/
theorem readSign_cases (text : List Code) :
    (∃ body, text = .char '-' :: body ∧ readSign text = (true, body)) ∨
    (∃ body, text = .char '+' :: body ∧ readSign text = (false, body)) ∨
      readSign text = (false, text) := by
  unfold readSign
  split
  · exact .inl ⟨_, rfl, rfl⟩
  · exact .inr (.inl ⟨_, rfl, rfl⟩)
  · exact .inr (.inr rfl)

/-- Digits have no sign. -/
theorem WritesDigits.readSign_eq {text : List Code} {digits : List Nat}
    (writes : WritesDigits text digits) : readSign text = (false, text) := by
  obtain ⟨c, rest, digit, rfl, isDigit⟩ := writes.exists_cons
  obtain ⟨body, isMinus, -⟩ | ⟨body, isPlus, -⟩ | isUnsigned := readSign_cases (c :: rest)
  · exact absurd (List.cons.inj isMinus).1 (ne_of_digitValue? isDigit (by decide))
  · exact absurd (List.cons.inj isPlus).1 (ne_of_digitValue? isDigit (by decide))
  · exact isUnsigned

/-- The integers that are read are those that are written inside the padding. -/
theorem integer?_eq_some_iff {text : List Code} {number : Int} :
    integer? text = some number ↔ WritesInteger (trimmed text) number := by
  unfold integer?
  generalize trimmed text = text
  constructor
  · intro isRead
    dsimp only at isRead
    split at isRead
    · cases isRead
    rename_i isSound
    simp only [not_or, not_not, Nat.not_lt] at isSound
    obtain ⟨someDigits, noRest, isShort⟩ := isSound
    have writes := readDigits_eq_iff.mp ⟨Prod.ext rfl noRest, someDigits⟩
    rw [ofDigits_eq] at isRead
    obtain ⟨body, rfl, signed⟩ | ⟨body, rfl, signed⟩ | signed := readSign_cases text
    all_goals
      rw [signed] at isRead writes isShort
      cases isRead
    · exact .negative writes isShort
    · exact .positive writes isShort
    · exact .unsigned writes isShort
  · intro writes
    cases writes with
    | unsigned writes isShort =>
        obtain ⟨areRead, someDigits⟩ := readDigits_eq_iff.mpr writes
        simp [writes.readSign_eq, areRead, someDigits, isShort, ofDigits_eq]
    | positive writes isShort =>
        obtain ⟨areRead, someDigits⟩ := readDigits_eq_iff.mpr writes
        simp [readSign, areRead, someDigits, isShort, ofDigits_eq]
    | negative writes isShort =>
        obtain ⟨areRead, someDigits⟩ := readDigits_eq_iff.mpr writes
        simp [readSign, areRead, someDigits, isShort, ofDigits_eq]

/-! ## Writing a number that was read -/

/-- The number of some digits has no more digits. -/
theorem WritesDigits.ofDigits_lt {text : List Code} {digits : List Nat}
    (writes : WritesDigits text digits) (isShort : digits.length ≤ maxDigits) :
    Nat.ofDigits 10 digits.reverse < 10 ^ maxDigits := by
  have areDigits : ∀ digit ∈ digits.reverse, digit < 10 := by
    simpa only [List.mem_reverse] using writes.lt_ten
  calc Nat.ofDigits 10 digits.reverse
      < 10 ^ digits.reverse.length :=
        Nat.ofDigits_lt_base_pow_length (by decide) areDigits
    _ ≤ 10 ^ maxDigits := by
        rw [List.length_reverse]
        exact Nat.pow_le_pow_right (by decide) isShort

theorem WritesInteger.natAbs_lt {text : List Code} {number : Int}
    (writes : WritesInteger text number) : number.natAbs < 10 ^ maxDigits := by
  cases writes with
  | unsigned writes isShort => exact writes.ofDigits_lt isShort
  | positive writes isShort => exact writes.ofDigits_lt isShort
  | negative writes isShort =>
      rw [Int.natAbs_neg]
      exact writes.ofDigits_lt isShort

/-- An integer that is read can be written. -/
theorem isWritable_of_integer? {text : List Code} {number : Int}
    (isNumeral : integer? text = some number) : isWritable number.natAbs = true := by
  have isBelow := (integer?_eq_some_iff.mp isNumeral).natAbs_lt
  exact decide_eq_true (Nat.toDigits_length 10 _ maxDigits (by decide) isBelow)

end Numeral
end KindExpr
