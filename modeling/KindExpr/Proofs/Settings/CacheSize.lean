import KindExpr.Cache.Basic
import KindExpr.Proofs.Number.Integer
import KindExpr.Proofs.Session.Configuration

/-!
# Sizes of the cache from the environment

A text asks for a cache without bound by a word or by the number zero, and for a bound
by a positive integer. The integers are those of `Numeral.WritesInteger`, so that each
of them can be written in many ways.

An environment whose settings are read gives what its text asks for, and a cache of that
size can be created. There is one exception: zero that is written in another way than by
one digit is taken for a bound, and there is no cache with that bound.
-/

namespace KindExpr

/-! ## Trimmed texts -/

namespace Text

theorem isBlank_of_mem_head?_dropWhile {text : List Code} {c : Code}
    (isFirst : c ∈ (text.dropWhile isBlank).head?) : isBlank c = false := by
  have notBlank := List.head?_dropWhile_not isBlank text
  rw [Option.mem_def] at isFirst
  rw [isFirst] at notBlank
  simpa using notBlank

/-- A trimmed text is the start of what is left when the blanks before it are dropped. -/
theorem trim_prefix (text : List Code) : trim text <+: text.dropWhile isBlank := by
  rw [← List.reverse_suffix, trim, List.reverse_reverse]
  exact List.dropWhile_suffix isBlank

/-- A trimmed text does not start with a blank. -/
theorem isBlank_of_mem_head?_trim {text : List Code} {c : Code}
    (isFirst : c ∈ (trim text).head?) : isBlank c = false := by
  obtain ⟨blanks, split⟩ := trim_prefix text
  refine @isBlank_of_mem_head?_dropWhile text c ?_
  rw [← split, List.head?_append, isFirst]
  rfl

/-- A trimmed text does not end with a blank. -/
theorem isBlank_of_mem_getLast?_trim {text : List Code} {c : Code}
    (isLast : c ∈ (trim text).getLast?) : isBlank c = false := by
  unfold trim at isLast
  rw [List.getLast?_reverse] at isLast
  exact isBlank_of_mem_head?_dropWhile isLast

end Text

namespace Numeral

theorem isBlank_of_isPadding {c : Code} (isPadding : isPadding c = true) :
    Text.isBlank c = true := by
  unfold Numeral.isPadding at isPadding
  exact (Bool.and_eq_true_iff.mp isPadding).1

/-- No character is padding only as a small letter. -/
theorem isPadding_lowerAscii {c : Code} (notBlank : Text.isBlank c = false) :
    isPadding c.lowerAscii = false := by
  by_contra isPadding
  have isBlank := isBlank_of_isPadding (Bool.eq_true_of_not_eq_false isPadding)
  obtain unchanged | ⟨-, isLetter⟩ := Text.lowerAscii_cases c
  · rw [unchanged, notBlank] at isBlank
    cases isBlank
  · rw [Text.isBlank_of_isAsciiLetter isLetter] at isBlank
    cases isBlank

theorem dropWhile_isPadding {text : List Code}
    (noPadding : ∀ c ∈ text.head?, isPadding c = false) :
    text.dropWhile isPadding = text := by
  cases text with
  | nil => rfl
  | cons c rest => rw [List.dropWhile_cons_of_neg (by simp [noPadding c rfl])]

/-- There is no padding around a text if there is none at its ends. -/
theorem trimmed_of_noPadding {text : List Code}
    (noPaddingBefore : ∀ c ∈ text.head?, isPadding c = false)
    (noPaddingBehind : ∀ c ∈ text.getLast?, isPadding c = false) :
    trimmed text = text := by
  unfold trimmed
  rw [dropWhile_isPadding noPaddingBefore, dropWhile_isPadding, List.reverse_reverse]
  rwa [List.head?_reverse]

end Numeral

namespace Settings

/-! ## Normalized texts -/

theorem toList_normalized (written : Text) :
    (normalized written).toList = Text.lowerAscii (Text.trim written.toList) :=
  Text.toList_ofList _

/-- Normalized texts have no padding. -/
theorem trimmed_normalized (written : Text) :
    Numeral.trimmed (normalized written).toList = (normalized written).toList := by
  rw [toList_normalized]
  unfold Text.lowerAscii
  apply Numeral.trimmed_of_noPadding
  · rw [List.head?_map]
    intro c isSmall
    obtain ⟨first, isFirst, rfl⟩ := Option.map_eq_some_iff.mp isSmall
    exact Numeral.isPadding_lowerAscii (Text.isBlank_of_mem_head?_trim isFirst)
  · rw [List.getLast?_map]
    intro c isSmall
    obtain ⟨last, isLast, rfl⟩ := Option.map_eq_some_iff.mp isSmall
    exact Numeral.isPadding_lowerAscii (Text.isBlank_of_mem_getLast?_trim isLast)

/-- Whether a text writes an integer, with blanks around it. -/
def Denotes (written : Text) (number : Int) : Prop :=
  Numeral.WritesInteger (Text.trim written.toList) number

/-- The integer of a text is read from its normalized form. -/
theorem integer?_normalized_iff {written : Text} {number : Int} :
    Numeral.integer? (normalized written).toList = some number ↔
      Denotes written number := by
  rw [Numeral.integer?_eq_some_iff, trimmed_normalized, toList_normalized,
    Numeral.writesInteger_lowerAscii_iff, Denotes]

theorem Denotes.unique {written : Text} {number other : Int}
    (denotes : Denotes written number) (denotesOther : Denotes written other) :
    number = other := by
  rw [← integer?_normalized_iff] at denotes denotesOther
  rw [denotes] at denotesOther
  exact Option.some.inj denotesOther

/-- A text with a letter denotes no integer. -/
theorem not_denotes_of_letter {written : Text} {number : Int} {c : Code}
    (isChar : c ∈ (normalized written).toList) (isLetter : Text.isAsciiLetter c = true) :
    ¬ Denotes written number := by
  intro denotes
  rw [Denotes, ← Numeral.writesInteger_lowerAscii_iff, ← toList_normalized] at denotes
  rw [denotes.noLetters c isChar] at isLetter
  cases isLetter

theorem normalized_eq_zero_iff {written : Text} :
    normalized written = "0" ↔ Text.trim written.toList = [.char '0'] := by
  rw [← Text.toList_inj, toList_normalized]
  have noLetter : ∀ c ∈ [.char '0'], Text.isAsciiLetter c = false :=
    List.forall_mem_singleton.mpr (by decide)
  constructor
  · intro isZero
    rw [Text.lowerAscii_of_noSmallLetters] at isZero
    · exact isZero
    · rw [isZero]
      exact noLetter
  · intro isZero
    rw [isZero]
    rfl

/-! ## Requests -/

/-- The sizes that a text asks for. -/
inductive AsksFor (written : Text) : Option Int → Prop
  | word (isWord : normalized written = "none" ∨ normalized written = "unbounded") :
      AsksFor written none
  | zero (denotes : Denotes written 0) : AsksFor written none
  | bound {size : Int} (denotes : Denotes written size) (isPositive : 1 ≤ size) :
      AsksFor written (some size)

/-- Whether a text writes zero in another way than by one digit. -/
def WritesLongZero (written : Text) : Prop :=
  Denotes written 0 ∧ Text.trim written.toList ≠ [.char '0']

theorem denotes_of_singleZero {written : Text}
    (isZero : Text.trim written.toList = [.char '0']) :
    Denotes written 0 := by
  unfold Denotes
  rw [isZero]
  exact .unsigned (.last (by decide : Text.digitValue? '0' = some 0)) (by decide)

/-- The words for no bound are the word for zero and two that denote no integer. -/
theorem mem_unboundedWords_iff {written : Text} :
    unboundedWords.contains (normalized written) = true ↔
      Text.trim written.toList = [.char '0'] ∨
        (normalized written = "none" ∨ normalized written = "unbounded") := by
  rw [← normalized_eq_zero_iff]
  simp [unboundedWords]

theorem not_denotes_of_isWord {written : Text} {number : Int}
    (isWord : normalized written = "none" ∨ normalized written = "unbounded") :
    ¬ Denotes written number := by
  have hasLetter : .char 'n' ∈ (normalized written).toList := by
    obtain isNone | isUnbounded := isWord
    · rw [isNone]
      decide
    · rw [isUnbounded]
      decide
  exact not_denotes_of_letter hasLetter (by decide)

/-! ## Reading a size -/

theorem readCacheSize_of_denotes {written : Text} {number : Int}
    (isBounded : unboundedWords.contains (normalized written) = false)
    (denotes : Denotes written number) :
    readCacheSize written =
      if number < 0 then .error (.cacheSizeNegative written) else .ok (some number) := by
  rw [readCacheSize, isBounded, integer?_normalized_iff.mpr denotes]
  rfl

theorem readCacheSize_of_noInteger {written : Text}
    (isBounded : unboundedWords.contains (normalized written) = false)
    (noInteger : ∀ number, ¬ Denotes written number) :
    readCacheSize written = .error (.cacheSizeNoInteger written) := by
  have isUnreadable : Numeral.integer? (normalized written).toList = none := by
    rw [Option.eq_none_iff_forall_ne_some]
    intro number isRead
    exact noInteger number (integer?_normalized_iff.mp isRead)
  rw [readCacheSize, isBounded, isUnreadable]
  rfl

/-- Zero is taken for a bound if it is written in another way than by one digit. -/
theorem readCacheSize_of_writesLongZero {written : Text}
    (isLong : WritesLongZero written) :
    readCacheSize written = .ok (some 0) := by
  obtain ⟨denotes, notSingle⟩ := isLong
  rw [readCacheSize_of_denotes _ denotes, if_neg (by decide)]
  rw [Bool.eq_false_iff, ne_eq, mem_unboundedWords_iff]
  rintro (isSingle | isWord)
  · exact notSingle isSingle
  · exact not_denotes_of_isWord isWord denotes

/-- Otherwise a text gives the sizes it asks for. -/
theorem readCacheSize_eq_ok_iff {written : Text} (notLong : ¬ WritesLongZero written)
    {size : Option Int} : readCacheSize written = .ok size ↔ AsksFor written size := by
  constructor
  · intro isRead
    by_cases isUnbounded : unboundedWords.contains (normalized written) = true
    · rw [readCacheSize, if_pos isUnbounded] at isRead
      cases isRead
      obtain isSingle | isWord := mem_unboundedWords_iff.mp isUnbounded
      · exact .zero (denotes_of_singleZero isSingle)
      · exact .word isWord
    have isBounded := Bool.eq_false_of_not_eq_true isUnbounded
    by_cases isInteger : ∃ number, Denotes written number
    · obtain ⟨number, denotes⟩ := isInteger
      rw [readCacheSize_of_denotes isBounded denotes] at isRead
      split at isRead
      · cases isRead
      rename_i notNegative
      cases isRead
      have notZero : number ≠ 0 := by
        rintro rfl
        refine notLong ⟨denotes, fun isSingle => ?_⟩
        exact isUnbounded (mem_unboundedWords_iff.mpr (.inl isSingle))
      exact .bound denotes (by omega)
    · rw [readCacheSize_of_noInteger isBounded (not_exists.mp isInteger)] at isRead
      cases isRead
  · intro asks
    cases asks with
    | word isWord => exact if_pos (mem_unboundedWords_iff.mpr (.inr isWord))
    | zero denotes =>
        have isSingle : Text.trim written.toList = [.char '0'] := by
          by_contra notSingle
          exact notLong ⟨denotes, notSingle⟩
        exact if_pos (mem_unboundedWords_iff.mpr (.inl isSingle))
    | bound denotes isPositive =>
        rw [readCacheSize_of_denotes _ denotes, if_neg (by omega)]
        rw [Bool.eq_false_iff, ne_eq, mem_unboundedWords_iff]
        rintro (isSingle | isWord)
        · have := denotes.unique (denotes_of_singleZero isSingle)
          omega
        · exact not_denotes_of_isWord isWord denotes

/-- A text is refused if and only if it asks for no size. -/
theorem readCacheSize_eq_error_iff {written : Text} :
    (∃ fault, readCacheSize written = .error fault) ↔ ∀ size, ¬ AsksFor written size := by
  by_cases isLong : WritesLongZero written
  · rw [readCacheSize_of_writesLongZero isLong]
    constructor
    · rintro ⟨fault, refused⟩
      cases refused
    · intro noSize
      exact absurd (.zero isLong.1) (noSize none)
  · constructor
    · rintro ⟨fault, refused⟩ size asks
      rw [(readCacheSize_eq_ok_iff isLong).mpr asks] at refused
      cases refused
    · intro noSize
      cases isRead : readCacheSize written with
      | error fault => exact ⟨fault, rfl⟩
      | ok size => exact absurd ((readCacheSize_eq_ok_iff isLong).mp isRead) (noSize size)

/-! ## Reading an environment -/

/-- The text for the size of the cache decides whether
settings are read, and their size. -/
theorem ofEnvironment_of_written {environment : Environment} {written : Text}
    (isGiven : environment.cacheSize = some written) (isNonempty : written ≠ "") :
    ∃ enabled preload, ofEnvironment environment =
      (readCacheSize written).map fun size => ⟨enabled, size, preload⟩ := by
  have notEmpty : written.isEmpty = false := by
    rwa [Bool.eq_false_iff, ne_eq, Text.isEmpty_iff]
  unfold ofEnvironment
  simp only [isGiven, notEmpty, Bool.false_eq_true, if_false]
  cases readCacheSize written with
  | error fault => exact ⟨true, none, rfl⟩
  | ok size => exact ⟨_, _, rfl⟩

theorem exists_ofEnvironment_eq_ok_iff {environment : Environment} {written : Text}
    (isGiven : environment.cacheSize = some written) (isNonempty : written ≠ "")
    {size : Option Int} :
    (∃ settings, ofEnvironment environment = .ok settings ∧ settings.cacheSize = size) ↔
      readCacheSize written = .ok size := by
  obtain ⟨enabled, preload, isRead⟩ := ofEnvironment_of_written isGiven isNonempty
  rw [isRead]
  constructor
  · rintro ⟨settings, gives, rfl⟩
    obtain ⟨size, sizeIsRead, rfl⟩ := Outcome.map_eq_ok_iff.mp gives
    exact sizeIsRead
  · intro sizeIsRead
    exact ⟨_, Outcome.map_eq_ok_iff.mpr ⟨size, sizeIsRead, rfl⟩, rfl⟩

theorem exists_ofEnvironment_eq_error_iff {environment : Environment} {written : Text}
    (isGiven : environment.cacheSize = some written) (isNonempty : written ≠ "") :
    (∃ fault, ofEnvironment environment = .error fault) ↔
      ∃ fault, readCacheSize written = .error fault := by
  obtain ⟨enabled, preload, isRead⟩ := ofEnvironment_of_written isGiven isNonempty
  simp only [isRead, Outcome.map_eq_error_iff]

/-- Without such a text the size is the standard one. -/
theorem ofEnvironment_of_unwritten {environment : Environment}
    (isAbsent : ∀ written, environment.cacheSize = some written → written = "") :
    ∃ settings, ofEnvironment environment = .ok settings ∧
      settings.cacheSize = standard.cacheSize := by
  unfold ofEnvironment
  cases isGiven : environment.cacheSize with
  | none => exact ⟨_, rfl, rfl⟩
  | some written =>
      rw [isAbsent written isGiven]
      exact ⟨_, rfl, rfl⟩

/-- The size that is read for an environment has a cache, unless zero
is written too long for it. -/
theorem cacheSize_of_ofEnvironment {environment : Environment} {settings : Settings}
    (isRead : ofEnvironment environment = .ok settings) :
    (∀ bound ∈ settings.cacheSize, 1 ≤ bound) ∨
      settings.cacheSize = some 0 ∧
        ∃ written, environment.cacheSize = some written ∧ WritesLongZero written := by
  by_cases isAbsent : ∀ written, environment.cacheSize = some written → written = ""
  · obtain ⟨others, areRead, isStandard⟩ := ofEnvironment_of_unwritten isAbsent
    rw [areRead] at isRead
    cases isRead
    rw [isStandard]
    exact .inl (by decide)
  · simp only [not_forall] at isAbsent
    obtain ⟨written, isGiven, isNonempty⟩ := isAbsent
    have sizeIsRead :=
      (exists_ofEnvironment_eq_ok_iff isGiven isNonempty).mp ⟨settings, isRead, rfl⟩
    by_cases isLong : WritesLongZero written
    · rw [readCacheSize_of_writesLongZero isLong] at sizeIsRead
      exact .inr ⟨(Except.ok.inj sizeIsRead).symm, written, isGiven, isLong⟩
    · left
      have asks := (readCacheSize_eq_ok_iff isLong).mp sizeIsRead
      intro bound isBound
      rw [isBound] at asks
      cases asks with
      | bound _ isPositive => exact isPositive

/-- Every size that is read from an environment has a cache, and it is the size that the
text asks for. Zero that is written in another way than by one digit is the one
exception: it is read as a bound, and no cache has that bound. An environment is refused
if and only if its text asks for no size. -/
theorem ofEnvironment_gives_usable_size (environment : Environment) :
    (∀ settings, ofEnvironment environment = .ok settings → ∀ aliases,
      ((settings.cacheSize = none ∨ ∃ bound, 1 ≤ bound ∧
        settings.cacheSize = some bound) ∧
        ∃ cache, CheckCache.ofSize? aliases settings.cacheSize = .ok cache) ∨
      (settings.cacheSize = some 0 ∧
        CheckCache.ofSize? aliases settings.cacheSize = .error (.cacheSize 0) ∧
        ∃ written, environment.cacheSize = some written ∧ WritesLongZero written)) ∧
    ∀ written, environment.cacheSize = some written → written ≠ "" →
      (¬ WritesLongZero written → ∀ size,
        (∃ settings, ofEnvironment environment = .ok settings ∧
          settings.cacheSize = size) ↔
          AsksFor written size) ∧
      (WritesLongZero written → ∀ size,
        (∃ settings, ofEnvironment environment = .ok settings ∧
          settings.cacheSize = size) ↔
          size = some 0) ∧
      ((∃ fault, ofEnvironment environment = .error fault) ↔
        ∀ size, ¬ AsksFor written size) := by
  constructor
  · intro settings isRead aliases
    obtain isPositive | ⟨isZero, isLong⟩ := cacheSize_of_ofEnvironment isRead
    · left
      constructor
      · cases isSize : settings.cacheSize with
        | none => exact .inl rfl
        | some bound => exact .inr ⟨bound, isPositive bound isSize, rfl⟩
      · obtain ⟨_, _, notPositive⟩ | ⟨created, -⟩ :=
          CheckCache.ofSize_cases aliases settings.cacheSize
        · exact absurd isPositive notPositive
        · exact ⟨_, created⟩
    · right
      refine ⟨isZero, ?_, isLong⟩
      rw [isZero]
      rfl
  · intro written isGiven isNonempty
    refine ⟨fun notLong size => ?_, fun isLong size => ?_, ?_⟩
    · rw [exists_ofEnvironment_eq_ok_iff isGiven isNonempty,
        readCacheSize_eq_ok_iff notLong]
    · rw [exists_ofEnvironment_eq_ok_iff isGiven isNonempty,
        readCacheSize_of_writesLongZero isLong, Except.ok.injEq, eq_comm]
    · rw [exists_ofEnvironment_eq_error_iff isGiven isNonempty,
        readCacheSize_eq_error_iff]

/-- The theorem for a bound with a sign and an underscore, and for a zero with a sign. -/
theorem ofEnvironment_gives_usable_size_signed :
    (∃ settings, ofEnvironment ⟨some "off", some "+1_024 ", none⟩ = .ok settings ∧
      settings.cacheSize = some 1024 ∧
      ∃ cache, CheckCache.ofSize? .standard settings.cacheSize = .ok cache) ∧
    ∃ settings, ofEnvironment ⟨none, some "-0", some "types.yaml"⟩ = .ok settings ∧
      settings.cacheSize = some 0 := by
  have bounded := ofEnvironment_gives_usable_size ⟨some "off", some "+1_024 ", none⟩
  have unbounded := ofEnvironment_gives_usable_size ⟨none, some "-0", some "types.yaml"⟩
  constructor
  · have denotes : Denotes "+1_024 " 1024 := integer?_normalized_iff.mp (by decide)
    have notLong : ¬ WritesLongZero "+1_024 " := by
      intro isLong
      exact absurd (isLong.1.unique denotes) (by decide)
    obtain ⟨settings, isRead, size_eq⟩ :=
      ((bounded.2 "+1_024 " rfl (by decide)).1 notLong (some 1024)).mpr
        (.bound denotes (by decide))
    refine ⟨settings, isRead, size_eq, ?_⟩
    obtain ⟨-, hasCache⟩ | ⟨isZero, -⟩ := bounded.1 settings isRead .standard
    · exact hasCache
    · rw [isZero] at size_eq
      cases size_eq
  · have isLong : WritesLongZero "-0" :=
      ⟨integer?_normalized_iff.mp (by decide), by decide⟩
    exact ((unbounded.2 "-0" rfl (by decide)).2.1 isLong (some 0)).mpr rfl

/-- Two zeros ask for no bound, but the size that is read is the bound zero, and there
is no cache with it. -/
theorem ofEnvironment_of_two_zeros :
    AsksFor "00" none ∧
      ofEnvironment ⟨none, some "00", none⟩ = .ok ⟨true, some 0, none⟩ ∧
      CheckCache.ofSize? .standard (some 0) = .error (.cacheSize 0) := by
  refine ⟨.zero (integer?_normalized_iff.mp (by decide)), ?_, rfl⟩
  decide

end Settings
end KindExpr
