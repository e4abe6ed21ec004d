import Mathlib.Logic.Basic
import KindExpr.CommandLine.Report

/-!
# Written texts

A text is written without the sequences that control a terminal. No surrogate is part of
such a sequence, so that a text can be written to the output if and only if it holds none.
-/

namespace KindExpr

/-! ## Texts that have an encoding -/

namespace Text

/-- Whether a text holds a surrogate. -/
def HasSurrogate (text : Text) : Prop :=
  ∃ index, Code.surrogate index ∈ text.toList

theorem not_hasSurrogate_ofString (characters : String) :
    ¬ (ofString characters).HasSurrogate := by
  rintro ⟨index, isThere⟩
  obtain ⟨c, -, isSurrogate⟩ := List.mem_map.mp isThere
  cases isSurrogate

theorem hasSurrogate_append {first second : Text} :
    (first ++ second).HasSurrogate ↔ first.HasSurrogate ∨ second.HasSurrogate := by
  simp only [HasSurrogate, toList_append, List.mem_append, exists_or]

/-- Without a surrogate all code points are characters. -/
theorem exists_map_char {codes : List Code}
    (noSurrogate : ∀ index, .surrogate index ∉ codes) :
    ∃ characters : List Char, codes = characters.map Code.char := by
  induction codes with
  | nil => exact ⟨[], rfl⟩
  | cons code rest inductionHypothesis =>
      obtain ⟨characters, rfl⟩ :=
        inductionHypothesis fun index isLater => noSurrogate index (.tail code isLater)
      cases code with
      | char c => exact ⟨c :: characters, rfl⟩
      | surrogate index => exact absurd (.head _) (noSurrogate index)

/-- A text is a string if and only if it holds no surrogate. -/
theorem exists_eq_ofString_iff {text : Text} :
    (∃ characters : String, text = characters) ↔ ¬ text.HasSurrogate := by
  constructor
  · rintro ⟨characters, rfl⟩
    exact not_hasSurrogate_ofString characters
  · intro noSurrogate
    obtain ⟨characters, isOwn⟩ := exists_map_char (not_exists.mp noSurrogate)
    refine ⟨String.ofList characters, Text.ext ?_⟩
    rw [isOwn, toList_ofString, String.toList_ofList]

theorem string?_eq_none_iff {text : Text} : text.string? = none ↔ text.HasSurrogate := by
  rw [← not_iff_not, ← exists_eq_ofString_iff, ← Ne, Option.ne_none_iff_exists']
  simp only [string?_eq_some_iff]

end Text

namespace Report

/-! ## Control sequences -/

/-- A text without control sequences is written as it is. -/
theorem plainText_of_not_mem (fuel : Nat) {text : List Code}
    (noEscape : .char '\x1b' ∉ text) : plainText fuel text = text := by
  induction fuel generalizing text with
  | zero => rfl
  | succ fuel inductionHypothesis =>
      cases text with
      | nil => rfl
      | cons c rest =>
          obtain ⟨notEscape, noLaterEscape⟩ :=
            not_or.mp (fun isThere => noEscape (List.mem_cons.mpr isThere))
          unfold plainText
          split
          · exact absurd rfl notEscape
          · rw [inductionHypothesis noLaterEscape]

theorem lineText_of_not_mem {text : Text} (noEscape : .char '\x1b' ∉ text.toList) :
    lineText text = text ++ "\n" := by
  rw [lineText, written, plainText_of_not_mem _ noEscape, Text.ofList_toList]

/-- A surrogate is behind all characters of a control sequence. -/
theorem not_surrogate_le {index : Fin 2048} {last : Char}
    (isLow : last.toNat < Code.firstSurrogate) : ¬ Code.surrogate index ≤ .char last := by
  rw [Code.le_def, Code.toNat_char, Code.toNat]
  omega

/-- A surrogate is neither a parameter of a control sequence nor its end. -/
theorem surrogate_mem_of_dropSequence? {index : Fin 2048} {text after : List Code}
    (dropped : dropSequence? text = some after) :
    .surrogate index ∈ after ↔ .surrogate index ∈ text := by
  have stays (first last : Char) (isLow : last.toNat < Code.firstSurrogate)
      (codes : List Code) :
      .surrogate index ∈ codes.dropWhile (fun c => (first : Code) ≤ c && c ≤ last) ↔
        .surrogate index ∈ codes := by
    refine ⟨fun isLater => (List.dropWhile_suffix _).subset isLater, fun isThere => ?_⟩
    exact Text.mem_dropWhile isThere (by simp [not_surrogate_le isLow])
  unfold dropSequence? at dropped
  dsimp only at dropped
  split at dropped
  · rename_i c rest isRest
    have kept : .surrogate index ∈ c :: rest ↔ .surrogate index ∈ text := by
      rw [← isRest, stays _ _ (by decide), stays _ _ (by decide)]
    split at dropped
    · rename_i isEnd
      cases dropped
      rw [← kept, List.mem_cons, or_iff_right]
      rintro rfl
      simp [not_surrogate_le (show '~'.toNat < Code.firstSurrogate by decide)] at isEnd
    · cases dropped
  · cases dropped

/-- No surrogate is left out with the control sequences. -/
theorem surrogate_mem_plainText {index : Fin 2048} (fuel : Nat) {text : List Code} :
    .surrogate index ∈ plainText fuel text ↔ .surrogate index ∈ text := by
  induction fuel generalizing text with
  | zero => rfl
  | succ fuel inductionHypothesis =>
      cases text with
      | nil => rfl
      | cons c rest =>
          unfold plainText
          split
          · rename_i inner
            split
            · rename_i after dropped
              rw [inductionHypothesis, surrogate_mem_of_dropSequence? dropped]
              simp
            · simp [inductionHypothesis]
          · rw [List.mem_cons, List.mem_cons, inductionHypothesis]

theorem hasSurrogate_lineText {text : Text} :
    (lineText text).HasSurrogate ↔ text.HasSurrogate := by
  unfold lineText written
  rw [Text.hasSurrogate_append, or_iff_left (Text.not_hasSurrogate_ofString _)]
  exact exists_congr fun index => surrogate_mem_plainText _

/-! ## Writing -/

@[simp] theorem append_empty (report : Report) : report.append "" = report := by
  rw [append, String.append_empty]

@[simp] theorem append_append (report : Report) (first second : String) :
    (report.append first).append second = report.append (first ++ second) := by
  simp only [append, String.append_assoc]

theorem write_ofString (report : Report) (characters : String) :
    report.write characters = report.append characters := by
  rw [write, Text.string?_ofString]

theorem write_of_hasSurrogate (report : Report) {text : Text}
    (hasSurrogate : text.HasSurrogate) :
    report.write text = report.fail .unencodable := by
  rw [write, Text.string?_eq_none_iff.mpr hasSurrogate]

/-- A line is written as characters if the text holds no surrogate. -/
theorem exists_lineText {text : Text} (isEncodable : ¬ text.HasSurrogate) :
    ∃ line : String, lineText text = line :=
  Text.exists_eq_ofString_iff.mpr (mt hasSurrogate_lineText.mp isEncodable)

theorem print_of_lineText (report : Report) {text : Text} {line : String}
    (isLine : lineText text = line) :
    report.print text = report.append line := by
  rw [print, isLine, write_ofString]

theorem print_of_hasSurrogate (report : Report) {text : Text}
    (hasSurrogate : text.HasSurrogate) : report.print text = report.fail .unencodable :=
  report.write_of_hasSurrogate (hasSurrogate_lineText.mpr hasSurrogate)

/-- The output for errors shows characters as they are. -/
theorem shown_ofString (characters : String) : shown characters = characters := by
  rw [shown, Text.toList_ofString, List.flatMap_map]
  simp

theorem shown_lineText {text : Text} (isEncodable : ¬ text.HasSurrogate) :
    (shown (lineText text) : Text) = lineText text := by
  obtain ⟨line, isLine⟩ := exists_lineText isEncodable
  rw [isLine, shown_ofString]

end Report
end KindExpr
