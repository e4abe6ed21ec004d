import KindExpr.Proofs.Expr.Spelling

/-!
# Where an error is reported

A text is viable if it is the beginning of an expression. The scan is in a state from
which it can be completed after every viable text, and after no other: whatever is open
can be closed, and what is missing can be written, so that a scan that has accepted all
characters so far never is a dead end.

The main result says that an error stands at the first character that rules out every
completion, or at the end of a text that could still be completed.
-/

namespace KindExpr

/-- Whether a text is the beginning of an expression without placeholders. -/
def IsViable (text : List Code) : Prop :=
  ∃ rest parsed, parse (Text.ofList (text ++ rest)) [] = .ok parsed

/-- Whether a fault is that of a text which ends too early. -/
def ParseFault.isAtEnd : ParseFault → Bool
  | .unterminatedLiteral => true
  | .missingClose => true
  | .unexpectedEnd => true
  | _ => false

namespace Scan

/-! ## Scans that can be completed -/

/-- Whether some text can be read to an end from here. -/
def IsCompletable (scan : Scan) : Prop :=
  ∃ rest final alternatives, scan.readText rest = .ok final ∧
    final.finish = .ok alternatives

/-- Before a character that is accepted a scan can be completed if it can be after it. -/
theorem IsCompletable.of_step {scan next : Scan} {c : Code}
    (completable : next.IsCompletable) (stepped : scan.step c = .ok next) :
    scan.IsCompletable := by
  obtain ⟨rest, final, alternatives, isRead, finished⟩ := completable
  exact ⟨c :: rest, final,
    alternatives, by rw [readText_cons_of_step stepped, isRead], finished⟩

/-- What holds of every scan that has accepted all characters so far: members follow a
name or a literal, in its list and in those around it, and nothing but negations and a
key stands before a literal. -/
structure IsOrderly (scan : Scan) : Prop where
  noMembers : scan.current.hasContent = false → scan.current.members = []
  content_of_outer : ∀ list ∈ scan.outer, list.current.hasContent = true
  noContent_of_mode : scan.mode ≠ .plain → scan.current.hasContent = false

/-- Outside of literals nothing has to be known of the mode. -/
theorem IsOrderly.of_plain {scan : Scan} (plain : scan.mode = .plain)
    (noMembers : scan.current.hasContent = false → scan.current.members = [])
    (content : ∀ list ∈ scan.outer, list.current.hasContent = true) : scan.IsOrderly :=
  ⟨noMembers, content, fun notPlain => absurd plain notPlain⟩

theorem isOrderly_start : start.IsOrderly :=
  .of_plain rfl (fun _ => rfl) (fun _ isOuter => nomatch isOuter)

/-- A type name is content from its first character on. -/
theorem hasContent_push (node : Alternative) (c : Code) :
    ({ node with name := node.name.push c } : Alternative).hasContent = true := by
  have notEmpty : (node.name.push c).isEmpty = false := by
    rw [Text.isEmpty_eq_false_iff]
    intro isEmpty
    have characters := Text.toList_eq_nil_iff.mpr isEmpty
    simp at characters
  simp [Alternative.hasContent, notEmpty]

/-- The end of the flags leaves a scan orderly. -/
theorem IsOrderly.endFlags {scan : Scan} (orderly : scan.IsOrderly) :
    scan.endFlags.IsOrderly := by
  cases mode : scan.mode with
  | flags text letters =>
      have hasLiteral : scan.endFlags.current.hasContent = true := by
        simp [Scan.endFlags, mode, current, update, OpenList.update,
          Alternative.hasContent]
      have outer : scan.endFlags.outer = scan.outer := by
        simp [Scan.endFlags, mode, update]
      refine .of_plain (by simp [Scan.endFlags, mode]) (fun noContent => ?_) ?_
      · rw [hasLiteral] at noContent
        cases noContent
      · rw [outer]
        exact orderly.content_of_outer
  | _ => simpa [Scan.endFlags, mode] using orderly

/-- A character that is accepted outside of literals leaves a scan orderly. -/
theorem IsOrderly.plainStep {scan next : Scan} {c : Code} (orderly : scan.IsOrderly)
    (plain : scan.mode = .plain) (step : PlainStep scan c next) : next.IsOrderly := by
  cases step with
  | blank isBlank => exact orderly
  | openLiteral noContent noMembers =>
      exact ⟨fun _ => noMembers, orderly.content_of_outer, fun _ => noContent⟩
  | negate noContent =>
      exact .of_plain plain orderly.noMembers orderly.content_of_outer
  | @nameChar c isName noLiteral noMembers =>
      exact .of_plain plain (fun _ => noMembers) orderly.content_of_outer
  | openMembers content noMembers =>
      refine .of_plain rfl (fun _ => rfl) (fun list isOuter => ?_)
      rcases List.mem_cons.mp isOuter with rfl | isFurther
      · exact content
      · exact orderly.content_of_outer list isFurther
  | @closeMembers parent outer content nested =>
      have contents := orderly.content_of_outer
      rw [nested, List.forall_mem_cons] at contents
      refine .of_plain rfl (fun noContent => ?_) contents.2
      have parentContent := contents.1
      rw [show parent.current.hasContent = false from noContent] at parentContent
      cases parentContent
  | nextAlternative content =>
      exact .of_plain plain (fun _ => rfl) orderly.content_of_outer
  | declareKey content nested noKey noMembers =>
      exact .of_plain plain (fun _ => noMembers) orderly.content_of_outer

/-- A character that is accepted leaves a scan orderly. -/
theorem IsOrderly.step {scan next : Scan} {c : Code} (orderly : scan.IsOrderly)
    (stepped : scan.step c = .ok next) : next.IsOrderly := by
  -- Inside of a literal only the mode changes.
  have withMode : ∀ mode : ScanMode, scan.mode ≠ .plain →
      ({ scan with mode := mode } : Scan).IsOrderly := by
    intro mode notPlain
    exact ⟨orderly.noMembers, orderly.content_of_outer,
      fun _ => orderly.noContent_of_mode notPlain⟩
  simp only [Scan.step] at stepped
  split at stepped
  · rename_i plain
    exact orderly.plainStep plain (plainStep_of_stepPlain stepped)
  · rename_i text mode
    have notPlain : scan.mode ≠ .plain := by simp [mode]
    split at stepped
    · cases stepped
      exact withMode _ notPlain
    · split at stepped <;>
      · cases stepped
        exact withMode _ notPlain
  · rename_i text mode
    cases stepped
    exact withMode _ (by simp [mode])
  · rename_i text letters mode
    split at stepped
    · cases stepped
      exact withMode _ (by simp [mode])
    · have plain : scan.endFlags.mode = .plain := by simp [Scan.endFlags, mode]
      exact orderly.endFlags.plainStep plain (plainStep_of_stepPlain stepped)

/-- Characters that are accepted leave a scan orderly. -/
theorem IsOrderly.readText {scan final : Scan} {text : List Code}
    (orderly : scan.IsOrderly)
    (isRead : scan.readText text = .ok final) : final.IsOrderly := by
  induction text generalizing scan with
  | nil =>
      cases isRead
      exact orderly
  | cons c rest inductionHypothesis =>
      obtain ⟨next, stepped, restRead⟩ := readText_cons_eq_ok_iff.mp isRead
      exact inductionHypothesis (orderly.step stepped) restRead

/-! ## Completing a scan -/

/-- After a name or a literal all lists can be closed. -/
theorem isCompletable_of_content {scan : Scan} (plain : scan.mode = .plain)
    (content : scan.current.hasContent = true)
    (outerContent : ∀ list ∈ scan.outer, list.current.hasContent = true) :
    scan.IsCompletable := by
  obtain ⟨mode, list, outer⟩ := scan
  cases plain
  induction outer generalizing list with
  | nil =>
      refine ⟨[], _, list.alternatives, rfl, ?_⟩
      have hasContent : list.current.hasContent = true := content
      simp [finish, endFlags, current, hasContent]
  | cons parent outer inductionHypothesis =>
      rw [List.forall_mem_cons] at outerContent
      have closed := inductionHypothesis
        (parent.update fun node => { node with members := list.alternatives })
        outerContent.1 outerContent.2
      refine closed.of_step (c := '>') ?_
      rw [step_of_plain rfl]
      exact stepPlain_of_plainStep (.closeMembers content rfl)

/-- Outside of literals a missing type name can be written. -/
theorem IsOrderly.isCompletable_of_plain {scan : Scan} (orderly : scan.IsOrderly)
    (plain : scan.mode = .plain) : scan.IsCompletable := by
  cases content : scan.current.hasContent with
  | true => exact isCompletable_of_content plain content orderly.content_of_outer
  | false =>
      have noLiteral : scan.current.literal = none := by
        simp only [Alternative.hasContent, Bool.or_eq_false_iff] at content
        simpa using content.2
      have step : PlainStep scan 'a' _ := .nameChar (by decide) noLiteral
        (orderly.noMembers content)
      refine IsCompletable.of_step (c := 'a') ?_
        (by rw [step_of_plain plain]; exact stepPlain_of_plainStep step)
      exact isCompletable_of_content plain (hasContent_push _ _) orderly.content_of_outer

/-- Every scan that has accepted all characters so far can be completed. -/
theorem IsOrderly.isCompletable {scan : Scan} (orderly : scan.IsOrderly) :
    scan.IsCompletable := by
  -- The literal ends first: an escaped character, a slash and a blank lead out of it.
  have ofFlags : ∀ (found : Scan) (text letters : List Code), found.IsOrderly →
      found.mode = .flags text letters → found.IsCompletable := by
    intro found text letters isOrderly mode
    have ended : found.endFlags.mode = .plain := by simp [Scan.endFlags, mode]
    refine (isOrderly.endFlags.isCompletable_of_plain ended).of_step (c := ' ') ?_
    rw [step_endFlags ended (by decide), step_of_plain ended]
    exact stepPlain_of_plainStep (.blank (by decide))
  have ofBody : ∀ (found : Scan) (text : List Code), found.IsOrderly →
      found.mode = .body text → found.IsCompletable := by
    intro found text isOrderly mode
    have stepped : found.step '/' = .ok { found with mode := .flags text [] } := by
      simp [Scan.step, mode]
    exact (ofFlags _ text [] (isOrderly.step stepped) rfl).of_step stepped
  cases mode : scan.mode with
  | plain => exact orderly.isCompletable_of_plain mode
  | body text => exact ofBody scan text orderly mode
  | escaped text =>
      have stepped : scan.step 'a' =
          .ok { scan with mode := .body (.char 'a' :: text) } := by
        simp [Scan.step, mode]
      exact (ofBody _ _ (orderly.step stepped) rfl).of_step stepped
  | flags text letters => exact ofFlags scan text letters orderly mode

end Scan

/-! ## Viable texts -/

/-- The viable texts are those whose characters are all accepted. -/
theorem isViable_iff {text : List Code} :
    IsViable text ↔ ∃ scan, Scan.start.readText text = .ok scan := by
  constructor
  · rintro ⟨rest, parsed, isParsed⟩
    obtain ⟨final, isRead, -, -⟩ := parse_without_values_eq_ok_iff.mp isParsed
    rw [Text.toList_ofList, Scan.readText_append_eq_ok_iff] at isRead
    obtain ⟨middle, textRead, -⟩ := isRead
    exact ⟨middle, textRead⟩
  · rintro ⟨scan, textRead⟩
    have orderly := Scan.isOrderly_start.readText textRead
    obtain ⟨rest, final, alternatives, restRead, finished⟩ := orderly.isCompletable
    refine ⟨rest, ⟨alternatives, Text.ofList (text ++ rest)⟩, ?_⟩
    rw [parse_without_values_eq_ok_iff, Text.toList_ofList]
    refine ⟨final, ?_, finished, rfl⟩
    exact Scan.readText_append_eq_ok_iff.mpr ⟨scan, textRead, restRead⟩

/-- The beginning of a viable text is viable. -/
theorem IsViable.take {text : List Code} (viable : IsViable text) (count : Nat) :
    IsViable (text.take count) := by
  obtain ⟨rest, parsed, isParsed⟩ := viable
  refine ⟨text.drop count ++ rest, parsed, ?_⟩
  rwa [← List.append_assoc, List.take_append_drop]

/-! ## Places of errors -/

/-- The faults at the end of a text are those of a text that ends too early. -/
theorem Scan.isAtEnd_of_finish {scan : Scan} {fault : ParseFault} {distance : Nat}
    (failed : scan.finish = .error (fault, distance)) : fault.isAtEnd = true := by
  simp only [finish] at failed
  repeat' split at failed
  all_goals
    cases failed
    try rfl

/-- Without placeholder values an error is at a character that is not accepted after those
before it, or at the end of a text whose characters are all accepted. -/
theorem cases_of_scanText_error {text : List Code} {place : Place} {scan : Scan}
    {error : ParseError} (unspliced : place.spliced = 0)
    (failed : scanText (scanValues []) text place scan = .error error) :
    (∃ seen c rest last fault, text = seen ++ c :: rest ∧ scan.readText seen = .ok last ∧
        last.step c = .error fault ∧ error.position = place.position + seen.length) ∨
      ∃ last distance, scan.readText text = .ok last ∧
        last.finish = .error (error.fault, distance) ∧
        error.position = place.position + text.length - distance := by
  induction text generalizing place scan with
  | nil =>
      obtain ⟨distance, finished, position⟩ := finish_eq_of_scanText_nil _ failed
      exact .inr ⟨scan, distance, rfl, finished, position⟩
  | cons c rest inductionHypothesis =>
      cases stepped : scan.step c with
      | ok next =>
          rw [scanText_cons_of_step _ stepped] at failed
          have advanced : (place.advance c).position = place.position + 1 := rfl
          rcases inductionHypothesis (by simp [Place.advance, unspliced]) failed with
            ⟨seen, d, others, last, fault, rfl, isRead, atFault, position⟩ |
            ⟨last, distance, isRead, finished, position⟩
          · refine .inl ⟨c :: seen, d, others, last, fault, rfl, ?_, atFault, ?_⟩
            · rw [Scan.readText_cons_of_step stepped, isRead]
            · rw [position, advanced, List.length_cons]
              omega
          · refine .inr ⟨last, distance, ?_, finished, ?_⟩
            · rw [Scan.readText_cons_of_step stepped, isRead]
            · rw [position, advanced, List.length_cons]
              omega
      | error fault =>
          refine .inl ⟨[], c, rest, scan, fault, rfl, rfl, stepped, ?_⟩
          obtain ⟨own, fails⟩ := exists_scanText_cons_eq_error unspliced stepped rest
          rw [fails] at failed
          cases failed
          rfl

/-- An error is at the first character that rules out every completion of the text, or
it is that of a text which ends too early and could be completed. -/
theorem position_of_parse_error {text : Text} {error : ParseError}
    (failed : parse text [] = .error error) :
    error.position ≤ text.length ∧ IsViable (text.toList.take error.position) ∧
      (error.fault.isAtEnd = true ∧ IsViable text.toList ∨
        error.position < text.length ∧
          ¬ IsViable (text.toList.take (error.position + 1))) := by
  rw [← Text.length_toList]
  have atStart : Place.start.position = 0 := rfl
  rcases cases_of_scanText_error rfl failed with
    ⟨seen, c, rest, last, fault, textEqual, isRead, atFault, position⟩ |
    ⟨last, distance, isRead, finished, position⟩
  · rw [atStart, Nat.zero_add] at position
    have before : text.toList.take error.position = seen := by
      rw [textEqual, position, List.take_left]
    have upTo : text.toList.take (error.position + 1) = seen ++ [c] := by
      rw [textEqual, position, List.take_length_add_append]
      rfl
    have isBelow : error.position < text.toList.length := by
      rw [textEqual, position, List.length_append, List.length_cons]
      omega
    refine ⟨Nat.le_of_lt isBelow, ?_, .inr ⟨isBelow, ?_⟩⟩
    · rw [before]
      exact isViable_iff.mpr ⟨last, isRead⟩
    · rw [upTo, isViable_iff]
      rintro ⟨next, upToRead⟩
      obtain ⟨middle, seenRead, charRead⟩ := Scan.readText_append_eq_ok_iff.mp upToRead
      rw [isRead] at seenRead
      cases seenRead
      simp [Scan.readText, atFault] at charRead
  · have viable : IsViable text.toList := isViable_iff.mpr ⟨last, isRead⟩
    refine ⟨?_, viable.take _, .inl ⟨Scan.isAtEnd_of_finish finished, viable⟩⟩
    rw [position, atStart]
    omega

/-- A key after the members of a list that is still open: no completion puts the colon
right, and the list before it can be completed. -/
theorem position_of_parse_error_key :
    let text : Text := "map<arr<str>:num>"
    parse text [] = .error ⟨.keyAfterMembers ':', 12, text⟩ ∧
      12 ≤ text.length ∧ IsViable (text.toList.take 12) ∧
      ((ParseFault.keyAfterMembers ':').isAtEnd = true ∧ IsViable text.toList ∨
        12 < text.length ∧ ¬ IsViable (text.toList.take 13)) := by
  intro text
  have failed : parse text [] = .error ⟨.keyAfterMembers ':', 12, text⟩ := rfl
  exact ⟨failed, position_of_parse_error failed⟩

end KindExpr
