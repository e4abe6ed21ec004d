import KindExpr.Proofs.Cache.Entries
import KindExpr.Proofs.CommandLine.Check

/-!
# Compiling a file from the command line

A request to compile the expressions of a file goes on behind an entry that cannot be
registered, and a cache that loads the file stops there. The two agree nevertheless,
because no entry depends on those before it: what registering an entry gives is what it
gives in a cache that holds nothing else.

So a line is written for each entry, whatever came before it, and the number of
the entries that cannot be registered on their own is told. It is zero if and
only if the cache loads the file.

The command ends at the first entry without such a line: its error is told in none, or
its line cannot be written because it holds a surrogate. A file with a surrogate in one
of its expressions can be loaded, but the command does not report that.
-/

namespace KindExpr

/-! ## Entries on their own -/

namespace PreloadEntry

/-- What registering an entry gives in a cache without any checks. -/
def registeredAlone (entry : PreloadEntry) : Except Error CompiledCheck :=
  ((CheckCache.empty .standard none).register (.text entry.expression) entry.values).1

/-- Whether an entry cannot be registered on its own. -/
def failsAlone (entry : PreloadEntry) : Bool :=
  match entry.registeredAlone with
  | .ok _ => false
  | .error _ => true

/-- The line for an entry that is registered. -/
def successLine (entry : PreloadEntry) : Text :=
  "  ✓ " ++ entry.expression

/-- The line for an entry that cannot be registered. -/
def failureLine (entry : PreloadEntry) (error : Error) : Text :=
  "  ✗ " ++ entry.expression ++ ": " ++ error.message

/-- The line that tells what becomes of an entry on its own. -/
def line (entry : PreloadEntry) : Text :=
  match entry.registeredAlone with
  | .ok _ => entry.successLine
  | .error error => entry.failureLine error

/-- What ends the command at an entry. -/
inductive EndsCommand (entry : PreloadEntry) : Failure → Prop
  /-- The error of the entry is told in no line. -/
  | error {error : Error} (fails : entry.registeredAlone = .error error)
      (notTold : error.isOfExpression = false) : EndsCommand entry (.error error)
  /-- The line of the entry cannot be written. -/
  | line (isTold : ∀ error, entry.registeredAlone = .error error →
      error.isOfExpression = true) (hasSurrogate : entry.line.HasSurrogate) :
      EndsCommand entry .unencodable

/-- The lines for some entries, as they are written. -/
def writtenLines (entries : List PreloadEntry) (line : PreloadEntry → Text) : Text :=
  Text.join (entries.map fun entry => Report.lineText (line entry))

theorem writtenLines_cons (entry : PreloadEntry) (rest : List PreloadEntry)
    (line : PreloadEntry → Text) :
    writtenLines (entry :: rest) line =
      Report.lineText (line entry) ++ writtenLines rest line := rfl

/-- Lines without control sequences are written as they are. -/
theorem writtenLines_of_not_mem {entries : List PreloadEntry} {line : PreloadEntry → Text}
    (noEscape : ∀ entry ∈ entries, .char '\x1b' ∉ (line entry).toList) :
    writtenLines entries line =
      Text.join (entries.map fun entry => line entry ++ "\n") := by
  refine congrArg Text.join (List.map_congr_left fun entry isEntry => ?_)
  exact Report.lineText_of_not_mem (noEscape entry isEntry)

/-- Whether each entry that fails has an error that is told in its line. -/
def FailByExpression (entries : List PreloadEntry) : Prop :=
  ∀ entry ∈ entries, ∀ error, entry.registeredAlone = .error error →
    error.isOfExpression = true

/-- An entry with a line that can be written does not end the command. -/
theorem not_endsCommand_iff {entry : PreloadEntry} :
    (∀ failure, ¬ entry.EndsCommand failure) ↔
      (∀ error, entry.registeredAlone = .error error → error.isOfExpression = true) ∧
        ¬ entry.line.HasSurrogate := by
  constructor
  · intro notEnded
    have isTold (error : Error) (fails : entry.registeredAlone = .error error) :
        error.isOfExpression = true := by
      by_contra notTold
      exact notEnded _ (.error fails (Bool.eq_false_iff.mpr notTold))
    exact ⟨isTold, fun hasSurrogate => notEnded _ (.line isTold hasSurrogate)⟩
  · rintro ⟨isTold, noSurrogate⟩ failure (⟨fails, notTold⟩ | ⟨-, hasSurrogate⟩)
    · rw [isTold _ fails] at notTold
      cases notTold
    · exact noSurrogate hasSurrogate

theorem registeredAlone_eq (entry : PreloadEntry) :
    entry.registeredAlone =
      (Check.ofExpression .standard entry.expression entry.values).map (⟨0, ·⟩) := by
  unfold registeredAlone CheckCache.register
  rw [compileKeyed_eq]
  have aliases_eq : (CheckCache.empty .standard none).aliases = .standard := rfl
  rw [aliases_eq]
  cases Check.ofExpression .standard entry.expression entry.values <;> rfl

/-- An entry fails on its own with the error of its expression. -/
theorem registeredAlone_eq_error_iff {entry : PreloadEntry} {error : Error} :
    entry.registeredAlone = .error error ↔
      Check.ofExpression .standard entry.expression entry.values = .error error := by
  rw [registeredAlone_eq, Outcome.map_eq_error_iff]

/-- An entry is registered on its own if its expression compiles. -/
theorem exists_registeredAlone_iff {entry : PreloadEntry} :
    (∃ compiled, entry.registeredAlone = .ok compiled) ↔ entry.Compiles .standard := by
  rw [registeredAlone_eq]
  constructor
  · rintro ⟨compiled, alone⟩
    obtain ⟨check, isCheck, -⟩ := Outcome.map_eq_ok_iff.mp alone
    exact ⟨check, isCheck⟩
  · rintro ⟨check, isCheck⟩
    exact ⟨_, Outcome.map_eq_ok_iff.mpr ⟨check, isCheck, rfl⟩⟩

theorem failsAlone_eq_false_iff {entry : PreloadEntry} :
    entry.failsAlone = false ↔ entry.Compiles .standard := by
  rw [← exists_registeredAlone_iff, failsAlone]
  cases entry.registeredAlone <;> simp

/-- The line of an entry that compiles tells its expression. -/
theorem line_of_compiles {entry : PreloadEntry} (compiles : entry.Compiles .standard) :
    entry.line = entry.successLine := by
  obtain ⟨compiled, alone⟩ := exists_registeredAlone_iff.mpr compiles
  rw [line, alone]

theorem hasSurrogate_successLine {entry : PreloadEntry} :
    entry.successLine.HasSurrogate ↔ entry.expression.HasSurrogate := by
  rw [successLine, Text.hasSurrogate_append,
    or_iff_right (Text.not_hasSurrogate_ofString _)]

theorem failsAlone_of_eq_error {entry : PreloadEntry} {error : Error}
    (fails : entry.registeredAlone = .error error) : entry.failsAlone = true := by
  rw [failsAlone, fails]

end PreloadEntry

/-! ## Loading a file -/

namespace CheckCache

/-- The outcome of loading a file into a cache that holds nothing. -/
def loaded (files : Files) (path : Text) : Except Error Nat :=
  ((empty .standard none).preload files path).1

variable {files : Files} {path : Text} {entries : List PreloadEntry}

/-- A file whose entries all compile is loaded. -/
theorem loaded_of_compile (areRead : PreloadEntry.ofFile files path = .ok entries)
    (compile : ∀ entry ∈ entries, entry.Compiles .standard) :
    loaded files path = .ok entries.length := by
  unfold loaded preload
  rw [areRead]
  dsimp only
  rw [registerAll_of_compile compile]
  rfl

/-- Loading a file stops at the first entry that fails. -/
theorem loaded_of_first_fails {earlier later : List PreloadEntry} {entry : PreloadEntry}
    {error : Error}
    (areRead : PreloadEntry.ofFile files path = .ok (earlier ++ entry :: later))
    (compile : ∀ other ∈ earlier, other.Compiles .standard)
    (fails : entry.registeredAlone = .error error) :
    loaded files path = .error error := by
  unfold loaded preload
  rw [areRead]
  dsimp only
  rw [registerAll_of_first_fails compile
    (PreloadEntry.registeredAlone_eq_error_iff.mp fails)]
  rfl

end CheckCache

/-! ## Registering entry by entry -/

namespace CommandLine

open PreloadEntry

variable {cache : CheckCache} {entry : PreloadEntry}

/-- An entry that fails on its own fails with the same error behind others. -/
theorem register_of_fails_alone (isStandard : cache.aliases = .standard) {error : Error}
    (fails : entry.registeredAlone = .error error) :
    cache.register (.text entry.expression) (entry.placeholders.map Value.text) =
      (.error error, cache) := by
  rw [registeredAlone_eq_error_iff, ← isStandard] at fails
  exact CheckCache.register_of_entry_fails fails

/-- An entry that is registered on its own is registered behind others. -/
theorem register_of_registered_alone (isStandard : cache.aliases = .standard)
    {alone : CompiledCheck} (succeeds : entry.registeredAlone = .ok alone) :
    ∃ found after, after.aliases = .standard ∧
      cache.register (.text entry.expression) (entry.placeholders.map Value.text) =
        (.ok found, after) := by
  have compiles : entry.Compiles cache.aliases := by
    rw [isStandard]
    exact exists_registeredAlone_iff.mp ⟨alone, succeeds⟩
  obtain ⟨found, registered⟩ := CheckCache.register_of_entry_compiles compiles
  refine ⟨found, _, ?_, registered⟩
  exact (cache.register_aliases _ _).trans isStandard

/-- An entry with a line that can be written is reported by it, wherever it stands. -/
theorem registerEntry_of_told (isStandard : cache.aliases = .standard)
    (notEnded : ∀ failure, ¬ entry.EndsCommand failure) (report : Report) :
    ∃ after, after.aliases = .standard ∧
      registerEntry cache entry report =
        (after, entry.failsAlone, report.print entry.line) := by
  have isTold := (not_endsCommand_iff.mp notEnded).1
  unfold registerEntry
  cases alone : entry.registeredAlone with
  | ok compiled =>
      obtain ⟨found, after, afterIsStandard, registered⟩ :=
        register_of_registered_alone isStandard alone
      refine ⟨after, afterIsStandard, ?_⟩
      rw [registered, line, failsAlone, alone]
      rfl
  | error error =>
      refine ⟨cache, isStandard, ?_⟩
      rw [register_of_fails_alone isStandard alone, line, failsAlone, alone]
      exact if_pos (isTold error alone)

/-- The command ends at an entry that ends it, whatever was reported before. -/
theorem registerEach_of_endsCommand (isStandard : cache.aliases = .standard)
    {failure : Failure} (ends : entry.EndsCommand failure) (rest : List PreloadEntry)
    (failures : Nat) (report : Report) :
    registerEach (entry :: rest) cache failures report =
      (report.fail failure, failures) := by
  suffices isEnd : (registerEntry cache entry report).2.2 = report.fail failure by
    rw [registerEach]
    dsimp only
    rw [isEnd]
    rfl
  unfold registerEntry
  cases ends with
  | error fails notTold =>
      rw [register_of_fails_alone isStandard fails]
      dsimp only
      rw [notTold, if_neg Bool.false_ne_true]
  | line isTold hasSurrogate =>
      cases alone : entry.registeredAlone with
      | ok compiled =>
          obtain ⟨found, after, -, registered⟩ :=
            register_of_registered_alone isStandard alone
          rw [line, alone] at hasSurrogate
          rw [registered]
          exact report.print_of_hasSurrogate hasSurrogate
      | error error =>
          rw [line, alone] at hasSurrogate
          rw [register_of_fails_alone isStandard alone]
          dsimp only
          rw [if_pos (isTold error alone)]
          exact report.print_of_hasSurrogate hasSurrogate

/-- Entries with lines that can be written are reported one by one, and
those that fail are counted. -/
theorem registerEach_append {entries : List PreloadEntry}
    (isStandard : cache.aliases = .standard)
    (notEnded : ∀ entry ∈ entries, ∀ failure, ¬ entry.EndsCommand failure)
    (rest : List PreloadEntry) (failures : Nat) (report : Report)
    (notFailed : report.failure = none) :
    ∃ (after : CheckCache) (lines : String), after.aliases = .standard ∧
      lines = writtenLines entries line ∧
      registerEach (entries ++ rest) cache failures report =
        registerEach rest after (failures + entries.countP failsAlone)
          (report.append lines) := by
  induction entries generalizing cache failures report with
  | nil =>
      refine ⟨cache, "", isStandard, rfl, ?_⟩
      rw [report.append_empty]
      rfl
  | cons entry others inductionHypothesis =>
      obtain ⟨own, later⟩ := List.forall_mem_cons.mp notEnded
      obtain ⟨after, afterIsStandard, registered⟩ :=
        registerEntry_of_told isStandard own report
      obtain ⟨line, isLine⟩ := Report.exists_lineText (not_endsCommand_iff.mp own).2
      rw [report.print_of_lineText isLine] at registered
      obtain ⟨final, lines, finalIsStandard, areLines, goesOn⟩ :=
        inductionHypothesis afterIsStandard later (failures + entry.failsAlone.toNat)
          (report.append line) notFailed
      refine ⟨final, line ++ lines, finalIsStandard, ?_, ?_⟩
      · rw [Text.ofString_append, areLines, writtenLines_cons, isLine]
      · rw [List.cons_append, registerEach, registered]
        dsimp only
        have notFailedYet : (report.append line).failure = none := notFailed
        rw [notFailedYet, Option.isSome_none, if_neg Bool.false_ne_true, goesOn,
          Report.append_append, List.countP_cons]
        cases entry.failsAlone <;> grind

/-! ## Compiling a file -/

variable {files : Files} {path : Text} {entries : List PreloadEntry}

/-- Whether a run writes a text to the output and ends with an exit code,
and by a failure or by none. -/
structure Tells (report : Report) (text : Text) (exitCode : Nat)
    (failure : Option Failure) : Prop where
  output_eq : report.output = text
  errors_eq : report.errors = ""
  exitCode_eq : report.exitCode = exitCode
  failure_eq : report.failure = failure

/-- What is told after all entries were registered. -/
def compiledText (entries : List PreloadEntry) (count : Nat) : Text :=
  writtenLines entries successLine ++
    Report.lineText ("\n" ++ toString count ++ " expression(s) compiled.")

/-- What is told after some entries failed, each with an error that is told. -/
def failedText (entries : List PreloadEntry) : Text :=
  writtenLines entries line ++
    Report.lineText
      ("\n" ++ toString (entries.countP failsAlone) ++ " expression(s) failed to compile")

/-- A run ends with another exit code than zero if the file cannot be read. -/
theorem exitCode_runPreload_of_unread {fault : PreloadFault}
    (notRead : PreloadEntry.ofFile files path = .error fault) :
    (runPreload files path).exitCode = 1 := by
  unfold runPreload
  rw [notRead]
  dsimp only
  split <;> rfl

/-- The first entry that ends the command is the last that is looked at. -/
theorem runPreload_of_endsCommand {earlier later : List PreloadEntry}
    {entry : PreloadEntry}
    (areRead : PreloadEntry.ofFile files path = .ok (earlier ++ entry :: later))
    (notEnded : ∀ other ∈ earlier, ∀ failure, ¬ other.EndsCommand failure)
    {failure : Failure} (ends : entry.EndsCommand failure) :
    Tells (runPreload files path) (writtenLines earlier line) 1 (some failure) := by
  have isStandard : (CheckCache.empty .standard none).aliases = .standard := rfl
  obtain ⟨after, lines, afterIsStandard, areLines, goesOn⟩ :=
    registerEach_append isStandard notEnded (entry :: later) 0 Report.start rfl
  unfold runPreload
  rw [areRead]
  dsimp only
  rw [goesOn, registerEach_of_endsCommand afterIsStandard ends]
  refine ⟨?_, rfl, rfl, rfl⟩
  exact (congrArg Text.ofString String.empty_append).trans areLines

/-- A line that can be written is added to what a report tells. -/
theorem Tells.print {report : Report} {text line : Text} {exitCode : Nat}
    {failure : Option Failure} (tells : Tells report text exitCode failure)
    (isEncodable : ¬ line.HasSurrogate) :
    Tells (report.print line) (text ++ Report.lineText line) exitCode failure := by
  obtain ⟨written, isWritten⟩ := Report.exists_lineText isEncodable
  rw [report.print_of_lineText isWritten]
  refine ⟨?_, tells.errors_eq, tells.exitCode_eq, tells.failure_eq⟩
  rw [Report.append, Text.ofString_append, tells.output_eq, isWritten]

theorem Tells.exit {report : Report} {text : Text} {exitCode : Nat}
    (tells : Tells report text exitCode none) (code : Nat) :
    Tells (report.exit code) text code none := by
  rw [Report.exit, tells.failure_eq, Option.isSome_none, if_neg Bool.false_ne_true]
  exact ⟨tells.output_eq, tells.errors_eq, rfl, rfl⟩

/-- What is reported when each entry has a line that can be written. -/
theorem runPreload_of_told (areRead : PreloadEntry.ofFile files path = .ok entries)
    (notEnded : ∀ entry ∈ entries, ∀ failure, ¬ entry.EndsCommand failure) :
    if 0 < entries.countP failsAlone then
      Tells (runPreload files path) (failedText entries) 1 none
    else
      Tells (runPreload files path)
        (writtenLines entries line ++
          Report.lineText ("\n" ++ toString entries.length ++ " expression(s) compiled."))
        0 none := by
  have isStandard : (CheckCache.empty .standard none).aliases = .standard := rfl
  obtain ⟨after, lines, -, areLines, goesOn⟩ :=
    registerEach_append isStandard notEnded [] 0 Report.start rfl
  rw [List.append_nil, Nat.zero_add, registerEach] at goesOn
  have tells : Tells (Report.start.append lines) (writtenLines entries line) 0 none :=
    ⟨(congrArg Text.ofString String.empty_append).trans areLines, rfl, rfl, rfl⟩
  have isEncodable (number : Nat) (text : String) :
      ¬ (("\n" : Text) ++ toString number ++ text).HasSurrogate := by
    simp [Text.hasSurrogate_append, Text.not_hasSurrogate_ofString]
  unfold runPreload
  rw [areRead]
  dsimp only
  rw [goesOn]
  dsimp only
  rw [tells.failure_eq, Option.isSome_none, if_neg Bool.false_ne_true]
  split
  · exact (tells.print (isEncodable (entries.countP failsAlone) _)).exit _
  · exact tells.print (isEncodable entries.length _)

/-- A file whose entries all compile is reported so if no expression holds a surrogate. -/
theorem runPreload_of_compile (areRead : PreloadEntry.ofFile files path = .ok entries)
    (compile : ∀ entry ∈ entries, entry.Compiles .standard)
    (noSurrogate : ∀ entry ∈ entries, ¬ entry.expression.HasSurrogate) :
    Tells (runPreload files path) (compiledText entries entries.length) 0 none := by
  have notEnded : ∀ entry ∈ entries, ∀ failure, ¬ entry.EndsCommand failure := by
    intro entry isEntry
    refine not_endsCommand_iff.mpr ⟨fun error fails => ?_, ?_⟩
    · obtain ⟨compiled, alone⟩ := exists_registeredAlone_iff.mpr (compile entry isEntry)
      cases alone.symm.trans fails
    · rw [line_of_compiles (compile entry isEntry), hasSurrogate_successLine]
      exact noSurrogate entry isEntry
  have noFailures : ¬ 0 < entries.countP failsAlone := by
    rw [Nat.not_lt, Nat.le_zero, List.countP_eq_zero]
    intro entry isEntry
    rw [failsAlone_eq_false_iff.mpr (compile entry isEntry)]
    exact Bool.false_ne_true
  have sameLines : writtenLines entries line = writtenLines entries successLine := by
    refine congrArg Text.join (List.map_congr_left fun entry isEntry => ?_)
    rw [line_of_compiles (compile entry isEntry)]
  have told := runPreload_of_told areRead notEnded
  rwa [if_neg noFailures, sameLines] at told

/-- A file some entries of which fail is reported so. -/
theorem runPreload_of_fails (areRead : PreloadEntry.ofFile files path = .ok entries)
    (notEnded : ∀ entry ∈ entries, ∀ failure, ¬ entry.EndsCommand failure)
    (someFails : ∃ entry ∈ entries, entry.failsAlone = true) :
    Tells (runPreload files path) (failedText entries) 1 none := by
  have told := runPreload_of_told areRead notEnded
  rwa [if_pos (List.countP_pos_iff.mpr someFails)] at told

/-! ## Requests -/

/-- The arguments that ask to compile the file of a path. A path that looks like an
option stands behind a double dash. -/
inductive AsksToCompile (path : Text) : List Text → Prop
  | plain (isNoOption : Arguments.isOption path = false) :
        AsksToCompile path ["preload", path]
  | dashed : AsksToCompile path ["preload", "--", path]

/-- Whether a path leads to a file as it is written. -/
def LeadsToFile (files : Files) (path : Text) : Prop :=
  Files.pathFault? path = none ∧ ∃ text, files.status path = .file text

/-- The path is the one argument of the command. -/
theorem ofCommand_of_asksToCompile {path : Text} {rest : List Text}
    (asks : AsksToCompile path ("preload" :: rest)) :
    Arguments.ofCommand .preload rest = .ok ⟨false, [], [path]⟩ := by
  cases asks with
  | plain isNoOption =>
      unfold Arguments.ofCommand
      rw [Arguments.split, if_neg
        (Arguments.ne_of_isOption_eq_false isNoOption), isNoOption]
      rfl
  | dashed => rfl

/-- The arguments of a command that compiles a file are in order. -/
theorem runCommand_preload (isFile : LeadsToFile files path) :
    runCommand files .preload ⟨false, [], [path]⟩ = runPreload files path := by
  obtain ⟨noFault, text, isFile⟩ := isFile
  have path_eq : path? .preload ⟨false, [], [path]⟩ = some path := rfl
  have inOrder : checkArguments files .preload ⟨false, [], [path]⟩ = .ok () := by
    unfold checkArguments
    rw [path_eq]
    simp only [checkPath, isFile]
    rfl
  unfold runCommand
  rw [path_eq, Option.bind_some, noFault]
  dsimp only
  rw [inOrder]
  rfl

theorem run_of_asksToCompile {arguments : List Text} (asks : AsksToCompile path arguments)
    (isFile : LeadsToFile files path) :
    run files arguments = runPreload files path := by
  obtain ⟨rest, rfl⟩ : ∃ rest : List Text, arguments = .ofString "preload" :: rest := by
    cases asks with
    | plain => exact ⟨_, rfl⟩
    | dashed => exact ⟨_, rfl⟩
  have isPreload : Command.ofName? "preload" = some .preload := by decide
  have isCalled := run_command files rfl isPreload (ofCommand_of_asksToCompile asks) rfl
  exact isCalled.trans (runCommand_preload isFile)

/-! ## Agreement -/

/-- Whether a report on a file tells the same of it as a cache that loads it, unless the
command ends at an entry. -/
structure AgreesWithCache (files : Files) (path : Text) (report : Report) : Prop where
  /-- The exit code is zero if the file is loaded and no expression holds a surrogate. -/
  exitCode_iff : report.exitCode = 0 ↔
    (∃ count, CheckCache.loaded files path = .ok count) ∧
      ∀ entries, PreloadEntry.ofFile files path = .ok entries →
        ∀ entry ∈ entries, ¬ entry.expression.HasSurrogate
  /-- All entries of a file that is loaded are reported, and their number. -/
  compiled : ∀ count, CheckCache.loaded files path = .ok count →
    ∃ entries, PreloadEntry.ofFile files path = .ok entries ∧ count = entries.length ∧
      ((∀ entry ∈ entries, ¬ entry.expression.HasSurrogate) →
        Tells report (compiledText entries count) 0 none)
  /-- If a file is not loaded, then what becomes of each entry on its own is reported, and
  the number of those that fail. -/
  failed : ∀ entries, PreloadEntry.ofFile files path = .ok entries →
    FailByExpression entries → (∀ entry ∈ entries, ¬ entry.line.HasSurrogate) →
    (∀ count, CheckCache.loaded files path ≠ .ok count) →
    Tells report (failedText entries) 1 none
  /-- The error of the cache is that of the first entry that fails on its own. -/
  first_error : ∀ entries, PreloadEntry.ofFile files path = .ok entries →
    (∀ count, CheckCache.loaded files path ≠ .ok count) →
    ∃ earlier entry later error, entries = earlier ++ entry :: later ∧
      (∀ other ∈ earlier, other.failsAlone = false) ∧
      entry.registeredAlone = .error error ∧ CheckCache.loaded files path = .error error
  /-- The first entry that ends the command is the last that is looked at. -/
  ended : ∀ earlier entry later failure,
    PreloadEntry.ofFile files path = .ok (earlier ++ entry :: later) →
    (∀ other ∈ earlier, ∀ failure, ¬ other.EndsCommand failure) →
    entry.EndsCommand failure →
    Tells report (writtenLines earlier line) 1 (some failure)

theorem agreesWithCache_of_unread {fault : PreloadFault}
    (notRead : PreloadEntry.ofFile files path = .error fault) :
    AgreesWithCache files path (runPreload files path) := by
  have notLoaded : CheckCache.loaded files path = .error (.preload fault) := by
    unfold CheckCache.loaded CheckCache.preload
    rw [notRead]
  exact {
    exitCode_iff := by simp [exitCode_runPreload_of_unread notRead, notLoaded]
    compiled := fun count isLoaded => nomatch notLoaded.symm.trans isLoaded
    failed := fun entries areRead => nomatch notRead.symm.trans areRead
    first_error := fun entries areRead => nomatch notRead.symm.trans areRead
    ended := fun _ _ _ _ areRead => nomatch notRead.symm.trans areRead }

/-- The exit code is zero only if all entries have lines that can be written. -/
theorem exitCode_runPreload_of_ends
    (areRead : PreloadEntry.ofFile files path = .ok entries)
    (ends : ¬ ∀ entry ∈ entries, ∀ failure, ¬ entry.EndsCommand failure) :
    (runPreload files path).exitCode = 1 := by
  obtain told | ⟨earlier, entry, later, rfl, areTold, isEnd⟩ :=
    Outcome.forall_or_exists_first
      (fun entry => ∀ failure, ¬ entry.EndsCommand failure) entries
  · exact absurd told ends
  · obtain ⟨failure, isEnd⟩ := not_forall_not.mp isEnd
    exact (runPreload_of_endsCommand areRead areTold isEnd).exitCode_eq

theorem agreesWithCache_of_compile
    (areRead : PreloadEntry.ofFile files path = .ok entries)
    (compile : ∀ entry ∈ entries, entry.Compiles .standard) :
    AgreesWithCache files path (runPreload files path) := by
  have isLoaded := CheckCache.loaded_of_compile areRead compile
  refine ⟨⟨fun isZero => ⟨⟨_, isLoaded⟩, ?_⟩, fun ⟨_, noSurrogate⟩ => ?_⟩, ?_, ?_, ?_, ?_⟩
  · intro others areReadToo entry isEntry hasSurrogate
    cases areRead.symm.trans areReadToo
    have isOne := exitCode_runPreload_of_ends areRead fun notEnded =>
      (not_endsCommand_iff.mp (notEnded entry isEntry)).2 <| by
        rwa [line_of_compiles (compile entry isEntry), hasSurrogate_successLine]
    rw [isOne] at isZero
    cases isZero
  · exact (runPreload_of_compile areRead compile
      (noSurrogate entries areRead)).exitCode_eq
  · intro count isLoadedToo
    cases isLoaded.symm.trans isLoadedToo
    exact ⟨entries, areRead, rfl, runPreload_of_compile areRead compile⟩
  · intro _ _ _ _ notLoaded
    exact absurd isLoaded (notLoaded _)
  · intro _ _ notLoaded
    exact absurd isLoaded (notLoaded _)
  · intro earlier entry later failure areReadToo notEnded
    exact runPreload_of_endsCommand areReadToo notEnded

theorem agreesWithCache_of_first_fails {earlier later : List PreloadEntry}
    {entry : PreloadEntry} {error : Error}
    (areRead : PreloadEntry.ofFile files path = .ok (earlier ++ entry :: later))
    (compile : ∀ other ∈ earlier, other.Compiles .standard)
    (fails : entry.registeredAlone = .error error) :
    AgreesWithCache files path (runPreload files path) := by
  have notLoaded := CheckCache.loaded_of_first_fails areRead compile fails
  have someFails : ∃ other ∈ earlier ++ entry :: later, other.failsAlone = true :=
    ⟨entry, List.mem_append_right _ List.mem_cons_self, failsAlone_of_eq_error fails⟩
  have exitCode_eq : (runPreload files path).exitCode = 1 := by
    by_cases notEnded :
        ∀ other ∈ earlier ++ entry :: later, ∀ failure, ¬ other.EndsCommand failure
    · exact (runPreload_of_fails areRead notEnded someFails).exitCode_eq
    · exact exitCode_runPreload_of_ends areRead notEnded
  refine ⟨by simp [exitCode_eq, notLoaded], ?_, ?_, ?_, ?_⟩
  · intro count isLoaded
    cases notLoaded.symm.trans isLoaded
  · intro entries areReadToo told noSurrogate _
    cases areRead.symm.trans areReadToo
    refine runPreload_of_fails areRead (fun other isEntry => ?_) someFails
    exact not_endsCommand_iff.mpr ⟨told other isEntry, noSurrogate other isEntry⟩
  · intro entries areReadToo _
    cases areRead.symm.trans areReadToo
    refine ⟨earlier, entry, later, error, rfl, fun other isEarlier => ?_,
      fails, notLoaded⟩
    exact failsAlone_eq_false_iff.mpr (compile other isEarlier)
  · intro before other after failure areReadToo notEnded
    exact runPreload_of_endsCommand areReadToo notEnded

end CommandLine
end KindExpr
