import KindExpr.CommandLine.Run
import KindExpr.Proofs.Cache.Key
import KindExpr.Proofs.Check.Faults
import KindExpr.Proofs.CommandLine.Report
import KindExpr.Proofs.Expr.Reading
import KindExpr.Proofs.Json.Writable

/-!
# Checking a value from the command line

A request to check a value is answered in one of three ways: it cannot be
understood, the value is rejected, or it is accepted. The exit code tells which, and
the answer is written with it.

Nothing is answered if the run ends before its time. There are four causes for that,
listed in `CheckRequest.IsEndedBy`: an integer with too many digits, a pattern that is
refused although it breaks no rule at a position, a search without an outcome, and a
message that cannot be written because it holds a surrogate.
-/

namespace KindExpr

/-! ## Errors of expressions -/

/-- An expression that is read is compiled as its alternatives are. -/
theorem Check.ofExpression_of_parse {aliases : AliasTable} {expression : Text}
    {placeholders : List Value} {parsed : Parsed}
    (isParsed : parse expression placeholders = .ok parsed) :
    Check.ofExpression aliases expression placeholders =
      (Check.compileGroup aliases parsed.alternatives).mapError .compile := by
  unfold Check.ofExpression
  rw [isParsed]
  rfl

/-- Whether a pattern is refused because it breaks a rule. -/
def Pattern.Failure.isMalformed : Pattern.Failure → Bool
  | .malformed _ _ => true
  | _ => false

/-- With texts for its placeholders the error of an expression is its own, unless one of
its patterns is refused although it breaks no rule. -/
theorem Check.isOfExpression_iff {aliases : AliasTable} {expression : Text}
    {texts : List Text} {error : Error}
    (failed : Check.ofExpression aliases expression (texts.map Value.text) =
      .error error) :
    error.isOfExpression = false ↔
      ∃ literal failure, error = .compile (.badPattern literal failure) ∧
        failure.isMalformed = false := by
  unfold Check.ofExpression at failed
  obtain notParsed | ⟨parsed, -, notCompiled⟩ := Outcome.bind_eq_error_iff.mp failed
  · cases isParsed : parse expression (texts.map Value.text) with
    | ok parsed =>
        rw [isParsed] at notParsed
        cases notParsed
    | error parseError =>
        rw [isParsed] at notParsed
        cases notParsed
        have isShown := parse_fault_ne_unwritableValue isParsed
        simp [Error.isOfExpression, isShown]
  · cases compiled : Check.compileGroup aliases parsed.alternatives with
    | ok check =>
        rw [compiled] at notCompiled
        cases notCompiled
    | error compileError =>
        rw [compiled] at notCompiled
        cases notCompiled
        cases compileError with
        | badPattern literal failure =>
            cases failure <;> simp [Error.isOfExpression, Pattern.Failure.isMalformed]
        | _ => simp [Error.isOfExpression]

/-- A new cache compiles what is looked up in it. -/
theorem CheckCache.getText_empty (aliases : AliasTable) (capacity : Option Nat)
    (expression : Text) (texts : List Text) :
    ((CheckCache.empty aliases capacity).getText expression (texts.map Value.text)).1 =
      (Check.ofExpression aliases expression (texts.map Value.text)).map (⟨0, ·⟩) := by
  unfold getText CacheKey.of?
  rw [PlaceholderKey.ofValues_texts, Option.map_some]
  dsimp only
  unfold getKey
  rw [show (CheckCache.empty aliases capacity).use? _ = none from rfl]
  dsimp only
  rw [show (CheckCache.empty aliases capacity).aliases = aliases from rfl]
  cases Check.ofExpression aliases expression (texts.map Value.text) <;> rfl

/-! ## Commands -/

/-- What is no option is not the end of the options either. -/
theorem Arguments.ne_of_isOption_eq_false {argument : Text}
    (isNoOption : isOption argument = false) : argument ≠ "--" := by
  rintro rfl
  cases isNoOption

/-- The first argument that is no option names the command, and those behind it are the
arguments of the command. -/
theorem CommandLine.run_command (files : Files) {name : Text} {rest : List Text}
    {command : Command} {given : Arguments} (isNoOption : Arguments.isOption name = false)
    (isCommand : Command.ofName? name = some command)
    (isGiven : Arguments.ofCommand command rest = .ok given)
    (noHelp : given.help = false) :
    run files (name :: rest) = runCommand files command given := by
  have found : Arguments.ofProgram (name :: rest) = .ok ⟨false, [], name :: rest⟩ := by
    unfold Arguments.ofProgram
    rw [Arguments.split, if_neg
      (Arguments.ne_of_isOption_eq_false isNoOption), isNoOption]
    rfl
  unfold run
  rw [if_neg (by simp), found]
  dsimp only
  rw [if_neg Bool.false_ne_true, isCommand]
  dsimp only
  rw [isGiven]
  dsimp only
  rw [noHelp, if_neg Bool.false_ne_true]

/-! ## Requests -/

/-- What the program is asked when a value is to be checked. -/
structure CheckRequest where
  /-- The name of the value. -/
  name : Text
  expression : Text
  /-- The JSON text of the value. -/
  value : Text
  placeholders : List Text

namespace CheckRequest

/-- The arguments of a request. Nothing behind the double dash is read as an option. -/
def arguments (request : CheckRequest) : List Text :=
  "check" :: ("--name=" ++ request.name) :: "--" :: request.expression :: request.value ::
    request.placeholders

/-- The value that is to be checked, if its text is JSON. -/
def data (request : CheckRequest) : Except Json.Fault Value :=
  Json.read request.value.toList

/-- The check for the expression with its placeholder values, if there is one. -/
def check (request : CheckRequest) : Except Error Check :=
  Check.ofExpression .standard request.expression (request.placeholders.map Value.text)

/-- Whether the check answers so on the value: with a message if it rejects it. -/
def IsDecided (request : CheckRequest) (answer : Option Text) : Prop :=
  ∃ data check, request.data = .ok data ∧ request.check = .ok check ∧
    check.apply data request.name = .ok answer

/-- What is said about a request that cannot be understood.
The value is looked at first. -/
inductive IsMisunderstood (request : CheckRequest) : Text → Prop where
  | value {fault : Json.Fault} (noData : request.data = .error fault) :
      IsMisunderstood request
        ("Invalid JSON value: " ++ fault.message request.value.toList)
  | expression {data : Value} {error : Error} (isData : request.data = .ok data)
      (noCheck : request.check = .error error) : IsMisunderstood request error.message

/-- What ends the run of a request before its time. -/
inductive IsEndedBy (request : CheckRequest) : Failure → Prop where
  /-- An integer in the value has too many digits. -/
  | digits {count : Nat} (noData : request.data = .error (.tooManyDigits count)) :
      IsEndedBy request (.json (.tooManyDigits count))
  /-- A pattern of the expression is refused, but not for a rule that it breaks. -/
  | pattern {data : Value} {literal : Literal} {failure : Pattern.Failure}
      (isData : request.data = .ok data)
      (noCheck : request.check = .error (.compile (.badPattern literal failure)))
      (notMalformed : failure.isMalformed = false) :
      IsEndedBy request (.error (.compile (.badPattern literal failure)))
  /-- A search for a pattern of the expression in a text of the value has no outcome. -/
  | search {data : Value} {check : Check} {parsed : Parsed} {fault : Pattern.SearchFault}
      (isData : request.data = .ok data) (isCheck : request.check = .ok check)
      (stops : check.apply data request.name = .error (.search fault))
      (isParsed : parse request.expression
        (request.placeholders.map Value.text) = .ok parsed)
      (fails : SearchFails (Alternative.literalsOfAll parsed.alternatives) data fault) :
      IsEndedBy request (.error (.run (.search fault)))
  /-- The message that rejects the value holds a surrogate. -/
  | message {message : Text} (isDecided : request.IsDecided (some message))
      (hasSurrogate : message.HasSurrogate) : IsEndedBy request .unencodable

/-- Whether a report answers a request by its exit code and by what is written. -/
structure IsAnsweredBy (request : CheckRequest) (report : Report) : Prop where
  misuse_iff : report.exitCode = 2 ↔
    (∀ data, request.data ≠ .ok data) ∨ ∀ check, request.check ≠ .ok check
  misuse_text : report.exitCode = 2 → report.output = "" ∧
    ∃ text, request.IsMisunderstood text ∧
      report.errors = Report.shown (Report.lineText text) ∧
      (¬ text.HasSurrogate → report.errors = Report.lineText text)
  rejected_iff : report.exitCode = 1 ↔ ∃ message, request.IsDecided (some message)
  rejected_text : ∀ message, request.IsDecided (some message) → report.errors = "" ∧
    report.output = Report.lineText message ∧
    (.char '\x1b' ∉ message.toList → report.output = message ++ "\n")
  accepted_iff : report.exitCode = 0 ↔ request.IsDecided none
  accepted_text : request.IsDecided none → report.errors = "" ∧ report.output = "OK\n"

/-! ## Reading the arguments -/

/-- The name of the value is what follows the first equals sign. -/
theorem splitValue_nameOption (name : Text) :
    Arguments.splitValue ("--name=" ++ name) = (("--name" : Text), some name) := by
  have chars : ("--name=" ++ name).toList =
      Text.toList "--name" ++ .char '=' :: name.toList := by
    rw [Text.toList_append]
    rfl
  unfold Arguments.splitValue
  rw [chars]
  simp
  rfl

/-- The name is taken as the value of its option, and all
behind the double dash as it is. -/
theorem ofCommand_arguments (request : CheckRequest) :
    Arguments.ofCommand .check request.arguments.tail =
      .ok ⟨false, [("--name", request.name)],
        request.expression :: request.value :: request.placeholders⟩ := by
  have isOption : Arguments.isOption ("--name=" ++ request.name) = true := by
    unfold Arguments.isOption
    rw [Text.toList_append]
    rfl
  have isNoEnd : "--name=" ++ request.name ≠ "--" := by
    intro isEnd
    have lengths := congrArg Text.length isEnd
    rw [Text.length_append, show ("--name=" : Text).length = 7 from rfl,
      show ("--" : Text).length = 2 from rfl] at lengths
    omega
  simp only [arguments, List.tail_cons, Arguments.ofCommand]
  rw [Arguments.split, if_neg isNoEnd, if_pos isOption, splitValue_nameOption]
  rfl

/-- Both required arguments of a request are there, and it names no file. -/
theorem runCommand_check (files : Files) (request : CheckRequest) :
    CommandLine.runCommand files .check ⟨false, [("--name", request.name)],
        request.expression :: request.value :: request.placeholders⟩ =
      CommandLine.runCheck request.expression request.value request.placeholders
        request.name := by
  have inOrder : CommandLine.checkArguments files .check
      ⟨false, [("--name", request.name)],
      request.expression :: request.value :: request.placeholders⟩ = .ok () := by
    unfold CommandLine.checkArguments Arguments.missing?
    rw [List.length_cons, List.length_cons, Command.required, List.drop_succ_cons,
      List.drop_succ_cons, List.drop_nil]
    rfl
  unfold CommandLine.runCommand
  rw [inOrder]
  rfl

/-- The arguments of a request are those of a check. -/
theorem run_arguments (files : Files) (request : CheckRequest) :
    CommandLine.run files request.arguments =
      CommandLine.runCheck request.expression request.value request.placeholders
        request.name := by
  have isCheck : Command.ofName? "check" = some .check := by decide
  have isCalled :=
    CommandLine.run_command files rfl isCheck (ofCommand_arguments request) rfl
  exact isCalled.trans (runCommand_check files request)

/-! ## The three answers -/

/-- A request is decided in one way. -/
theorem IsDecided.unique {request : CheckRequest} {answer other : Option Text}
    (isDecided : request.IsDecided answer) (isDecidedToo : request.IsDecided other) :
    answer = other := by
  obtain ⟨data, check, isData, isCheck, answers⟩ := isDecided
  obtain ⟨_, _, isDataToo, isCheckToo, answersToo⟩ := isDecidedToo
  cases isData.symm.trans isDataToo
  cases isCheck.symm.trans isCheckToo
  cases answers.symm.trans answersToo
  rfl

/-- A request that ends the run is not decided, unless by a message with a surrogate. -/
theorem IsEndedBy.hasSurrogate_of_isDecided {request : CheckRequest} {failure : Failure}
    (isEnded : request.IsEndedBy failure) {answer : Option Text}
    (isDecided : request.IsDecided answer) :
    failure = .unencodable ∧ ∃ message, answer = some message ∧ message.HasSurrogate := by
  have ⟨data, check, isData, isCheck, answers⟩ := isDecided
  cases isEnded with
  | digits noData => cases noData.symm.trans isData
  | pattern _ noCheck => cases noCheck.symm.trans isCheck
  | search isDataToo isCheckToo stops =>
      cases isData.symm.trans isDataToo
      cases isCheck.symm.trans isCheckToo
      cases stops.symm.trans answers
  | @message message isDecidedToo hasSurrogate =>
      exact ⟨rfl, message, isDecided.unique isDecidedToo, hasSurrogate⟩

/-- What is no JSON ends the run only by the digits of an integer. -/
theorem IsEndedBy.exists_count {request : CheckRequest} {failure : Failure}
    (isEnded : request.IsEndedBy failure) {fault : Json.Fault}
    (noData : request.data = .error fault) : ∃ count, fault = .tooManyDigits count := by
  cases isEnded with
  | digits noDataToo =>
      cases noData.symm.trans noDataToo
      exact ⟨_, rfl⟩
  | pattern isData => cases noData.symm.trans isData
  | search isData => cases noData.symm.trans isData
  | message isDecided =>
      obtain ⟨_, _, isData, -⟩ := isDecided
      cases noData.symm.trans isData

/-- What is no expression ends the run only by a pattern that breaks no rule. -/
theorem IsEndedBy.exists_pattern {request : CheckRequest} {failure : Failure}
    (isEnded : request.IsEndedBy failure) {data : Value} {error : Error}
    (isData : request.data = .ok data) (noCheck : request.check = .error error) :
    ∃ literal cause, error = .compile (.badPattern literal cause) ∧
      cause.isMalformed = false := by
  cases isEnded with
  | digits noData => cases noData.symm.trans isData
  | pattern _ noCheckToo notMalformed =>
      cases noCheck.symm.trans noCheckToo
      exact ⟨_, _, rfl, notMalformed⟩
  | search _ isCheck => cases noCheck.symm.trans isCheck
  | message isDecided =>
      obtain ⟨_, _, -, isCheck, -⟩ := isDecided
      cases noCheck.symm.trans isCheck

/-- A run ends for one cause. -/
theorem IsEndedBy.unique {request : CheckRequest} {failure other : Failure}
    (isEnded : request.IsEndedBy failure) (isEndedToo : request.IsEndedBy other) :
    failure = other := by
  cases isEnded with
  | message isDecided => exact (isEndedToo.hasSurrogate_of_isDecided isDecided).1.symm
  | digits noData =>
      cases isEndedToo with
      | digits noDataToo =>
          cases noData.symm.trans noDataToo
          rfl
      | pattern isData => cases noData.symm.trans isData
      | search isData => cases noData.symm.trans isData
      | message isDecided =>
          exact ((IsEndedBy.digits noData).hasSurrogate_of_isDecided isDecided).1
  | pattern isData noCheck notMalformed =>
      cases isEndedToo with
      | digits noData => cases noData.symm.trans isData
      | pattern _ noCheckToo =>
          cases noCheck.symm.trans noCheckToo
          rfl
      | search _ isCheck => cases noCheck.symm.trans isCheck
      | message isDecided =>
          have ends := IsEndedBy.pattern isData noCheck notMalformed
          exact (ends.hasSurrogate_of_isDecided isDecided).1
  | search isData isCheck stops isParsed fails =>
      cases isEndedToo with
      | digits noData => cases noData.symm.trans isData
      | pattern _ noCheck => cases noCheck.symm.trans isCheck
      | search isDataToo isCheckToo stopsToo =>
          cases isData.symm.trans isDataToo
          cases isCheck.symm.trans isCheckToo
          cases stops.symm.trans stopsToo
          rfl
      | message isDecided =>
          have ends := IsEndedBy.search isData isCheck stops isParsed fails
          exact (ends.hasSurrogate_of_isDecided isDecided).1

/-- What cannot be understood is no value, or no expression. -/
theorem exists_isMisunderstood_iff {request : CheckRequest} :
    (∃ text, request.IsMisunderstood text) ↔
      (∀ data, request.data ≠ .ok data) ∨ ∀ check, request.check ≠ .ok check := by
  constructor
  · rintro ⟨text, noData | ⟨-, noCheck⟩⟩
    · refine .inl fun data isData => ?_
      cases noData.symm.trans isData
    · refine .inr fun check isCheck => ?_
      cases noCheck.symm.trans isCheck
  · intro notUnderstood
    cases isData : request.data with
    | error fault => exact ⟨_, .value isData⟩
    | ok data =>
        cases isCheck : request.check with
        | error error => exact ⟨_, .expression isData isCheck⟩
        | ok check =>
            obtain noData | noCheck := notUnderstood
            · exact absurd isData (noData data)
            · exact absurd isCheck (noCheck check)

/-- What the run of a request reports. -/
inductive HasReport (request : CheckRequest) : Report → Prop where
  | misunderstood {text : Text} (isMisunderstood : request.IsMisunderstood text)
      (notEnded : ∀ failure, ¬ request.IsEndedBy failure) :
      HasReport request ((Report.start.complain text).exit CommandLine.misuseCode)
  | rejected {message : Text} (isDecided : request.IsDecided (some message))
      (isEncodable : ¬ message.HasSurrogate) :
      HasReport request ((Report.start.print message).exit CommandLine.rejectedCode)
  | accepted (isDecided : request.IsDecided none) :
      HasReport request (Report.start.print "OK")
  | ended {failure : Failure} (isEnded : request.IsEndedBy failure) :
      HasReport request (Report.start.fail failure)

/-- What stops a check on a value that a JSON text writes is a search. -/
theorem isEndedBy_of_apply {request : CheckRequest} {data : Value} {check : Check}
    {fault : RunFault} (isData : request.data = .ok data)
    (isCheck : request.check = .ok check)
    (stops : check.apply data request.name = .error fault) :
    request.IsEndedBy (.error (.run fault)) := by
  obtain ⟨parsed, isParsed, compiled⟩ := Outcome.bind_eq_ok_iff.mp isCheck
  rw [Outcome.mapError_eq_ok_iff] at isParsed compiled
  have ran := Outcome.map_eq_error_iff.mp stops
  cases Check.compileGroup_hasCauses compiled data request.name fault ran with
  | unshown isLong =>
      rw [Json.isWritable_of_read isData] at isLong
      cases isLong
  | search fails => exact .search isData isCheck stops isParsed fails

/-- Each step of a run leads to one of the reports. -/
theorem hasReport (request : CheckRequest) :
    request.HasReport (CommandLine.runCheck request.expression request.value
      request.placeholders request.name) := by
  unfold CommandLine.runCheck
  dsimp only
  rw [CheckCache.getText_empty, ← data, ← check]
  cases isData : request.data with
  | error fault =>
      cases fault with
      | tooManyDigits count => exact .ended (.digits isData)
      | malformed problem position =>
          refine .misunderstood (.value isData) fun failure isEnded => ?_
          obtain ⟨_, ⟨⟩⟩ := isEnded.exists_count isData
  | ok data =>
      cases isCheck : request.check with
      | error error =>
          dsimp only [Except.map]
          have cause := Check.isOfExpression_iff isCheck
          split
          · rename_i isOfExpression
            refine .misunderstood (.expression isData isCheck) fun failure isEnded => ?_
            have notOfExpression := cause.mpr (isEnded.exists_pattern isData isCheck)
            exact absurd isOfExpression (Bool.eq_false_iff.mp notOfExpression)
          · rename_i notOfExpression
            obtain ⟨literal, failure, rfl, notMalformed⟩ :=
              cause.mp (Bool.eq_false_iff.mpr notOfExpression)
            exact .ended (.pattern isData isCheck notMalformed)
      | ok check =>
          dsimp only [Except.map]
          cases answers : check.apply data request.name with
          | error fault => exact .ended (isEndedBy_of_apply isData isCheck answers)
          | ok answer =>
              cases answer with
              | some message =>
                  have isDecided : request.IsDecided (some message) :=
                    ⟨data, check, isData, isCheck, answers⟩
                  by_cases hasSurrogate : message.HasSurrogate
                  · dsimp only
                    rw [Report.print_of_hasSurrogate _ hasSurrogate]
                    exact .ended (.message isDecided hasSurrogate)
                  · exact .rejected isDecided hasSurrogate
              | none => exact .accepted ⟨data, check, isData, isCheck, answers⟩

/-- A run that ends before its time reports nothing but what ended it. -/
theorem HasReport.eq_of_isEndedBy {request : CheckRequest} {report : Report}
    (hasReport : request.HasReport report) {failure : Failure}
    (isEnded : request.IsEndedBy failure) : report = Report.start.fail failure := by
  cases hasReport with
  | misunderstood _ notEnded => exact absurd isEnded (notEnded failure)
  | rejected isDecided isEncodable =>
      obtain ⟨-, _, ⟨⟩, hasSurrogate⟩ := isEnded.hasSurrogate_of_isDecided isDecided
      exact absurd hasSurrogate isEncodable
  | accepted isDecided =>
      obtain ⟨-, _, ⟨⟩, -⟩ := isEnded.hasSurrogate_of_isDecided isDecided
  | ended isEndedToo =>
      cases isEnded.unique isEndedToo
      rfl

theorem IsMisunderstood.not_isDecided {request : CheckRequest} {text : Text}
    (isMisunderstood : request.IsMisunderstood text) (answer : Option Text) :
    ¬ request.IsDecided answer := by
  rintro ⟨data, check, isData, isCheck, -⟩
  cases isMisunderstood with
  | value noData => cases noData.symm.trans isData
  | expression _ noCheck => cases noCheck.symm.trans isCheck

/-- A run that does not end before its time answers the request. -/
theorem HasReport.isAnsweredBy {request : CheckRequest} {report : Report}
    (hasReport : request.HasReport report)
    (notEnded : ∀ failure, ¬ request.IsEndedBy failure) :
    report.failure = none ∧ request.IsAnsweredBy report := by
  have notUnderstood := @exists_isMisunderstood_iff request
  cases hasReport with
  | @misunderstood text isMisunderstood =>
      have notDecided := isMisunderstood.not_isDecided
      have written : ((Report.start.complain text).exit CommandLine.misuseCode).errors =
          Report.shown (Report.lineText text) := String.empty_append
      exact ⟨rfl, {
        misuse_iff := ⟨fun _ => notUnderstood.mp ⟨text, isMisunderstood⟩, fun _ => rfl⟩
        misuse_text := fun _ => ⟨rfl, text, isMisunderstood, written,
          fun isEncodable => written ▸ Report.shown_lineText isEncodable⟩
        rejected_iff := ⟨nofun, fun ⟨_, isDecided⟩ => absurd isDecided (notDecided _)⟩
        rejected_text := fun _ isDecided => absurd isDecided (notDecided _)
        accepted_iff := ⟨nofun, fun isDecided => absurd isDecided (notDecided _)⟩
        accepted_text := fun isDecided => absurd isDecided (notDecided _) }⟩
  | @rejected message isDecided isEncodable =>
      obtain ⟨line, isLine⟩ := Report.exists_lineText isEncodable
      rw [Report.print_of_lineText _ isLine]
      have isUnderstood : ¬ ∃ text, request.IsMisunderstood text :=
        fun ⟨_, isMisunderstood⟩ => isMisunderstood.not_isDecided _ isDecided
      have notAccepted : ¬ request.IsDecided none :=
        fun isAccepted => nomatch isDecided.unique isAccepted
      refine ⟨rfl, {
        misuse_iff := ⟨nofun, fun not => absurd (notUnderstood.mpr not) isUnderstood⟩
        misuse_text := nofun
        rejected_iff := ⟨fun _ => ⟨message, isDecided⟩, fun _ => rfl⟩
        rejected_text := ?_
        accepted_iff := ⟨nofun, fun isAccepted => absurd isAccepted notAccepted⟩
        accepted_text := fun isAccepted => absurd isAccepted notAccepted }⟩
      intro other isRejected
      cases isDecided.unique isRejected
      have output : Text.ofString ("" ++ line) = Report.lineText message := by
        rw [String.empty_append, isLine]
      exact ⟨rfl, output, fun noEscape =>
        output.trans (Report.lineText_of_not_mem noEscape)⟩
  | accepted isDecided =>
      have isUnderstood : ¬ ∃ text, request.IsMisunderstood text :=
        fun ⟨_, isMisunderstood⟩ => isMisunderstood.not_isDecided _ isDecided
      have notRejected (message : Text) : ¬ request.IsDecided (some message) :=
        fun isRejected => nomatch isDecided.unique isRejected
      exact ⟨rfl, {
        misuse_iff := ⟨nofun, fun not => absurd (notUnderstood.mpr not) isUnderstood⟩
        misuse_text := nofun
        rejected_iff := ⟨nofun, fun ⟨message, isRejected⟩ =>
          absurd isRejected (notRejected message)⟩
        rejected_text := fun message isRejected => absurd isRejected (notRejected message)
        accepted_iff := ⟨fun _ => isDecided, fun _ => rfl⟩
        accepted_text := fun _ => ⟨rfl, by decide +kernel⟩ }⟩
  | ended isEnded => exact absurd isEnded (notEnded _)

/-- The message shows a surrogate of the value, so that it cannot be written. -/
example :
    let request := CheckRequest.mk "x" "num" "\"\\ud800\"" []
    ((CommandLine.run ⟨[]⟩ request.arguments).failure matches some .unencodable) =
      true := by
  decide +kernel

end CheckRequest
end KindExpr
