import KindExpr.Proofs.Cache.Run
import KindExpr.Session.Basic

/-!
# Runs of a session

A run takes a session through any operations in any order, those on its shared cache
included. What can be observed of a run is what its operations answer, one after the
other. The answers of a run in two parts are those of the first part, and those of the
second part in the session that the first one leaves.
-/

namespace KindExpr

/-- Where settings come from. -/
inductive SettingsSource where
  | given (settings : Settings)
  | environment (environment : Environment)
  deriving Repr, DecidableEq

/-- The settings that a source gives. -/
def SettingsSource.settings : SettingsSource → Except Error Settings
  | .given own => .ok own
  | .environment found => (Settings.ofEnvironment found).mapError .settings

/-- An operation on a session. -/
inductive SessionStep where
  | configure (source : SettingsSource) (files : Files)
  | setEnabled (flag : Value)
  | isEnabled
  | assertType (value type name : Value) (placeholders : List Value)
  | validate (value type name : Value) (placeholders : List Value)
  | isType (value type : Value) (placeholders : List Value)
  | evaluate (value : Value) (spec : TypeSpec) (name : Text)
  | evaluateUnclassified (spec : Value)
  /-- An operation on the shared cache. -/
  | cache (step : CacheStep)

/-- What an operation answers. -/
inductive SessionAnswer where
  | configured (outcome : Except Error Unit)
  | switched
  | enabled (isEnabled : Bool)
  | asserted (outcome : Except Error Value)
  | verdict (outcome : Session.Verdict)
  | matched (outcome : Except Error Bool)
  | cache (answer : CacheAnswer)

namespace Session

/-- Start again with the settings that a source gives. -/
def configureBy (session : Session) (files : Files) :
    SettingsSource → Except Error Unit × Session
  | .given settings => session.configure settings files
  | .environment environment => session.configureFrom environment files

/-- The answer of an operation, and the session after it. -/
def perform (session : Session) : SessionStep → SessionAnswer × Session
  | .configure source files => (session.configureBy files source).map .configured id
  | .setEnabled flag => (.switched, session.setEnabled flag)
  | .isEnabled => (.enabled session.enabled, session)
  | .assertType value type name placeholders =>
      (session.assertType value type name placeholders).map .asserted id
  | .validate value type name placeholders =>
      (session.validate value type name placeholders).map .verdict id
  | .isType value type placeholders =>
      (session.isType value type placeholders).map .matched id
  | .evaluate value spec name => (session.evaluate value name spec).map .verdict id
  | .evaluateUnclassified spec => (session.evaluateUnclassified spec).map .verdict id
  | .cache step =>
      (session.cache.perform step).map .cache fun after => { session with cache := after }

/-- The session after some operations. -/
def afterRun (session : Session) (steps : List SessionStep) : Session :=
  steps.foldl (fun current step => (current.perform step).2) session

/-- The answers of some operations. -/
def answers (session : Session) : List SessionStep → List SessionAnswer
  | [] => []
  | step :: rest => (session.perform step).1 :: (session.perform step).2.answers rest

@[simp] theorem afterRun_nil (session : Session) : session.afterRun [] = session := rfl

@[simp] theorem afterRun_cons (session : Session) (step : SessionStep)
    (rest : List SessionStep) :
    session.afterRun (step :: rest) = (session.perform step).2.afterRun rest := rfl

@[simp] theorem answers_nil (session : Session) : session.answers [] = [] := rfl

@[simp] theorem answers_cons (session : Session) (step : SessionStep)
    (rest : List SessionStep) :
    session.answers (step :: rest) =
      (session.perform step).1 :: (session.perform step).2.answers rest := rfl

/-- What a session answers in the second part of a run depends on the first part only
through the session that is left by it. -/
theorem answers_append (session : Session) (earlier later : List SessionStep) :
    session.answers (earlier ++ later) =
      session.answers earlier ++ (session.afterRun earlier).answers later := by
  induction earlier generalizing session with
  | nil => rfl
  | cons step rest inductionHypothesis =>
      rw [List.cons_append, answers_cons, answers_cons, afterRun_cons,
        inductionHypothesis, List.cons_append]

end Session
end KindExpr
