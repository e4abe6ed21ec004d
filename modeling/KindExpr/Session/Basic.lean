import KindExpr.Cache.Basic
import KindExpr.Session.TypeSpec

/-!
# Sessions

A session has a cache that all checks share, and a switch that turns assertions
off. Every operation gives its outcome and the session after it.

`Session.evaluate` goes through the parts of a type argument until one rejects
the value; the parts after it are not looked at. `Session.configure` replaces
switch and cache together, or leaves both as they are.
-/

namespace KindExpr

/-- The state of a session. -/
structure Session where
  /-- Whether assertions are checked. -/
  enabled : Bool
  cache : CheckCache
  /-- What the functions answer that are known by their names only. -/
  functions : Functions

namespace Session

/-- The session that some settings describe, with the
expressions of their file registered. -/
def ofSettings (functions : Functions) (settings : Settings) (files : Files) :
    Except Error Session := do
  let cache ← CheckCache.ofSize? .standard settings.cacheSize
  match settings.preload with
  | none => return ⟨settings.enabled, cache, functions⟩
  | some path =>
      match cache.preload files path with
      | (.ok _, loaded) => return ⟨settings.enabled, loaded, functions⟩
      | (.error error, _) => throw error

/-- The session at the start. -/
def start : Session where
  enabled := true
  cache := .empty .standard (some Settings.defaultCacheSize.toNat)
  functions := fun _ _ => .ok true

/-- Start again with some settings. When this fails the session goes on as it was. -/
def configure (session : Session) (settings : Settings) (files : Files) :
    Except Error Unit × Session :=
  match ofSettings session.functions settings files with
  | .ok fresh => (.ok (), fresh)
  | .error error => (.error error, session)

/-- Start again with the settings of an environment. -/
def configureFrom (session : Session) (environment : Environment) (files : Files) :
    Except Error Unit × Session :=
  match Settings.ofEnvironment environment with
  | .ok settings => session.configure settings files
  | .error fault => (.error (.settings fault), session)

/-- Turn assertions on or off. -/
def setEnabled (session : Session) (flag : Value) : Session :=
  { session with enabled := flag.truth }

/-- The outcome of checking a value: nothing, or the message of a rejection. -/
abbrev Verdict := Except Error (Option Text)

/-- The verdict of a test with one reason. -/
def verdict (passes : Bool) (value : Value) (name reason : Text) : Verdict :=
  if passes then .ok none
  else
    match rejection? value name reason with
    | some message => .ok (some message)
    | none => .error .unwritable

/-- Check a value against an expression. -/
def evaluateExpression (session : Session) (value : Value) (text : Text)
    (placeholders : List Value) (name : Text) : Verdict × Session :=
  let (found, cache) := session.cache.getText text placeholders
  let outcome :=
    match found with
    | .ok compiled => (compiled.check.apply value name).mapError Error.run
    | .error error => .error error
  (outcome, { session with cache })

mutual

/-- Check a value against a classified type argument. -/
def evaluate (session : Session) (value : Value) (name : Text) :
    TypeSpec → Verdict × Session
  | .expression text placeholders =>
      session.evaluateExpression value text placeholders name
  | .all specs => evaluateAll session value name specs
  | .fixed passes => (verdict passes value name generalReason, session)
  | .inst cls =>
      (verdict (value.isInstance cls) value name
        ("Expected instance of " ++ cls.name), session)
  | .condition condition =>
      match condition.holds session.functions value with
      | .ok passes => (verdict passes value name generalReason, session)
      | .error fault => (.error (.call fault), session)

/-- Check a value against type arguments in order until one rejects it. -/
def evaluateAll (session : Session) (value : Value) (name : Text) :
    List TypeSpec → Verdict × Session
  | [] => (.ok none, session)
  | spec :: rest =>
      match evaluate session value name spec with
      | (.ok none, after) => evaluateAll after value name rest
      | (other, after) => (other, after)

end

/-- Check a value against a type argument. -/
def check (session : Session) (value type : Value) (placeholders : List Value)
    (name : Text) :
    Verdict × Session :=
  match TypeSpec.ofValue placeholders type with
  | .ok spec => session.evaluate value name spec
  | .error error => (.error error, session)

/-- An error that shows a value, if the value can be shown. -/
def errorShowing (value : Value) (error : Text → Error) : Error :=
  match value.display? with
  | some shown => error shown
  | none => .unwritable

/-- The name of a value, which is a text that is not empty. -/
def checkName (name : Value) : Except Error Text :=
  match name.text? with
  | some text => if text.isEmpty then .error (errorShowing name .valueName) else .ok text
  | none => .error (errorShowing name .valueName)

/-- Check a value under a name, and give the message of a rejection. -/
def validate (session : Session) (value type : Value) (name : Value)
    (placeholders : List Value) :
    Verdict × Session :=
  match checkName name with
  | .ok text => session.check value type placeholders text
  | .error error => (.error error, session)

/-- Whether a value matches a type argument. -/
def isType (session : Session) (value type : Value) (placeholders : List Value) :
    Except Error Bool × Session :=
  let (outcome, after) := session.check value type placeholders ""
  (outcome.map Option.isNone, after)

/-- Assert that a value matches a type argument, and give it back. While
assertions are off every value is given back. -/
def assertType (session : Session) (value type : Value) (name : Value)
    (placeholders : List Value) : Except Error Value × Session :=
  if !session.enabled then (.ok value, session)
  else
    match session.validate value type name placeholders with
    | (.ok none, after) => (.ok value, after)
    | (.ok (some message), after) =>
        (.error (.rejected message ((name.text?).getD "")), after)
    | (.error error, after) => (.error error, after)

/-- Check a value against a value that was not classified. -/
def evaluateUnclassified (session : Session) (spec : Value) : Verdict × Session :=
  (.error (errorShowing spec .unclassified), session)

end Session
end KindExpr
