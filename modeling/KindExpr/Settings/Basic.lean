import KindExpr.Number.Numeral
import KindExpr.Settings.Files
import KindExpr.Text.Quoted

/-!
# Settings

Whether values are checked at all, how many compiled checks are remembered and which
file of expressions is compiled at the start. The environment can set each of the three.
-/

namespace KindExpr

/-- The settings of a session. -/
structure Settings where
  enabled : Bool
  /-- How many checks that are not pinned are remembered; absent for no bound. -/
  cacheSize : Option Int
  /-- The file of expressions to compile at the start. -/
  preload : Option Text
  deriving Repr, DecidableEq

/-- The environment variables that are looked at. -/
structure Environment where
  enabled : Option Text
  cacheSize : Option Text
  preload : Option Text
  deriving Repr, DecidableEq

/-- The causes for which an environment gives no settings. -/
inductive SettingsFault where
  | cacheSizeNoInteger (written : Text)
  | cacheSizeNegative (written : Text)
  deriving Repr, DecidableEq

/-- The message of a fault. -/
def SettingsFault.message : SettingsFault → Text
  | cacheSizeNoInteger written =>
      "TYPEXPR_CACHE_SIZE must be an integer, got " ++ Text.quote written
  | cacheSizeNegative written =>
      "TYPEXPR_CACHE_SIZE must not be negative, got " ++ Text.quote written

namespace Settings

/-- The number of remembered checks when nothing else is said. -/
def defaultCacheSize : Int := 1024

/-- The settings when nothing is said. -/
def standard : Settings := ⟨true, some defaultCacheSize, none⟩

/-- The words that disable checks. -/
def falseWords : List Text := ["0", "false", "no", "off"]

/-- The words that ask for an unbounded cache. -/
def unboundedWords : List Text := ["0", "none", "unbounded"]

/-- Trim a text and write its capitals small. -/
def normalized (text : Text) : Text :=
  Text.ofList (Text.lowerAscii (Text.trim text.toList))

/-- Whether a text enables checks: every text does but the words for false. -/
def readEnabled (written : Text) : Bool :=
  !falseWords.contains (normalized written)

/-- Read a cache size. -/
def readCacheSize (written : Text) : Except SettingsFault (Option Int) :=
  if unboundedWords.contains (normalized written) then .ok none
  else
    match Numeral.integer? (normalized written).toList with
    | none => .error (.cacheSizeNoInteger written)
    | some size =>
        if size < 0 then .error (.cacheSizeNegative written) else .ok (some size)

/-- Read the settings from an environment. An empty cache size or
file name counts as absent. -/
def ofEnvironment (environment : Environment) : Except SettingsFault Settings := do
  let enabled := (environment.enabled.map readEnabled).getD true
  let cacheSize ←
    match environment.cacheSize with
    | none => .ok standard.cacheSize
    | some written =>
        if written.isEmpty then .ok standard.cacheSize else readCacheSize written
  let preload :=
    match environment.preload with
    | none => none
    | some written => if written.isEmpty then none else some (FilePath.normalize written)
  return ⟨enabled, cacheSize, preload⟩

end Settings
end KindExpr
