import KindExpr.Proofs.Cache.Entries
import KindExpr.Proofs.Cache.Recency
import KindExpr.Proofs.Session.Run

/-!
# Configuring a session changes everything or nothing

Settings can be applied to a session if the size of the cache is positive, the file of
expressions can be read, and each of its expressions compiles. Then the session is a new
one: the switch is as the settings say, and the cache has the expressions of the file
and nothing else. Otherwise the session goes on as it was, although some expressions of
the file may have been compiled before the one that failed.

The loop that registers the expressions keeps an invariant on
the cache it fills, `IsLoaded`.
-/

namespace KindExpr

namespace CheckCache

/-! ## Filling a cache -/

/-- Whether a cache holds the checks of some keys, all of
them pinned, and was not used. -/
structure IsLoaded (capacity : Option Nat) (keys : List CacheKey)
    (cache : CheckCache) : Prop where
  aliases_eq : cache.aliases = .standard
  capacity_eq : cache.capacity = capacity
  recent_eq : cache.recent = []
  hits_eq : cache.hits = 0
  misses_eq : cache.misses = 0
  evictions_eq : cache.evictions = 0
  nodup_pinned : (cache.pinned.map Prod.fst).Nodup
  mem_pinned_iff : ∀ key, key ∈ cache.pinned.map Prod.fst ↔ key ∈ keys

namespace IsLoaded

variable {capacity : Option Nat} {keys : List CacheKey} {cache : CheckCache}

theorem empty (capacity : Option Nat) :
    IsLoaded capacity [] (CheckCache.empty .standard capacity) where
  aliases_eq := rfl
  capacity_eq := rfl
  recent_eq := rfl
  hits_eq := rfl
  misses_eq := rfl
  evictions_eq := rfl
  nodup_pinned := List.nodup_nil
  mem_pinned_iff _ := Iff.rfl

/-- Pinning a check under a key adds the key. -/
theorem pin (isLoaded : IsLoaded capacity keys cache) (key : CacheKey)
    (check : CompiledCheck)
    (compilations : Nat) :
    IsLoaded capacity (keys ++ [key])
      (CheckCache.pin { cache with compilations := compilations } key check) := by
  refine { isLoaded with recent_eq := ?_, nodup_pinned := ?_, mem_pinned_iff := ?_ }
  · unfold CheckCache.pin
    dsimp only
    rw [isLoaded.recent_eq]
    rfl
  · unfold CheckCache.pin
    rw [CheckTable.map_fst_put, List.nodup_cons]
    exact ⟨by simp, isLoaded.nodup_pinned.filter _⟩
  · intro other
    unfold CheckCache.pin
    rw [CheckTable.map_fst_put, List.mem_cons, List.mem_filter, isLoaded.mem_pinned_iff,
      List.mem_append, List.mem_singleton]
    by_cases isKey : other = key
    · simp [isKey]
    · simp [isKey]

/-- Registering an entry succeeds if it compiles, and adds its key. -/
theorem register (isLoaded : IsLoaded capacity keys cache) (entry : PreloadEntry) :
    (∃ error after, cache.register (.text entry.expression) entry.values =
      (.error error, after) ∧
      ¬ entry.Compiles .standard) ∨
    ∃ found after, cache.register (.text entry.expression) entry.values =
      (.ok found, after) ∧
      entry.Compiles .standard ∧ IsLoaded capacity (keys ++ [entry.key]) after := by
  unfold CheckCache.register
  rw [PreloadEntry.compileKeyed_eq, isLoaded.aliases_eq]
  cases compiled : Check.ofExpression .standard entry.expression entry.values with
  | error error =>
      refine .inl ⟨error, cache, rfl, ?_⟩
      rintro ⟨check, compiles⟩
      rw [compiled] at compiles
      cases compiles
  | ok check => exact .inr ⟨_, _, rfl, ⟨check, compiled⟩, isLoaded.pin entry.key _ _⟩

/-- Registering the entries of a list succeeds if all of them
compile, and adds their keys. -/
theorem registerAll (isLoaded : IsLoaded capacity keys cache)
    (entries : List PreloadEntry) :
    (∃ error after, cache.registerAll entries = (.error error, after) ∧
      ¬ ∀ entry ∈ entries, entry.Compiles .standard) ∨
    ∃ after, cache.registerAll entries = (.ok (), after) ∧
      (∀ entry ∈ entries, entry.Compiles .standard) ∧
      IsLoaded capacity (keys ++ entries.map PreloadEntry.key) after := by
  induction entries generalizing cache keys with
  | nil =>
      refine .inr ⟨cache, rfl, by simp, ?_⟩
      simpa using isLoaded
  | cons entry rest inductionHypothesis =>
      unfold CheckCache.registerAll
      rw [← PreloadEntry.values]
      obtain ⟨error, after, failed, notCompiles⟩ |
          ⟨found, next, registered, compiles, isLoaded⟩ :=
        isLoaded.register entry
      · rw [failed]
        exact .inl ⟨error, after, rfl, fun all =>
          notCompiles (all entry List.mem_cons_self)⟩
      · rw [registered]
        obtain ⟨error, after, failed, notAll⟩ | ⟨after, succeeded, all, isLoaded⟩ :=
          inductionHypothesis isLoaded
        · refine .inl ⟨error, after, failed, fun all => notAll ?_⟩
          intro other isLater
          exact all other (List.mem_cons_of_mem _ isLater)
        · refine .inr ⟨after, succeeded, List.forall_mem_cons.mpr ⟨compiles, all⟩, ?_⟩
          simpa using isLoaded

/-- Loading a file succeeds if it can be read and all its entries
compile, and adds their keys. -/
theorem preload (isLoaded : IsLoaded capacity keys cache) (files : Files) (path : Text) :
    (∃ error after, cache.preload files path = (.error error, after) ∧
      ∀ entries, PreloadEntry.ofFile files path = .ok entries →
        ¬ ∀ entry ∈ entries, entry.Compiles .standard) ∨
    ∃ entries count after, cache.preload files path = (.ok count, after) ∧
      PreloadEntry.ofFile files path = .ok entries ∧
      (∀ entry ∈ entries, entry.Compiles .standard) ∧
      IsLoaded capacity (keys ++ entries.map PreloadEntry.key) after := by
  unfold CheckCache.preload
  cases PreloadEntry.ofFile files path with
  | error fault => exact .inl ⟨_, _, rfl, fun entries isRead => nomatch isRead⟩
  | ok entries =>
      obtain ⟨error, after, failed, notAll⟩ | ⟨after, registered, all, isLoaded⟩ :=
        isLoaded.registerAll entries
      · refine .inl ⟨error, after, by simp only [failed, Except.map],
          fun others isRead => ?_⟩
        cases isRead
        exact notAll
      · refine .inr ⟨entries, entries.length, after, ?_, rfl, all, isLoaded⟩
        simp only [registered, Except.map]

end IsLoaded
end CheckCache

/-! ## Settings that can be applied -/

namespace Settings

/-- The entries of the file that settings name. There are none if they name no file. -/
def entries (settings : Settings) (files : Files) :
    Except PreloadFault (List PreloadEntry) :=
  match settings.preload with
  | none => .ok []
  | some path => PreloadEntry.ofFile files path

/-- How many checks settings allow that are not pinned. -/
def capacity (settings : Settings) : Option Nat :=
  settings.cacheSize.map Int.toNat

/-- Whether settings can be applied, with some entries to register. -/
structure IsApplicable (settings : Settings) (files : Files)
    (entries : List PreloadEntry) :
    Prop where
  isPositive : ∀ size ∈ settings.cacheSize, 1 ≤ size
  isRead : settings.entries files = .ok entries
  compile : ∀ entry ∈ entries, entry.Compiles .standard

end Settings

/-- A cache has a positive size or none. -/
theorem CheckCache.ofSize_cases (aliases : AliasTable) (size : Option Int) :
    (∃ error, ofSize? aliases size = .error error ∧ ¬ ∀ bound ∈ size, 1 ≤ bound) ∨
      ofSize? aliases size = .ok (CheckCache.empty aliases (size.map Int.toNat)) ∧
        ∀ bound ∈ size, 1 ≤ bound := by
  cases size with
  | none => exact .inr ⟨rfl, fun bound isBound => nomatch isBound⟩
  | some bound =>
      unfold ofSize?
      by_cases isSmall : bound < 1
      · refine .inl ⟨_, if_pos isSmall, fun positive => ?_⟩
        have := positive bound rfl
        omega
      · refine .inr ⟨if_neg isSmall, fun other isBound => ?_⟩
        cases isBound
        omega

namespace Session

/-- Settings give a session if they can be applied, and then one whose cache holds the
entries of their file. -/
theorem ofSettings_cases (functions : Functions) (settings : Settings) (files : Files) :
    (∃ error, ofSettings functions settings files = .error error ∧
      ¬ ∃ entries, settings.IsApplicable files entries) ∨
    ∃ entries cache,
      ofSettings functions settings files = .ok ⟨settings.enabled, cache, functions⟩ ∧
      settings.IsApplicable files entries ∧
      cache.IsLoaded settings.capacity (entries.map PreloadEntry.key) := by
  unfold ofSettings
  obtain ⟨error, failed, notPositive⟩ | ⟨created, isPositive⟩ :=
    CheckCache.ofSize_cases .standard settings.cacheSize
  · rw [failed]
    refine .inl ⟨error, rfl, ?_⟩
    rintro ⟨entries, isApplicable⟩
    exact notPositive isApplicable.isPositive
  · rw [created, Outcome.ok_bind]
    have isEmpty := CheckCache.IsLoaded.empty settings.capacity
    cases named : settings.preload with
    | none =>
        refine .inr ⟨[], _, rfl,
          ⟨isPositive, ?_, fun entry isMember => nomatch isMember⟩, isEmpty⟩
        rw [Settings.entries, named]
    | some path =>
        have entries_eq : settings.entries files = PreloadEntry.ofFile files path := by
          rw [Settings.entries, named]
        rw [← Settings.capacity]
        obtain ⟨error, after, failed, notAll⟩ |
            ⟨entries, count, after, succeeded, isRead, all,
          isLoaded⟩ := isEmpty.preload files path
        · refine .inl ⟨error, by simp only [failed]; rfl, ?_⟩
          rintro ⟨entries, isApplicable⟩
          exact notAll entries (entries_eq ▸ isApplicable.isRead) isApplicable.compile
        · refine .inr ⟨entries, after, by simp only [succeeded]; rfl, ?_, isLoaded⟩
          exact ⟨isPositive, entries_eq.trans isRead, all⟩

end Session

/-! ## All or nothing -/

/-- Whether a source gives settings that can be applied. -/
def SettingsSource.IsApplicable (source : SettingsSource) (files : Files) : Prop :=
  ∃ settings entries, source.settings = .ok settings ∧ settings.IsApplicable files entries

namespace Session

/-- Settings that cannot be applied leave a session as it is. -/
theorem configure_cases (session : Session) (settings : Settings) (files : Files) :
    (∃ error, session.configure settings files = (.error error, session) ∧
      ¬ ∃ entries, settings.IsApplicable files entries) ∨
    ∃ entries cache,
      session.configure settings files =
        (.ok (), ⟨settings.enabled, cache, session.functions⟩) ∧
      settings.IsApplicable files entries ∧
      cache.IsLoaded settings.capacity (entries.map PreloadEntry.key) := by
  unfold configure
  obtain ⟨error, failed, notApplicable⟩ |
      ⟨entries, cache, succeeded, isApplicable, isLoaded⟩ :=
    ofSettings_cases session.functions settings files
  · rw [failed]
    exact .inl ⟨error, rfl, notApplicable⟩
  · rw [succeeded]
    exact .inr ⟨entries, cache, rfl, isApplicable, isLoaded⟩

/-- Whatever settings come from, they are read first. -/
theorem configureBy_eq (session : Session) (source : SettingsSource) (files : Files) :
    session.configureBy files source =
      match source.settings with
      | .error error => (.error error, session)
      | .ok settings => session.configure settings files := by
  cases source with
  | given own => rfl
  | environment found =>
      simp only [configureBy, configureFrom, SettingsSource.settings]
      cases Settings.ofEnvironment found with
      | error cause => rfl
      | ok settings => rfl

/-- A source whose settings cannot be read or applied leaves a session as it is. -/
theorem configureBy_cases (session : Session) (source : SettingsSource) (files : Files) :
    (∃ error, session.configureBy files source = (.error error, session) ∧
      ¬ source.IsApplicable files) ∨
    ∃ settings entries cache,
      session.configureBy files source =
        (.ok (), ⟨settings.enabled, cache, session.functions⟩) ∧
      source.settings = .ok settings ∧ settings.IsApplicable files entries ∧
      cache.IsLoaded settings.capacity (entries.map PreloadEntry.key) := by
  rw [configureBy_eq, SettingsSource.IsApplicable]
  cases source.settings with
  | error error =>
      refine .inl ⟨error, rfl, ?_⟩
      rintro ⟨settings, entries, isRead, -⟩
      cases isRead
  | ok settings =>
      obtain ⟨error, failed, notApplicable⟩ | ⟨entries, cache, succeeded, rest⟩ :=
        session.configure_cases settings files
      · refine .inl ⟨error, failed, ?_⟩
        rintro ⟨others, entries, isRead, isApplicable⟩
        cases isRead
        exact notApplicable ⟨entries, isApplicable⟩
      · exact .inr ⟨settings, entries, cache, succeeded, rfl, rest⟩

/-- After any run, a call that configures the session either fails, because what it is
given cannot be read or applied, or succeeds.

If it fails, switch and cache are what they were, and every later run gives the answers
that it gives without the call. If it succeeds, the switch is the one that was asked
for, and the cache is a new one that holds nothing but the entries of the file, each
pinned under its key. -/
theorem configure_changes_all_or_nothing (session : Session) (earlier : List SessionStep)
    (source : SettingsSource) (files : Files) :
    let before := session.afterRun earlier
    let answer := (before.perform (.configure source files)).1
    let after := (before.perform (.configure source files)).2
    (¬ source.IsApplicable files ∧ (∃ error, answer = .configured (.error error)) ∧
        after.enabled = before.enabled ∧ after.cache = before.cache ∧
        ∀ later, session.answers (earlier ++ .configure source files :: later) =
          session.answers earlier ++ answer :: before.answers later) ∨
      ∃ settings entries, source.settings = .ok settings ∧
        settings.IsApplicable files entries ∧ answer = .configured (.ok ()) ∧
        after.enabled = settings.enabled ∧
        after.cache.IsLoaded settings.capacity (entries.map PreloadEntry.key) := by
  intro before answer after
  have performed : before.perform (.configure source files) =
      (before.configureBy files source).map .configured id := rfl
  obtain ⟨error, failed, notApplicable⟩ | ⟨settings, entries, cache, succeeded, isRead,
    isApplicable, isLoaded⟩ := before.configureBy_cases source files
  · rw [failed] at performed
    have unchanged : after = before := congrArg Prod.snd performed
    refine .inl ⟨notApplicable, ⟨error, congrArg Prod.fst performed⟩, ?_, ?_, ?_⟩
    · rw [unchanged]
    · rw [unchanged]
    · intro later
      rw [answers_append, answers_cons]
      change session.answers earlier ++ answer :: after.answers later = _
      rw [unchanged]
  · rw [succeeded] at performed
    have replaced : after = ⟨settings.enabled, cache, before.functions⟩ :=
      congrArg Prod.snd performed
    refine .inr ⟨settings, entries, isRead, isApplicable,
      congrArg Prod.fst performed, ?_, ?_⟩
    · rw [replaced]
    · rw [replaced]
      exact isLoaded

/-- The second entry of the file is no expression, so that the
first one is not kept either. -/
example :
    let files : Files := ⟨[("types", "- str\n- num<\n")]⟩
    let after := (start.configureBy files (.given ⟨false, none, some "types"⟩)).2
    after.enabled = true ∧ after.cache.statistics = ⟨0, 0, 0, 0, 0⟩ := by
  decide +kernel

end Session
end KindExpr
