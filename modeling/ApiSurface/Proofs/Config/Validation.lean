import ApiSurface.Proofs.Success
import ApiSurface.Tracker.Lifecycle

/-!
# Validation of the configuration

An integer setting is given a value or refused, and which of the two is read off its variable and its
bounds alone (`Gives`, `Refused`). A configuration is loaded if and only if every setting is given its
value, the full rescan is rarer than the collection, and the list of awaited definitions is read; else
the first check that fails says why. Nothing else of the environment matters, and a tracker can be made
with every configuration that is loaded.
-/

namespace ApiSurface

namespace IntegerSetting

/-- A value that is within the bounds of a setting. -/
structure Allows (setting : IntegerSetting) (value : Int) : Prop where
  least : ∀ least ∈ setting.least, least ≤ value
  greatest : ∀ greatest ∈ setting.greatest, value ≤ greatest

/-- The value that a setting has in an environment: its default where its variable is unset, else the
integer that the text denotes, if it is within the bounds. -/
inductive Gives (setting : IntegerSetting) (env : Environment) : Int → Prop where
  | unset (unset : env setting.name = none) : Gives setting env setting.default
  | set {raw : Text} {value : Int} (set : env setting.name = some raw)
      (integer : Text.readInteger raw = some value) (allowed : setting.Allows value) :
      Gives setting env value

/-- Why a setting has no value in an environment: its text denotes no integer, or one beyond a bound,
where the lower bound comes first. -/
inductive Refused (setting : IntegerSetting) (env : Environment) : ConfigFault → Prop where
  | notAnInteger {raw : Text} (set : env setting.name = some raw)
      (other : Text.readInteger raw = none) : Refused setting env (.notAnInteger setting.name)
  | below {raw : Text} {value least : Int} (set : env setting.name = some raw)
      (integer : Text.readInteger raw = some value) (bound : setting.least = some least)
      (below : value < least) : Refused setting env (.belowLeast setting.name least value)
  | above {raw : Text} {value greatest : Int} (set : env setting.name = some raw)
      (integer : Text.readInteger raw = some value) (within : ∀ least ∈ setting.least, least ≤ value)
      (bound : setting.greatest = some greatest) (above : greatest < value) :
      Refused setting env (.aboveGreatest setting.name greatest value)

variable {setting : IntegerSetting} {env : Environment} {value : Int} {fault : ConfigFault}

theorem check_of_allows (allowed : setting.Allows value) : setting.check value = .ok value := by
  have least : setting.least.filter (value < ·) = none := by
    simpa [Option.filter_eq_none_iff] using allowed.least
  have greatest : setting.greatest.filter (· < value) = none := by
    simpa [Option.filter_eq_none_iff] using allowed.greatest
  simp [check, least, greatest]

theorem check_of_below {least : Int} (bound : setting.least = some least) (below : value < least) :
    setting.check value = .error (.belowLeast setting.name least value) := by
  simp [check, bound, Option.filter_some, below]

theorem check_of_above {greatest : Int} (within : ∀ least ∈ setting.least, least ≤ value)
    (bound : setting.greatest = some greatest) (above : greatest < value) :
    setting.check value = .error (.aboveGreatest setting.name greatest value) := by
  have least : setting.least.filter (value < ·) = none := by
    simpa [Option.filter_eq_none_iff] using within
  simp [check, least, bound, Option.filter_some, above]

theorem gives_or_refused (setting : IntegerSetting) (env : Environment) :
    (∃ value, setting.Gives env value) ∨ ∃ fault, setting.Refused env fault := by
  cases set : env setting.name with
  | none => exact .inl ⟨_, .unset set⟩
  | some raw =>
    cases integer : Text.readInteger raw with
    | none => exact .inr ⟨_, .notAnInteger set integer⟩
    | some value =>
      by_cases within : ∀ least ∈ setting.least, least ≤ value
      · by_cases under : ∀ greatest ∈ setting.greatest, value ≤ greatest
        · exact .inl ⟨value, .set set integer ⟨within, under⟩⟩
        · simp only [Classical.not_forall, Int.not_le] at under
          obtain ⟨greatest, bound, above⟩ := under
          exact .inr ⟨_, .above set integer within bound above⟩
      · simp only [Classical.not_forall, Int.not_le] at within
        obtain ⟨least, bound, below⟩ := within
        exact .inr ⟨_, .below set integer bound below⟩

section Reading

variable (fair : setting.Allows setting.default)

include fair

theorem Gives.read_eq (gives : setting.Gives env value) : setting.read env = .ok value := by
  cases gives with
  | unset unset => simp [read, unchecked, unset, check_of_allows fair]
  | set set integer allowed => simp [read, unchecked, set, integer, check_of_allows allowed]

omit fair in
theorem Refused.read_eq (refused : setting.Refused env fault) :
    setting.read env = .error fault := by
  cases refused with
  | notAnInteger set other => simp [read, unchecked, set, other]
  | below set integer bound below =>
    simp [read, unchecked, set, integer, check_of_below bound below]
  | above set integer within bound above =>
    simp [read, unchecked, set, integer, check_of_above within bound above]

theorem read_eq_ok_iff : setting.read env = .ok value ↔ setting.Gives env value := by
  refine ⟨fun read => ?_, fun gives => gives.read_eq fair⟩
  rcases gives_or_refused setting env with ⟨given, gives⟩ | ⟨fault, refused⟩
  · obtain rfl : given = value := Except.ok.inj ((gives.read_eq fair).symm.trans read)
    exact gives
  · cases refused.read_eq.symm.trans read

theorem read_eq_error_iff : setting.read env = .error fault ↔ setting.Refused env fault := by
  refine ⟨fun read => ?_, Refused.read_eq⟩
  rcases gives_or_refused setting env with ⟨given, gives⟩ | ⟨why, refused⟩
  · cases (gives.read_eq fair).symm.trans read
  · obtain rfl : why = fault := Except.error.inj (refused.read_eq.symm.trans read)
    exact refused

theorem Gives.allowed (gives : setting.Gives env value) : setting.Allows value := by
  cases gives with
  | unset => exact fair
  | set _ _ allowed => exact allowed

omit fair in
/-- A setting has a value exactly if its variable is unset, or is the text of an integer within the
bounds. -/
theorem exists_gives_iff :
    (∃ value, setting.Gives env value) ↔
      env setting.name = none ∨ ∃ raw value, env setting.name = some raw ∧
        Text.readInteger raw = some value ∧ setting.Allows value := by
  constructor
  · rintro ⟨_, unset | ⟨set, integer, allowed⟩⟩
    · exact .inl unset
    · exact .inr ⟨_, _, set, integer, allowed⟩
  · rintro (unset | ⟨raw, value, set, integer, allowed⟩)
    · exact ⟨_, .unset unset⟩
    · exact ⟨value, .set set integer allowed⟩

end Reading

/-- A setting depends on its own variable alone. -/
theorem read_congr {other : Environment} (same : env setting.name = other setting.name) :
    setting.read env = setting.read other := by
  simp [read, unchecked, same]

end IntegerSetting

namespace Config

open Crd (GroupVersionKind)

variable {env : Environment} {config : Config} {fault : ConfigFault}

/-- The integer settings. -/
def settings : List IntegerSetting :=
  [rateLimit, collectionInterval, fullRescanInterval, workers, watchTimeout, port, crdWaitTimeout]

/-- Every default passes its own check. -/
theorem default_allowed : ∀ setting ∈ settings, setting.Allows setting.default := by
  intro setting inside
  constructor
  · revert setting
    decide
  · revert setting
    decide

theorem read_eq_ok_iff {setting : IntegerSetting} (inside : setting ∈ settings) {value : Int} :
    setting.read env = .ok value ↔ setting.Gives env value :=
  IntegerSetting.read_eq_ok_iff (default_allowed setting inside)

/-- The definitions that an environment has awaited: none where the variable is unset, else those that
its text lists. -/
inductive GivesAwaited (env : Environment) : List GroupVersionKind → Prop where
  | unset (unset : env awaitedCrdsName = none) : GivesAwaited env []
  | set {raw : Text} {gvks : List GroupVersionKind} (set : env awaitedCrdsName = some raw)
      (listed : readAwaitedCrds raw = .ok gvks) : GivesAwaited env gvks

theorem givesAwaited_iff {gvks : List GroupVersionKind} :
    readAwaitedCrds ((env awaitedCrdsName).getD "") = .ok gvks ↔ GivesAwaited env gvks := by
  cases set : env awaitedCrdsName with
  | none =>
    have nothing : readAwaitedCrds "" = .ok [] := rfl
    rw [Option.getD_none, nothing]
    constructor
    · rintro ⟨⟩
      exact .unset set
    · rintro (_ | ⟨other, _⟩)
      · rfl
      · cases set.symm.trans other
  | some raw =>
    constructor
    · exact .set set
    · rintro (unset | ⟨same, listed⟩)
      · cases set.symm.trans unset
      · cases set.symm.trans same
        exact listed

/-! ## What is loaded -/

theorem forall_mem_integers {holds : IntegerSetting × Int → Prop} :
    (∀ pair ∈ config.integers, holds pair) ↔
      holds (rateLimit, config.rateLimitSeconds) ∧
        holds (collectionInterval, config.collectionIntervalSeconds) ∧
          holds (fullRescanInterval, config.fullRescanIntervalSeconds) ∧
            holds (workers, config.discoveryWorkers) ∧
              holds (watchTimeout, config.watchTimeoutSeconds) ∧
                holds (port, config.healthPort) ∧
                  holds (crdWaitTimeout, config.crdWaitTimeoutSeconds) := by
  simp [integers]

theorem load_eq_ok_iff_reads :
    load env = .ok config ↔
      (∀ pair ∈ config.integers, pair.1.read env = .ok pair.2) ∧
        config.collectionIntervalSeconds < config.fullRescanIntervalSeconds ∧
          readAwaitedCrds ((env awaitedCrdsName).getD "") = .ok config.awaitedCrds := by
  rw [forall_mem_integers]
  unfold load
  simp only [bind_eq_ok_iff]
  constructor
  · rintro ⟨interval, collection, period, rescan, rest⟩
    split at rest
    · cases rest
    · next longer =>
      simp only [bind_eq_ok_iff] at rest
      obtain ⟨_, rate, _, workers, _, watch, _, port, _, listed, _, wait, ⟨⟩⟩ := rest
      exact ⟨⟨rate, collection, rescan, workers, watch, port, wait⟩, Int.not_le.mp longer, listed⟩
  · rintro ⟨⟨rate, collection, rescan, workers, watch, port, wait⟩, longer, listed⟩
    refine ⟨_, collection, _, rescan, ?_⟩
    rw [if_neg (Int.not_le.mpr longer)]
    simp only [bind_eq_ok_iff]
    exact ⟨_, rate, _, workers, _, watch, _, port, _, listed, _, wait, rfl⟩

/-- A configuration is loaded exactly if every setting has its value in it, the full rescan is rarer
than the collection, and it awaits the definitions that are listed. -/
theorem load_eq_ok_iff :
    load env = .ok config ↔
      (∀ pair ∈ config.integers, pair.1.Gives env pair.2) ∧
        config.collectionIntervalSeconds < config.fullRescanIntervalSeconds ∧
          GivesAwaited env config.awaitedCrds := by
  have given : (∀ pair ∈ config.integers, pair.1.read env = .ok pair.2) ↔
      ∀ pair ∈ config.integers, pair.1.Gives env pair.2 := by
    refine forall₂_congr fun pair inside => read_eq_ok_iff ?_
    have settings_eq : config.integers.map Prod.fst = settings := rfl
    exact settings_eq ▸ List.mem_map_of_mem inside
  rw [load_eq_ok_iff_reads, given, givesAwaited_iff]

/-- Why something is refused, if it is. -/
def refusal? {α : Type} : Except ConfigFault α → Option ConfigFault
  | .ok _ => none
  | .error fault => some fault

/-- One of the checks that a configuration has to pass. -/
inductive Check where
  | integer (setting : IntegerSetting)
  | rescanLonger
  | awaited

/-- How a check fails in an environment. The two periods are compared where both have a value. -/
inductive Check.Fails (env : Environment) : Check → ConfigFault → Prop where
  | integer {setting : IntegerSetting} {fault : ConfigFault} (refused : setting.Refused env fault) :
      Fails env (.integer setting) fault
  | rescanLonger {period interval : Int} (rescan : fullRescanInterval.Gives env period)
      (collection : collectionInterval.Gives env interval) (notLonger : period ≤ interval) :
      Fails env .rescanLonger .rescanNotLonger
  | awaited {raw : Text} {fault : ConfigFault} (set : env awaitedCrdsName = some raw)
      (refused : readAwaitedCrds raw = .error fault) : Fails env .awaited fault

/-- The checks in the order in which they are made. -/
def checks : List Check :=
  [.integer collectionInterval, .integer fullRescanInterval, .rescanLonger, .integer rateLimit,
    .integer workers, .integer watchTimeout, .integer port, .awaited, .integer crdWaitTimeout]

/-- What a check of an environment fails with, as its reading tells. -/
def Check.fault? (env : Environment) : Check → Option ConfigFault
  | .integer setting => refusal? (setting.read env)
  | .rescanLonger =>
    match fullRescanInterval.read env, collectionInterval.read env with
    | .ok period, .ok interval => if period ≤ interval then some .rescanNotLonger else none
    | _, _ => none
  | .awaited => refusal? (readAwaitedCrds ((env awaitedCrdsName).getD ""))

/-- A sequence is refused for what its beginning is refused for, else for the rest. -/
theorem refusal?_bind {α β : Type} {first : Except ConfigFault α}
    {next : α → Except ConfigFault β} {rest : Option ConfigFault}
    (onward : ∀ value, first = .ok value → refusal? (next value) = rest) :
    refusal? (first >>= next) = (refusal? first).or rest := by
  cases first with
  | error fault => rfl
  | ok value => exact onward value rfl

theorem findSome?_fault?_cons (env : Environment) (check : Check) (more : List Check) :
    (check :: more).findSome? (Check.fault? env) =
      (check.fault? env).or (more.findSome? (Check.fault? env)) := by
  rw [List.findSome?_cons]
  cases check.fault? env <;> rfl

/-- Loading is refused for the first check that fails. -/
theorem refusal?_load (env : Environment) :
    refusal? (load env) = checks.findSome? (Check.fault? env) := by
  unfold load checks
  simp only [findSome?_fault?_cons]
  refine refusal?_bind fun interval collection => refusal?_bind fun period rescan => ?_
  simp only [Check.fault?, collection, rescan]
  split
  · rfl
  · rw [Option.none_or]
    iterate 6 refine refusal?_bind fun _ _ => ?_
    rfl

theorem refused_iff {setting : IntegerSetting} (inside : setting ∈ settings) :
    refusal? (setting.read env) = some fault ↔ setting.Refused env fault := by
  rw [← IntegerSetting.read_eq_error_iff (default_allowed setting inside)]
  cases setting.read env <;> simp [refusal?]

theorem mem_settings {setting : IntegerSetting} (inside : .integer setting ∈ checks) :
    setting ∈ settings := by
  simp only [checks, List.mem_cons, Check.integer.injEq, reduceCtorEq, false_or, List.not_mem_nil,
    or_false] at inside
  rcases inside with rfl | rfl | rfl | rfl | rfl | rfl | rfl <;> simp [settings]

theorem rescanLonger_fault?_iff :
    Check.rescanLonger.fault? env = some fault ↔ Check.rescanLonger.Fails env fault := by
  have periods : fullRescanInterval ∈ settings ∧ collectionInterval ∈ settings := by simp [settings]
  constructor
  · intro failed
    simp only [Check.fault?] at failed
    split at failed
    · next period interval rescan collection =>
      split at failed
      · next notLonger =>
        cases failed
        exact .rescanLonger ((read_eq_ok_iff periods.1).mp rescan)
          ((read_eq_ok_iff periods.2).mp collection) notLonger
      · cases failed
    · cases failed
  · rintro ⟨⟩
    next rescan collection notLonger =>
      simp [Check.fault?, (read_eq_ok_iff periods.1).mpr rescan,
        (read_eq_ok_iff periods.2).mpr collection, notLonger]

theorem awaited_fault?_iff :
    Check.awaited.fault? env = some fault ↔ Check.awaited.Fails env fault := by
  have nothing : refusal? (readAwaitedCrds "") = none := rfl
  cases set : env awaitedCrdsName with
  | none =>
    simp only [Check.fault?, set, Option.getD_none, nothing]
    constructor
    · rintro ⟨⟩
    · rintro ⟨⟩
      next same refused => cases set.symm.trans same
  | some raw =>
    have listed : Check.awaited.fault? env = some fault ↔ readAwaitedCrds raw = .error fault := by
      simp only [Check.fault?, set, Option.getD_some]
      cases readAwaitedCrds raw <;> simp [refusal?]
    rw [listed]
    constructor
    · exact .awaited set
    · rintro ⟨⟩
      next same refused =>
        cases set.symm.trans same
        exact refused

theorem fault?_eq_some_iff {check : Check} (inside : check ∈ checks) :
    check.fault? env = some fault ↔ check.Fails env fault := by
  cases check with
  | integer setting =>
    refine (refused_iff (mem_settings inside)).trans ⟨.integer, ?_⟩
    rintro ⟨refused⟩
    exact refused
  | rescanLonger => exact rescanLonger_fault?_iff
  | awaited => exact awaited_fault?_iff

/-- A configuration is refused for what the first check that fails says. -/
theorem load_eq_error_iff :
    load env = .error fault ↔
      ∃ before check after, checks = before ++ check :: after ∧ check.Fails env fault ∧
        ∀ earlier ∈ before, ∀ other, ¬ earlier.Fails env other := by
  have refused : load env = .error fault ↔ refusal? (load env) = some fault := by
    cases load env <;> simp [refusal?]
  rw [refused, refusal?_load, List.findSome?_eq_some_iff]
  refine exists_congr fun before => exists_congr fun check => exists_congr fun after =>
    and_congr_right fun split => ?_
  have here : check ∈ checks := by simp [split]
  have passed : ∀ earlier ∈ before,
      earlier.fault? env = none ↔ ∀ other, ¬ earlier.Fails env other := by
    intro earlier inside
    have among : earlier ∈ checks := by simp [split, inside]
    simp only [← fault?_eq_some_iff among]
    exact Option.eq_none_iff_forall_ne_some
  exact and_congr (fault?_eq_some_iff here) (forall₂_congr passed)

/-! ## What a configuration depends on and is good for -/

/-- The names of the variables that are read. -/
def names : List Text := settings.map IntegerSetting.name ++ [awaitedCrdsName]

/-- Other variables have no influence. -/
theorem load_congr {other : Environment} (same : ∀ name ∈ names, env name = other name) :
    load env = load other := by
  have alike : ∀ setting ∈ settings, setting.read env = setting.read other := fun setting inside =>
    IntegerSetting.read_congr (same _ (List.mem_append_left _ (List.mem_map_of_mem inside)))
  have awaited : env awaitedCrdsName = other awaitedCrdsName :=
    same _ (List.mem_append_right _ List.mem_cons_self)
  simp only [settings, List.forall_mem_cons] at alike
  simp [load, alike, awaited]

theorem exists_load_iff :
    (∃ config, load env = .ok config) ↔
      (∀ setting ∈ settings, ∃ value, setting.Gives env value) ∧
        (∃ interval period, collectionInterval.Gives env interval ∧
          fullRescanInterval.Gives env period ∧ interval < period) ∧
            ∃ gvks, GivesAwaited env gvks := by
  simp only [load_eq_ok_iff, forall_mem_integers]
  constructor
  · rintro ⟨config, ⟨rate, collection, rescan, workers, watch, port, wait⟩, longer, awaited⟩
    refine ⟨?_, ⟨_, _, collection, rescan, longer⟩, _, awaited⟩
    simp only [settings, List.forall_mem_cons]
    exact ⟨⟨_, rate⟩, ⟨_, collection⟩, ⟨_, rescan⟩, ⟨_, workers⟩, ⟨_, watch⟩, ⟨_, port⟩, ⟨_, wait⟩,
      by simp⟩
  · rintro ⟨given, ⟨interval, period, collection, rescan, longer⟩, gvks, awaited⟩
    simp only [settings, List.forall_mem_cons] at given
    obtain ⟨⟨rateLimitSeconds, rate⟩, -, -, ⟨discoveryWorkers, workers⟩,
      ⟨watchTimeoutSeconds, watch⟩, ⟨healthPort, port⟩, ⟨crdWaitTimeoutSeconds, wait⟩, -⟩ := given
    exact ⟨⟨rateLimitSeconds, interval, period, discoveryWorkers, watchTimeoutSeconds, healthPort,
      gvks, crdWaitTimeoutSeconds⟩, ⟨rate, collection, rescan, workers, watch, port, wait⟩, longer,
      awaited⟩

theorem exists_givesAwaited_iff :
    (∃ gvks, GivesAwaited env gvks) ↔
      env awaitedCrdsName = none ∨
        ∃ raw gvks, env awaitedCrdsName = some raw ∧ readAwaitedCrds raw = .ok gvks := by
  constructor
  · rintro ⟨_, unset | ⟨set, listed⟩⟩
    · exact .inl unset
    · exact .inr ⟨_, _, set, listed⟩
  · rintro (unset | ⟨raw, gvks, set, listed⟩)
    · exact ⟨_, .unset unset⟩
    · exact ⟨gvks, .set set listed⟩

/-- A tracker and its limiter can be made with every configuration that is loaded. -/
theorem load_accepted {τ : Type} [Scalar τ] (loaded : load env = .ok config)
    (stop : Tracker.Signal) :
    (∃ limiter : Limiter τ,
        Limiter.create (Tracker.Settings.ofConfig config).rateLimit = .ok limiter) ∧
      ∃ tracker : Tracker.State τ,
        Tracker.State.create (.ofConfig config) stop = .ok tracker := by
  obtain ⟨rate, -, -, workers, -⟩ := forall_mem_integers.mp (load_eq_ok_iff.mp loaded).1
  have spacing : ¬ config.rateLimitSeconds < 0 := Int.not_lt.mpr
    ((rate.allowed (default_allowed _ (by simp [settings]))).least 0 rfl)
  have enough : ¬ (Tracker.Settings.ofConfig (τ := τ) config).workers < 1 := Int.not_lt.mpr
    ((workers.allowed (default_allowed _ (by simp [settings]))).least 1 rfl)
  have limited : ∃ limiter : Limiter τ,
      Limiter.create (Tracker.Settings.ofConfig config).rateLimit = .ok limiter :=
    ⟨_, by simp [Limiter.create, Tracker.Settings.ofConfig, Seconds.isNegative, spacing]; rfl⟩
  refine ⟨limited, ?_⟩
  obtain ⟨limiter, made⟩ := limited
  unfold Tracker.State.create
  rw [if_neg enough, made]
  exact ⟨_, rfl⟩

/-- Validation is complete. A configuration is loaded if and only if every integer variable is unset or
an integer within its bounds, the full rescan is rarer than the collection, and the list of awaited
definitions is unset or read. What is loaded has the given values and no other, and a tracker and its
limiter can be made with it; what is refused, is refused for the first check that fails. The variables
that are not read have no influence. -/
theorem load_validates (env : Environment) :
    ((∃ config, load env = .ok config) ↔
        (∀ setting ∈ settings, env setting.name = none ∨ ∃ raw value, env setting.name = some raw ∧
          Text.readInteger raw = some value ∧ setting.Allows value) ∧
        (∃ interval period, collectionInterval.Gives env interval ∧
          fullRescanInterval.Gives env period ∧ interval < period) ∧
        (env awaitedCrdsName = none ∨
          ∃ raw gvks, env awaitedCrdsName = some raw ∧ readAwaitedCrds raw = .ok gvks)) ∧
      (∀ config, load env = .ok config ↔
        (∀ pair ∈ config.integers, pair.1.Gives env pair.2) ∧
          config.collectionIntervalSeconds < config.fullRescanIntervalSeconds ∧
            GivesAwaited env config.awaitedCrds) ∧
      (∀ fault, load env = .error fault ↔
        ∃ before check after, checks = before ++ check :: after ∧ check.Fails env fault ∧
          ∀ earlier ∈ before, ∀ other, ¬ earlier.Fails env other) ∧
      (∀ other : Environment, (∀ name ∈ names, env name = other name) → load other = load env) ∧
      ∀ config, load env = .ok config → ∀ (τ : Type) [Scalar τ] (stop : Tracker.Signal),
        (∃ limiter : Limiter τ,
            Limiter.create (Tracker.Settings.ofConfig config).rateLimit = .ok limiter) ∧
          ∃ tracker : Tracker.State τ,
            Tracker.State.create (.ofConfig config) stop = .ok tracker := by
  refine ⟨?_, fun config => load_eq_ok_iff, fun fault => load_eq_error_iff,
    fun other same => (load_congr same).symm, fun config loaded τ _ stop => load_accepted loaded stop⟩
  rw [exists_load_iff, exists_givesAwaited_iff]
  simp only [IntegerSetting.exists_gives_iff]

/-- An environment with a period partly in digits of another script, a list that ends in a blank entry,
and a variable that is not read. -/
def sampleEnvironment : Environment := fun name =>
  if name = "COLLECTION_INTERVAL_SECONDS" then some " \u0661_0 "
  else if name = "WAIT_FOR_CRDS" then some "apps / v1/Deployment , "
  else if name = "HOME" then some "/root"
  else none

/-- What is loaded from it. -/
def sampleConfig : Config where
  rateLimitSeconds := 5
  collectionIntervalSeconds := 10
  fullRescanIntervalSeconds := 900
  discoveryWorkers := 16
  watchTimeoutSeconds := 300
  healthPort := 8081
  awaitedCrds := [⟨"apps", "v1", "Deployment"⟩]
  crdWaitTimeoutSeconds := 150

theorem load_validates_sample :
    load (fun name => if name = "HOME" then none else sampleEnvironment name) = .ok sampleConfig ∧
      ∃ tracker : Tracker.State Rat, Tracker.State.create (.ofConfig sampleConfig) 0 = .ok tracker := by
  obtain ⟨-, -, -, others, accepted⟩ := load_validates sampleEnvironment
  have loaded : load sampleEnvironment = .ok sampleConfig := by rfl
  exact ⟨(others _ (by decide)).trans loaded, (accepted sampleConfig loaded Rat 0).2⟩

end Config

end ApiSurface
