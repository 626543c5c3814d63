import ApiSurface.Service.Startup

/-!
# What the service releases

Calls are made in turn up to the first that fails (`Made`). A life of the service is told by
where it broke off: before it had a configuration, while it acquired what it needs, or within the
protected part, after which it releases (`Life`). What is called, in which order and how often
is read off the three cases, for every environment and whatever fails.
-/

namespace ApiSurface.Service

variable {around : Collaborators} {env : Environment} {config : Config}

/-- A call succeeds if it is made. -/
def Collaborators.Succeeds (around : Collaborators) (call : Call) : Prop :=
  around.failure call = none

/-! ## One run after another -/

namespace Run

variable {run next cleanup : Run} {fault : Fault}

theorem andThen_of_ok (ends : run.ending = .ok ()) :
    run.andThen next = { events := run.events ++ next.events, ending := next.ending } := by
  rw [andThen, ends]

theorem andThen_of_error (fails : run.ending = .error fault) : run.andThen next = run := by
  rw [andThen, fails]

theorem calls_andThen_of_ok (ends : run.ending = .ok ()) :
    (run.andThen next).calls = run.calls ++ next.calls := by
  rw [andThen_of_ok ends]
  exact List.filterMap_append

/-- What makes no calls adds none, whether it is reached or not. -/
theorem calls_andThen_of_silent (silent : next.calls = []) :
    (run.andThen next).calls = run.calls := by
  cases ends : run.ending with
  | ok => rw [calls_andThen_of_ok ends, silent, List.append_nil]
  | error fault => rw [andThen_of_error ends]

theorem calls_andFinally : (run.andFinally cleanup).calls = run.calls ++ cleanup.calls :=
  List.filterMap_append

end Run

theorem calls_describing : (describing around env).calls = [] := by
  cases breaks : around.breakdown .describing with
  | none => simp [describing, pass, Run.andThen, Run.endingWith, breaks, Run.calls, Event.call?]
  | some fault => simp [describing, pass, Run.andThen, Run.endingWith, breaks, Run.calls]

theorem calls_settingLevel : (settingLevel env).calls = [] := by
  unfold settingLevel
  split <;> rfl

theorem calls_introducing : (introducing around env).calls = [] := by
  rw [introducing, Run.calls_andThen_of_silent calls_describing, calls_settingLevel]

theorem calls_running : (running around).calls = [] := by
  have reported : (reporting around).calls = [] := by
    unfold reporting
    cases around.signal <;> rfl
  rw [running, Run.calls_andThen_of_silent rfl, reported]

/-! ## Calls in turn -/

/-- How it may go to make calls in turn: all are made and succeed, or they are made up to the first
that fails. -/
inductive Made (around : Collaborators) (calls : List Call) :
    List Call → Except Fault Unit → Prop where
  | all (succeed : ∀ call ∈ calls, around.Succeeds call) : Made around calls calls (.ok ())
  | upTo {before after : List Call} {call : Call} {fault : Fault}
      (split : calls = before ++ call :: after) (succeed : ∀ call ∈ before, around.Succeeds call)
      (fails : around.failure call = some fault) :
      Made around calls (before ++ [call]) (.error fault)

theorem makeAll_made (around : Collaborators) (calls : List Call) :
    Made around calls (makeAll around calls).calls (makeAll around calls).ending := by
  induction calls with
  | nil => exact .all nofun
  | cons call rest ih =>
    cases failure : around.failure call with
    | some fault =>
      have ends : (make around call).ending = .error fault := by
        simp [make, Run.endingWith, failure]
      rw [makeAll, Run.andThen_of_error ends, ends]
      have split : call :: rest = [] ++ call :: rest := rfl
      exact .upTo split nofun failure
    | none =>
      have ends : (make around call).ending = .ok () := by simp [make, Run.endingWith, failure]
      have here : ∀ {others : List Call}, (∀ other ∈ others, around.Succeeds other) →
          ∀ other ∈ call :: others, around.Succeeds other := fun succeed =>
        List.forall_mem_cons.mpr ⟨failure, succeed⟩
      rw [makeAll, Run.calls_andThen_of_ok ends, Run.andThen_of_ok ends]
      cases made : (makeAll around rest).ending with
      | ok =>
        rw [made] at ih
        generalize (makeAll around rest).calls = made at ih
        cases ih with
        | all succeed => exact .all (here succeed)
      | error fault =>
        rw [made] at ih
        generalize (makeAll around rest).calls = made at ih
        cases ih with
        | upTo split succeed fails =>
          exact .upTo (congrArg (call :: ·) split) (here succeed) fails

section Made

variable {calls made : List Call} {ending : Except Fault Unit}

/-- Nothing else is called, and in the order given. -/
theorem Made.isPrefix (goes : Made around calls made ending) : made <+: calls := by
  cases goes with
  | all => exact List.prefix_refl _
  | @upTo before after call fault split =>
    rw [split, List.append_cons before call after]
    exact List.prefix_append ..

/-- What is called last was made exactly if everything before it succeeded. -/
theorem Made.mem_last_iff {last : Call} (goes : Made around (calls ++ [last]) made ending)
    (new : last ∉ calls) : last ∈ made ↔ ∀ call ∈ calls, around.Succeeds call := by
  cases goes with
  | all succeed =>
    have succeedBefore := (List.forall_mem_append.mp succeed).1
    exact ⟨fun _ => succeedBefore, fun _ => List.mem_append_right _ List.mem_cons_self⟩
  | @upTo before after call fault split succeed fails =>
    rcases List.eq_nil_or_concat after with rfl | ⟨rest, final, rfl⟩
    · -- The call that failed is the last one.
      obtain ⟨rfl, same⟩ := List.append_inj' split rfl
      cases same
      exact ⟨fun _ => succeed, fun _ => List.mem_append_right _ List.mem_cons_self⟩
    · have earlier : calls ++ [last] = (before ++ call :: rest) ++ [final] := by simpa using split
      obtain ⟨rfl, -⟩ := List.append_inj' earlier rfl
      have inCalls : call ∈ before ++ call :: rest := List.mem_append_right _ List.mem_cons_self
      constructor
      · intro member
        refine absurd ?_ new
        rcases List.mem_append.mp member with inBefore | isCall
        · exact List.mem_append_left _ inBefore
        · cases List.mem_singleton.mp isCall
          exact inCalls
      · intro all
        cases fails.symm.trans (all call inCalls)

/-- Nothing but what was to be called before comes before the last call. -/
theorem Made.eq_of_mem_last {last : Call} (goes : Made around (calls ++ [last]) made ending)
    (new : last ∉ calls) (member : last ∈ made) : made = calls ++ [last] := by
  rcases List.prefix_concat_iff.mp goes.isPrefix with whole | within
  · exact whole
  · exact absurd (within.subset member) new

end Made

/-! ## A life of the service -/

/-- The service comes to have a configuration. -/
structure Configured (around : Collaborators) (env : Environment) (config : Config) : Prop where
  introduced : (introducing around env).ending = .ok ()
  loaded : Config.load env = .ok config

/-- The calls that release what was acquired. -/
def releases (around : Collaborators) : List Call :=
  (makeAll around [.stopTracker, .stopHealth]).calls

/-- The calls of a life of the service, by where it broke off. -/
inductive Life (around : Collaborators) (env : Environment) : List Call → Prop where
  | unconfigured (none : ∀ config, ¬ Configured around env config) : Life around env []
  | unacquired {config : Config} {made : List Call} {fault : Fault}
      (configured : Configured around env config)
      (broken : Made around (acquisitions config) made (.error fault)) : Life around env made
  | guarded {config : Config} {made : List Call} {ending : Except Fault Unit}
      (configured : Configured around env config)
      (acquired : ∀ call ∈ acquisitions config, around.Succeeds call)
      (goes : Made around (awaiting config ++ [.startTracker]) made ending) :
      Life around env (acquisitions config ++ made ++ releases around)

theorem calls_releasing : (releasing around).calls = releases around :=
  Run.calls_andThen_of_silent rfl

theorem calls_serving :
    (serving around config).calls = (makeAll around (awaiting config ++ [.startTracker])).calls :=
  Run.calls_andThen_of_silent calls_running

/-- With a configuration, the calls of a life are told by what is acquired. -/
theorem Configured.life (configured : Configured around env config) :
    Life around env (runWith around config).calls := by
  have acquiring := makeAll_made around (acquisitions config)
  rw [runWith]
  cases ends : (makeAll around (acquisitions config)).ending with
  | error fault =>
    rw [ends] at acquiring
    rw [Run.andThen_of_error ends]
    exact .unacquired configured acquiring
  | ok =>
    rw [ends] at acquiring
    rw [Run.calls_andThen_of_ok ends, Run.calls_andFinally, calls_serving, calls_releasing,
      ← List.append_assoc]
    generalize (makeAll around (acquisitions config)).calls = made at acquiring
    cases acquiring with
    | all acquired => exact .guarded configured acquired (makeAll_made ..)

/-- Every run is one of the lives. -/
theorem run_life (around : Collaborators) (env : Environment) :
    Life around env (run around env).calls := by
  rw [run]
  cases introduced : (introducing around env).ending with
  | error fault =>
    rw [Run.andThen_of_error introduced, calls_introducing]
    refine .unconfigured fun config configured => ?_
    cases introduced.symm.trans configured.introduced
  | ok =>
    rw [Run.calls_andThen_of_ok introduced, calls_introducing, List.nil_append, runConfigured]
    cases loaded : Config.load env with
    | error why =>
      refine .unconfigured fun config configured => ?_
      cases loaded.symm.trans configured.loaded
    | ok config => exact Configured.life ⟨introduced, loaded⟩

/-! ## What is called, and how often -/

/-- The health server was started. -/
def HealthStarted (around : Collaborators) (calls : List Call) : Prop :=
  ∃ port, .startHealth port ∈ calls ∧ around.Succeeds (.startHealth port)

/-- Both signals can be registered. -/
def Registers (around : Collaborators) : Prop :=
  ∀ number ∈ terminatingSignals, around.Succeeds (.registerSignal number)

/-- Whether a call comes once the health server is started. -/
def Call.followsHealth : Call → Bool
  | loadAccess | buildClients _ | createTracker _ | subscribe | startHealth _ => false
  | registerSignal _ | createWaiter | awaitCrds _ _ | startTracker | stopTracker | stopHealth =>
    true

/-- Whether a call releases something. -/
def Call.isRelease : Call → Bool
  | stopTracker | stopHealth => true
  | _ => false

/-- What is acquired before the health server. -/
def preliminaries (config : Config) : List Call :=
  [.loadAccess, .buildClients config.discoveryWorkers, .createTracker config, .subscribe]

theorem acquisitions_eq (config : Config) :
    acquisitions config =
      preliminaries config ++
        .startHealth config.healthPort :: terminatingSignals.map .registerSignal := rfl

theorem followsHealth_preliminaries {call : Call} (member : call ∈ preliminaries config) :
    call.followsHealth = false := by
  have all : ∀ call ∈ preliminaries config, call.followsHealth = false := by
    simp [preliminaries, Call.followsHealth]
  exact all call member

theorem isRelease_acquisitions {call : Call} (member : call ∈ acquisitions config) :
    call.isRelease = false := by
  have all : ∀ call ∈ acquisitions config, call.isRelease = false := by
    simp [acquisitions, terminatingSignals, Call.isRelease]
  exact all call member

theorem registerSignal_acquired {number : Int} (member : number ∈ terminatingSignals) :
    .registerSignal number ∈ acquisitions config := by
  rw [acquisitions_eq]
  have registered := List.mem_map_of_mem (f := Call.registerSignal) member
  exact List.mem_append_right _ (List.mem_cons_of_mem _ registered)

theorem startTracker_not_acquired : .startTracker ∉ acquisitions config := by
  simp [acquisitions, terminatingSignals]

theorem awaiting_cases (config : Config) :
    awaiting config = [] ∨
      awaiting config =
        [.createWaiter, .awaitCrds config.awaitedCrds config.crdWaitTimeoutSeconds] := by
  unfold awaiting
  split
  · exact .inl rfl
  · exact .inr rfl

theorem startTracker_not_awaited : .startTracker ∉ awaiting config := by
  rcases awaiting_cases config with none | some
  · simp [none]
  · simp [some]

theorem isRelease_serving {call : Call} (member : call ∈ awaiting config ++ [.startTracker]) :
    call.isRelease = false := by
  have all : ∀ call ∈ awaiting config ++ [.startTracker], call.isRelease = false := by
    rcases awaiting_cases config with none | some
    · simp [none, Call.isRelease]
    · simp [some, Call.isRelease]
  exact all call member

theorem startHealth_not_preliminary (port : Int) : .startHealth port ∉ preliminaries config := by
  simp [preliminaries]

/-- What is acquired comes before the health server or is the health server, or it is a signal that
is registered after it. -/
theorem acquisitions_split {before after : List Call} {call : Call}
    (split : acquisitions config = before ++ call :: after) :
    ((∀ other ∈ before, other ∈ preliminaries config) ∧
        (call ∈ preliminaries config ∨ call = .startHealth config.healthPort)) ∨
      .startHealth config.healthPort ∈ before ∧
        ∃ number ∈ terminatingSignals, call = .registerSignal number := by
  rw [acquisitions_eq] at split
  rcases List.append_eq_append_iff.mp split with ⟨rest, rfl, tail⟩ | ⟨rest, same, tail⟩
  · cases rest with
    | nil =>
      obtain ⟨rfl, -⟩ := List.cons.inj tail
      exact .inl ⟨fun other member => by simpa using member, .inr rfl⟩
    | cons first rest =>
      obtain ⟨rfl, signals⟩ := List.cons.inj tail
      have registered : call ∈ terminatingSignals.map .registerSignal := by
        rw [signals]
        exact List.mem_append_right _ List.mem_cons_self
      obtain ⟨number, member, rfl⟩ := List.mem_map.mp registered
      exact .inr ⟨List.mem_append_right _ List.mem_cons_self, number, member, rfl⟩
  · refine .inl ⟨fun other member => ?_, ?_⟩
    · rw [same]
      exact List.mem_append_left _ member
    · cases rest with
      | nil => exact .inr (List.cons.inj tail).1
      | cons first rest =>
        obtain ⟨rfl, -⟩ := List.cons.inj tail
        rw [same]
        exact .inl (List.mem_append_right _ List.mem_cons_self)

/-- Preliminaries up to a call that fails have not started the health server. -/
theorem not_healthStarted {before : List Call} {call : Call}
    (early : ∀ other ∈ before, other ∈ preliminaries config) (failed : ¬ around.Succeeds call) :
    ¬ HealthStarted around (before ++ [call]) := by
  rintro ⟨port, member, succeeds⟩
  rcases List.mem_append.mp member with inBefore | isCall
  · exact startHealth_not_preliminary port (early _ inBefore)
  · cases List.mem_singleton.mp isCall
    exact failed succeeds

/-- An acquisition that fails does so before the health server is started, or as a signal is
registered. -/
theorem Made.acquiring_cases {made : List Call} {fault : Fault}
    (broken : Made around (acquisitions config) made (.error fault)) :
    (¬ HealthStarted around made ∧ ∀ call ∈ made, call.followsHealth = false) ∨
      HealthStarted around made ∧ ¬ Registers around := by
  cases broken with
  | @upTo before after call fault split succeed fails =>
    have failed : ¬ around.Succeeds call := by simp [Collaborators.Succeeds, fails]
    rcases acquisitions_split split with ⟨early, last⟩ | ⟨started, number, member, rfl⟩
    · refine .inl ⟨not_healthStarted early failed, List.forall_mem_append.mpr ⟨?_, ?_⟩⟩
      · exact fun other member => followsHealth_preliminaries (early other member)
      · refine List.forall_mem_singleton.mpr ?_
        rcases last with inPreliminaries | rfl
        · exact followsHealth_preliminaries inPreliminaries
        · rfl
    · exact .inr ⟨⟨_, List.mem_append_left _ started, succeed _ started⟩,
        fun registers => failed (registers number member)⟩

/-- Only the failure of the first release keeps the second from being called. -/
theorem releases_cases (around : Collaborators) :
    around.Succeeds .stopTracker ∧ releases around = [.stopTracker, .stopHealth] ∨
      ¬ around.Succeeds .stopTracker ∧ releases around = [.stopTracker] := by
  have second : (makeAll around [.stopHealth]).calls = [.stopHealth] :=
    Run.calls_andThen_of_silent rfl
  cases failure : around.failure .stopTracker with
  | none =>
    have ends : (make around .stopTracker).ending = .ok () := by
      simp [make, Run.endingWith, failure]
    refine .inl ⟨failure, ?_⟩
    rw [releases, makeAll, Run.calls_andThen_of_ok ends, second]
    rfl
  | some fault =>
    have ends : (make around .stopTracker).ending = .error fault := by
      simp [make, Run.endingWith, failure]
    refine .inr ⟨by simp [Collaborators.Succeeds, failure], ?_⟩
    rw [releases, makeAll, Run.andThen_of_error ends]
    rfl

namespace Life

variable {calls : List Call}

/-- Nothing is released that was not acquired: what is released comes last, at most once each, and
comes at all only where the health server was started and every signal registered. -/
theorem released (life : Life around env calls) :
    ∃ acquired released, calls = acquired ++ released ∧
      (∀ call ∈ acquired, call.isRelease = false) ∧
      (released = [] ∧ (HealthStarted around calls → ¬ Registers around) ∨
        released = releases around ∧ HealthStarted around calls ∧ Registers around) := by
  cases life with
  | unconfigured none => exact ⟨[], [], rfl, nofun, .inl ⟨rfl, nofun⟩⟩
  | @unacquired config made fault configured broken =>
    refine ⟨calls, [], (List.append_nil _).symm, fun call member => ?_, .inl ⟨rfl, ?_⟩⟩
    · exact isRelease_acquisitions (broken.isPrefix.subset member)
    · rcases broken.acquiring_cases with ⟨unstarted, -⟩ | ⟨-, unregistered⟩
      · exact fun started => absurd started unstarted
      · exact fun _ => unregistered
  | @guarded config made ending configured acquired goes =>
    have started : Call.startHealth config.healthPort ∈ acquisitions config := by
      simp [acquisitions]
    refine ⟨acquisitions config ++ made, releases around, rfl, fun call member => ?_,
      .inr ⟨rfl, ?_, ?_⟩⟩
    · rcases List.mem_append.mp member with inAcquisitions | inMade
      · exact isRelease_acquisitions inAcquisitions
      · exact isRelease_serving (goes.isPrefix.subset inMade)
    · exact ⟨_, List.mem_append_left _ (List.mem_append_left _ started), acquired _ started⟩
    · exact fun number member => acquired _ (registerSignal_acquired member)

/-- The tracker is started exactly if all that is acquired and awaited succeeds before, and is the
last that is called then, but for what releases. -/
theorem startTracker_iff (life : Life around env calls) :
    .startTracker ∈ calls ↔ ∃ config, Configured around env config ∧
      (∀ call ∈ acquisitions config ++ awaiting config, around.Succeeds call) ∧
      calls = acquisitions config ++ awaiting config ++ [.startTracker] ++ releases around := by
  cases life with
  | unconfigured none =>
    refine ⟨nofun, ?_⟩
    rintro ⟨config, configured, -⟩
    exact absurd configured (none config)
  | @unacquired config made fault configured broken =>
    constructor
    · intro member
      exact absurd (broken.isPrefix.subset member) startTracker_not_acquired
    · rintro ⟨config, -, -, rfl⟩
      exact List.mem_append_left _ (List.mem_append_right _ List.mem_cons_self)
  | @guarded config made ending configured acquired goes =>
    constructor
    · intro member
      have started : .startTracker ∈ made := by
        rcases List.mem_append.mp member with before | released
        · rcases List.mem_append.mp before with early | inMade
          · exact absurd early startTracker_not_acquired
          · exact inMade
        · rcases releases_cases around with ⟨-, same⟩ | ⟨-, same⟩
          · simp [same] at released
          · simp [same] at released
      have succeed := (goes.mem_last_iff startTracker_not_awaited).mp started
      refine ⟨config, configured, List.forall_mem_append.mpr ⟨acquired, succeed⟩, ?_⟩
      rw [goes.eq_of_mem_last startTracker_not_awaited started]
      simp only [List.append_assoc]
    · rintro ⟨config, -, -, same⟩
      rw [same]
      exact List.mem_append_left _ (List.mem_append_right _ List.mem_cons_self)

/-- Before the health server is started nothing is called that comes once it is. -/
theorem unstarted (life : Life around env calls) (unstarted : ¬ HealthStarted around calls) :
    ∀ call ∈ calls, call.followsHealth = false := by
  cases life with
  | unconfigured none => exact nofun
  | @unacquired config made fault configured broken =>
    rcases broken.acquiring_cases with ⟨-, early⟩ | ⟨started, -⟩
    · exact early
    · exact absurd started unstarted
  | @guarded config made ending configured acquired goes =>
    have started : Call.startHealth config.healthPort ∈ acquisitions config := by
      simp [acquisitions]
    refine absurd ⟨_, ?_, acquired _ started⟩ unstarted
    exact List.mem_append_left _ (List.mem_append_left _ started)

/-- A configuration that is refused has nothing called. -/
theorem of_refused (life : Life around env calls) {why : ConfigFault}
    (refused : Config.load env = .error why) : calls = [] := by
  cases life with
  | unconfigured none => rfl
  | unacquired configured | guarded configured =>
    cases refused.symm.trans configured.loaded

/-- How often each release is called. -/
theorem counts (life : Life around env calls) :
    calls.count .stopTracker ≤ 1 ∧ calls.count .stopHealth ≤ 1 ∧
      (HealthStarted around calls →
        (calls.count .stopTracker = 1 ↔ Registers around) ∧
          (calls.count .stopHealth = 1 ↔ Registers around ∧ around.Succeeds .stopTracker)) := by
  obtain ⟨acquired, released, rfl, unreleased, ends⟩ := life.released
  have none {call : Call} (isRelease : call.isRelease = true) : acquired.count call = 0 :=
    List.count_eq_zero.mpr fun member => by simp [unreleased call member] at isRelease
  rw [List.count_append, List.count_append, none rfl, none rfl]
  rcases ends with ⟨rfl, unregistered⟩ | ⟨rfl, -, registered⟩
  · refine ⟨Nat.zero_le _, Nat.zero_le _, fun started => ?_⟩
    simp [unregistered started]
  · rcases releases_cases around with ⟨stopped, same⟩ | ⟨stuck, same⟩
    · simp [same, registered, stopped]
    · simp [same, registered, stuck]

end Life

/-- Whatever the environment and whichever calls fail, both releases are called at most once.
Where the health server was started, the tracker is stopped exactly if both signals could be
registered, and the health server exactly if the tracker could then be stopped as well. Where it was
not started, nothing is called that comes after it. The tracker is started exactly if there is a
configuration and everything that is acquired and awaited succeeded, all of it before; without a
configuration nothing is called at all. -/
theorem run_releases (around : Collaborators) (env : Environment) :
    let calls := (run around env).calls
    calls.count .stopTracker ≤ 1 ∧ calls.count .stopHealth ≤ 1 ∧
      (HealthStarted around calls →
        (calls.count .stopTracker = 1 ↔ Registers around) ∧
          (calls.count .stopHealth = 1 ↔ Registers around ∧ around.Succeeds .stopTracker)) ∧
      (¬ HealthStarted around calls → ∀ call ∈ calls, call.followsHealth = false) ∧
      (.startTracker ∈ calls ↔ ∃ config, Configured around env config ∧
        (∀ call ∈ acquisitions config ++ awaiting config, around.Succeeds call) ∧
        calls = acquisitions config ++ awaiting config ++ [.startTracker] ++ releases around) ∧
      ∀ why, Config.load env = .error why → calls = [] := by
  intro calls
  have life : Life around env calls := run_life around env
  obtain ⟨stoppedOnce, shutOnce, released⟩ := life.counts
  exact ⟨stoppedOnce, shutOnce, released, life.unstarted, life.startTracker_iff,
    fun why refused => life.of_refused refused⟩

/-- Waiting for definitions is cancelled before the tracker was started: everything is released. -/
theorem run_releases_when_cancelled :
    let env : Environment := fun name =>
      if name = Config.awaitedCrdsName then some "apps/v1/Deployment" else none
    let around : Collaborators :=
      { failure := fun call =>
          match call with
          | .awaitCrds _ _ => some (.cancelled "stop requested")
          | _ => none
        snapshot := Snapshot.empty
        signal := none }
    let calls := (run around env).calls
    HealthStarted around calls ∧ calls.count .stopTracker = 1 ∧ calls.count .stopHealth = 1 ∧
      .startTracker ∉ calls := by
  intro env around calls
  have started : HealthStarted around calls := ⟨8081, by decide +kernel, rfl⟩
  obtain ⟨-, -, released, -, starts, -⟩ := run_releases around env
  obtain ⟨stopped, shut⟩ := released started
  have registers : Registers around := fun number _ => rfl
  have unstarted : .startTracker ∉ calls := by decide +kernel
  exact ⟨started, stopped.mpr registers, shut.mpr ⟨registers, rfl⟩, unstarted⟩

/-- Where the tracker cannot be stopped, or a signal cannot be registered, the health server is left
running. -/
theorem health_left_running :
    let failing (broken : Call) : Collaborators :=
      { failure := fun call => if call = broken then some (.outside .runtime "broke") else none
        snapshot := Snapshot.empty
        signal := none }
    let calls (broken : Call) := (run (failing broken) fun _ => none).calls
    (HealthStarted (failing .stopTracker) (calls .stopTracker) ∧
      (calls .stopTracker).count .stopTracker = 1 ∧
      (calls .stopTracker).count .stopHealth = 0) ∧
    HealthStarted (failing (.registerSignal 15)) (calls (.registerSignal 15)) ∧
      (calls (.registerSignal 15)).count .stopTracker = 0 ∧
      (calls (.registerSignal 15)).count .stopHealth = 0 := by
  intro failing calls
  have unstopped : HealthStarted (failing .stopTracker) (calls .stopTracker) :=
    ⟨8081, by decide +kernel, rfl⟩
  have unregistered : HealthStarted (failing (.registerSignal 15)) (calls (.registerSignal 15)) :=
    ⟨8081, by decide +kernel, rfl⟩
  exact ⟨⟨unstopped, by decide +kernel, by decide +kernel⟩,
    unregistered, by decide +kernel, by decide +kernel⟩

end ApiSurface.Service
