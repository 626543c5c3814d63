import ApiSurface.Config
import ApiSurface.Fault
import ApiSurface.LogEntry
import ApiSurface.Snapshot

/-!
# The life of the service

The service sets its log level, describes its build and reads its configuration. It
acquires what it needs in a fixed order, waits for the definitions it was told to
wait for, runs the tracker until a signal arrives, and releases the tracker and the
health server on every way out of that. A failure while releasing takes the place
of an earlier one. What was acquired before the protected part is not released if
the acquisition of something later fails. Any call may fail, and so may what the
service does between its calls.
-/

namespace ApiSurface.Service

/-- What identifies a build. -/
structure BuildInfo where
  version : Text
  revision : Text
deriving DecidableEq, Repr

/-- The build as the environment describes it. -/
def BuildInfo.ofEnvironment (env : Environment) : BuildInfo :=
  { version := (env "APP_VERSION").getD "0.1.0"
    revision := (env "GIT_SHA").getD "unknown" }

/-- The setting that asks for a log level. -/
def levelSettingName : Text := "LOG_LEVEL"

/-- A call to one of the service's collaborators. -/
inductive Call where
  | loadAccess
  | buildClients (poolSize : Int)
  | createTracker (config : Config)
  | subscribe
  | startHealth (port : Int)
  | registerSignal (number : Int)
  | createWaiter
  | awaitCrds (gvks : List Crd.GroupVersionKind) (timeout : Int)
  | startTracker
  | stopTracker
  | stopHealth
deriving DecidableEq, Repr

/-- One thing that happened. -/
inductive Event where
  | called (call : Call)
  | logged (entry : LogEntry)
  /-- The log level was set. -/
  | levelSet (level : Int)
  /-- The build was described. -/
  | described (build : BuildInfo)
deriving DecidableEq, Repr

/-- The call that was made, if one was. -/
def Event.call? : Event → Option Call
  | called call => some call
  | _ => none

/-- What was logged, if anything was. -/
def Event.entry? : Event → Option LogEntry
  | logged entry => some entry
  | _ => none

/-- The log level that was set, if one was. -/
def Event.level? : Event → Option Int
  | levelSet level => some level
  | _ => none

/-- The build that was described, if one was. -/
def Event.build? : Event → Option BuildInfo
  | described build => some build
  | _ => none

/-- What the service does by itself between its calls: it describes its build once its log is
set up, and it waits to be told to end once its tracker runs. -/
inductive Phase where
  | describing
  | waiting
deriving DecidableEq, Repr

/-- What the collaborators do: which calls fail, the snapshot that subscribers are told of,
and the signal that arrives while the tracker runs, if one does; and what breaks off the
phases between the calls, if anything does. -/
structure Collaborators where
  failure : Call → Option Fault
  snapshot : Snapshot
  signal : Option Int
  breakdown : Phase → Option Fault := fun _ => none

/-- What happened in order, and how it ended. -/
structure Run where
  events : List Event
  ending : Except Fault Unit

namespace Run

/-- The calls made. -/
def calls (run : Run) : List Call := run.events.filterMap Event.call?

/-- Everything that was logged. -/
def logs (run : Run) : List LogEntry := run.events.filterMap Event.entry?

/-- The log level that was set, or the one in force where none was. -/
def level (run : Run) : Int := (run.events.findSome? Event.level?).getD Level.default

/-- The build as it was described, if it was. -/
def build? (run : Run) : Option BuildInfo := run.events.findSome? Event.build?

/-- The run in which nothing happened. -/
def done : Run := { events := [], ending := .ok () }

/-- One run and, unless it failed, another. -/
def andThen (run next : Run) : Run :=
  match run.ending with
  | .ok () => { events := run.events ++ next.events, ending := next.ending }
  | .error _ => run

/-- One run and, however it ended, another whose failure counts more. -/
def andFinally (run cleanup : Run) : Run :=
  { events := run.events ++ cleanup.events
    ending :=
      match cleanup.ending with
      | .ok () => run.ending
      | .error fault => .error fault }

/-- A run that only reports. -/
def report (message : Text) : Run :=
  { events := [.logged ⟨.info, message⟩], ending := .ok () }

/-- A run of these events that ends with a fault if there is one. -/
def endingWith (events : List Event) (failure : Option Fault) : Run :=
  { events
    ending :=
      match failure with
      | none => .ok ()
      | some fault => .error fault }

end Run

/-- Makes one call. -/
def make (around : Collaborators) (call : Call) : Run :=
  .endingWith [.called call] (around.failure call)

/-- Goes through a phase between the calls. -/
def pass (around : Collaborators) (phase : Phase) : Run := .endingWith [] (around.breakdown phase)

/-- Makes calls in turn, up to the first that fails. -/
def makeAll (around : Collaborators) : List Call → Run
  | [] => Run.done
  | call :: rest => (make around call).andThen (makeAll around rest)

/-- The signals that end the service, in the order in which they are registered. -/
def terminatingSignals : List Int := [15, 2]

/-- The calls that acquire what the service needs. -/
def acquisitions (config : Config) : List Call :=
  [.loadAccess, .buildClients config.discoveryWorkers, .createTracker config, .subscribe,
    .startHealth config.healthPort] ++ terminatingSignals.map .registerSignal

/-- The calls that wait for definitions. -/
def awaiting (config : Config) : List Call :=
  if config.awaitedCrds.isEmpty then []
  else [.createWaiter, .awaitCrds config.awaitedCrds config.crdWaitTimeoutSeconds]

/-- What is reported while the tracker runs: the new snapshot, and the signal to end. -/
def reporting (around : Collaborators) : Run :=
  (Run.report around.snapshot.changeMessage).andThen
    (match around.signal with
      | some number => Run.report ("Received signal " ++ toString number ++ ", shutting down")
      | none => Run.done)

/-- What happens while the tracker runs. -/
def running (around : Collaborators) : Run := (reporting around).andThen (pass around .waiting)

/-- The protected part: waits for definitions and runs the tracker. -/
def serving (around : Collaborators) (config : Config) : Run :=
  (makeAll around (awaiting config ++ [.startTracker])).andThen (running around)

/-- Releases the tracker and the health server. -/
def releasing (around : Collaborators) : Run :=
  (makeAll around [.stopTracker, .stopHealth]).andThen (Run.report "Resource tracker stopped")

/-- The life of a service with a configuration. -/
def runWith (around : Collaborators) (config : Config) : Run :=
  (makeAll around (acquisitions config)).andThen
    ((serving around config).andFinally (releasing around))

/-- The life of a service in an environment, once its log is set up. -/
def runConfigured (around : Collaborators) (env : Environment) : Run :=
  match Config.load env with
  | .error why => { events := [], ending := .error (.badConfig why) }
  | .ok config => runWith around config

/-- Sets the log level. -/
def settingLevel (env : Environment) : Run :=
  match Level.ofSetting (env levelSettingName) with
  | .error why => { events := [], ending := .error (Fault.ofLevel why) }
  | .ok level => { events := [.levelSet level], ending := .ok () }

/-- Describes the build. -/
def describing (around : Collaborators) (env : Environment) : Run :=
  (pass around .describing).andThen
    { events := [.described (BuildInfo.ofEnvironment env)], ending := .ok () }

/-- Sets the log level and describes the build. -/
def introducing (around : Collaborators) (env : Environment) : Run :=
  (settingLevel env).andThen (describing around env)

/-- The life of a service in an environment. -/
def run (around : Collaborators) (env : Environment) : Run :=
  (introducing around env).andThen (runConfigured around env)

end ApiSurface.Service
