import ApiSurface.Tracker.Known
import ApiSurface.Tracker.Notify

/-!
# Starting and stopping

Startup is all or nothing: the known definitions are listed and the first snapshot
is collected before the tracker calls itself ready and starts its loops, and a
failure of either leaves it as not ready as it was. Stopping raises the tracker's
stop signal, interrupts an open watch and waits for the loops, each for a limited
time.
-/

namespace ApiSurface.Tracker

variable {τ : Type}

/-- Raises the tracker's own stop signal. -/
def raiseOwnStop : Op τ Unit := Op.change fun w => w.set w.tracker.ownStop

/-- A stop signal that nobody else has. -/
def freshSignal : Op τ Signal := fun w =>
  (.ok w.nextSignal, { w with nextSignal := w.nextSignal + 1 })

/-- Makes a stop signal the tracker's own. -/
def adopt (signal : Signal) : Op τ Unit :=
  Op.update fun tracker => { tracker with ownStop := signal }

/-- Calls the tracker ready. -/
def becomeReady : Op τ Unit := do
  Op.update fun tracker => { tracker with ready := true }
  Op.log .info ("Resource tracker ready with " ++ toString (← Op.tracker).snapshot.size ++
    " group-versions")

/-- Starts the background loops. -/
def startLoops : Op τ Unit := do
  Op.update fun tracker => { tracker with loops := Loop.all }
  Op.each (fun loop => Op.record (.startedLoop loop)) Loop.all

/-- Starts the tracker with a stop signal given to it or a fresh one. -/
def start (ctx : Context τ) (given : Option Signal) : Op τ Unit := do
  let stop ← match given with
    | some signal => pure signal
    | none => freshSignal
  adopt stop
  match ← Op.attempt (refreshKnown ctx) with
  | .error cause => Op.raise (.startFailed cause)
  | .ok () =>
    let _ ← rebuildDirectly ctx (some stop)
    becomeReady
    startLoops

/-- Waits for one loop to end, for a limited time. -/
def join (ctx : Context τ) (timeout : Seconds τ) (timeoutText : String) (loop : Loop) :
    Op τ Unit := do
  Op.record (.joined loop timeout)
  if ctx.around.stuck loop then
    Op.log .warning ("Thread " ++ loop.threadName ++ " did not stop within " ++ timeoutText ++ "s")

/-- Interrupts an open watch. -/
def interruptWatch : Op τ Unit := do
  if (← Op.tracker).watching then Op.record .stoppedWatch

/-- Stops the tracker, waiting for each loop no longer than a time limit. -/
def stop [Scalar τ] (ctx : Context τ) (timeout : Seconds τ) : Op τ Unit := do
  raiseOwnStop
  interruptWatch
  Op.each (join ctx timeout timeout.text) (← Op.tracker).loops
  Op.update fun tracker => { tracker with loops := [] }

/-- How long each loop is waited for where nothing else is said. -/
def defaultJoinTimeout [Scalar τ] : Seconds τ := .fractional 10.0

/-- The settings of a tracker where nothing else is said. -/
def Settings.default [Scalar τ] : Settings τ :=
  { rateLimit := .fractional 5.0
    collectionInterval := .fractional 30.0
    fullRescanInterval := .fractional 900.0
    workers := 16
    watchTimeout := .whole 300 }

/-- The settings that a configuration gives a tracker. -/
def Settings.ofConfig (config : Config) : Settings τ :=
  { rateLimit := .whole config.rateLimitSeconds
    collectionInterval := .whole config.collectionIntervalSeconds
    fullRescanInterval := .whole config.fullRescanIntervalSeconds
    workers := config.discoveryWorkers
    watchTimeout := .whole config.watchTimeoutSeconds }

/-- A tracker that has collected nothing yet. -/
def State.create [Scalar τ] (settings : Settings τ) (ownStop : Signal) :
    Except Fault (State τ) :=
  if settings.workers < 1 then .error .noWorkers
  else
    match Limiter.create settings.rateLimit with
    | .error fault => .error fault
    | .ok limiter =>
      .ok
        { settings, limiter, ownStop
          snapshot := Snapshot.empty
          known := Crd.IdentitySet.empty
          subscribers := []
          rebuilding := false
          ready := false
          loops := []
          watching := false
          streams := 0
          crdsGauge := 0
          groupVersionsGauge := 0 }

/-- The world in which a tracker has just been made. -/
def World.create [Scalar τ] (settings : Settings τ) (clock : τ) : Except Fault (World τ) := do
  let tracker ← State.create settings 0
  .ok { tracker, clock, raised := [], nextSignal := 1, journal := [] }

end ApiSurface.Tracker
