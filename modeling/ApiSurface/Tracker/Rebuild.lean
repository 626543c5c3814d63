import ApiSurface.Tracker.Pass

/-!
# Rebuilding the snapshot

A rebuild lists the group-versions, runs one discovery pass over them and installs
what it put together if that differs from the snapshot in place. Only one rebuild
runs at a time; a second one is skipped, not queued. A rebuild that fails leaves
the snapshot as it was, and the lock is free again however a rebuild ends.
-/

namespace ApiSurface.Tracker

variable {τ : Type}

namespace Op

/-- Runs an operation and counts something if it fails, before failing likewise. -/
def countingFailure {α : Type} (counters : List Counter) (op : Op τ α) : Op τ α := do
  match ← attempt op with
  | .ok a => pure a
  | .error fault =>
    each count counters
    raise fault

end Op

/-- Asks which group-versions are served. -/
def listGroups (ctx : Context τ) : Op τ (List GroupVersion) := do
  let listed ← ctx.ask .listedGroups ctx.around.groups
  Op.record (.answeredGroups listed)
  pure listed

/-- Lists the served group-versions and runs a discovery pass over them. -/
def discover (ctx : Context τ) (stop : Signal) : Op τ Snapshot := do
  let groupVersions ← Op.countingFailure [.scanErrors, .failed] (listGroups ctx)
  Op.log .debug ("Discovered " ++ toString groupVersions.length ++ " group-versions")
  let collected ← Op.countingFailure [.failed] (Pass.run ctx stop groupVersions)
  Op.count .passes
  Op.record (.completedPass collected)
  pure collected

/-- Puts a snapshot in place. -/
def replaceSnapshot (collected : Snapshot) : Op τ Unit := do
  Op.update fun tracker =>
    { tracker with snapshot := collected, groupVersionsGauge := collected.size }
  Op.record (.installed collected)
  Op.log .info ("API resources updated: " ++ collected.sizeText)

/-- Installs what a pass put together if it differs from the snapshot in place. -/
def install (collected : Snapshot) : Op τ Outcome := do
  match collected.equals (← Op.tracker).snapshot with
  | .error kind => Op.raise (.misuse kind)
  | .ok true =>
    Op.log .debug "API resources unchanged"
    Op.count .unchanged
    pure .unchanged
  | .ok false =>
    replaceSnapshot collected
    Op.count .changed
    pure .changed

/-- Takes or gives back the lock that rebuilds hold. -/
def holdLock (held : Bool) : Op τ Unit :=
  Op.update fun tracker => { tracker with rebuilding := held }

/-- A rebuild that holds the lock. -/
def rebuildLocked (ctx : Context τ) (stop : Signal) : Op τ Outcome := do
  let collected ← discover ctx stop
  install collected

/-- A rebuild that found the lock taken. -/
def skipRebuild : Op τ Outcome := do
  Op.log .debug "API resource collection already in progress; skipping"
  Op.count .skipped
  pure .skipped

/-- Rebuilds the snapshot, unless a rebuild is under way. -/
def rebuild (ctx : Context τ) (given : Option Signal) : Op τ Outcome := do
  let stop ← Context.stopOr given
  if (← Op.tracker).rebuilding then skipRebuild
  else
    holdLock true
    Op.record .beganRebuild
    let result ← Op.attempt (rebuildLocked ctx stop)
    holdLock false
    Op.conclude result

/-- The snapshot in place, once there is one. -/
def getSnapshot : Op τ Snapshot := do
  let tracker ← Op.tracker
  if tracker.ready then pure tracker.snapshot else Op.raise .notStarted

end ApiSurface.Tracker
