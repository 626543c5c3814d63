import ApiSurface.Tracker.Operation

/-!
# Discovery passes

A pass scans group-versions one after the other and puts their resources together.
Its first failure is the pass's own: after it no further scan is begun, and nothing
that was put together before it is handed out. A stop is looked for before every
scan and once more when all are done.

This is what a single worker does. `Pool` and `Shift` tell of the scans that overlap on
several workers, and a pass as it runs here goes along one of their schedules.
-/

namespace ApiSurface.Tracker

/-- A discovery pass under way: what was put together so far, and its first failure. -/
structure Pass where
  results : Snapshot
  failure : Option Fault

namespace Pass

/-- A pass that has not begun. -/
def start : Pass := { results := Snapshot.empty, failure := none }

/-- The pass after a scan that succeeded. -/
def add (pass : Pass) (key : Text) (resources : List Resource) : Pass :=
  { pass with results := pass.results.add key resources }

/-- The pass after a scan that failed; an earlier failure counts. -/
def fail (pass : Pass) (fault : Fault) : Pass :=
  { pass with failure := some (pass.failure.getD fault) }

variable {τ : Type}

/-- Asks for the resources of one group-version. -/
def request (ctx : Context τ) (gv : GroupVersion) : Op τ (List Resource) := do
  let listing ← ctx.ask (.requestedResources gv.key) (ctx.around.resources gv.key)
  Op.record (.answeredResources gv listing)
  match Scan.resources gv listing with
  | .ok resources => pure resources
  | .error kind => Op.raise (.misuse kind)

/-- Requests one group-version and reports a failure. -/
def attemptScan (ctx : Context τ) (pass : Pass) (gv : GroupVersion) : Op τ Pass := do
  match ← Op.attempt (request ctx gv) with
  | .ok resources => pure (pass.add gv.key resources)
  | .error fault =>
    Op.count .scanErrors
    Op.log .error ("Failed to discover API resources for " ++ gv.key)
    pure (pass.fail fault)

/-- Scans one group-version, unless a stop is seen or the pass has failed. -/
def scan (ctx : Context τ) (stop : Signal) (pass : Pass) (gv : GroupVersion) : Op τ Pass := do
  if ← Context.stopSet stop then pure (pass.fail Fault.stopDuringCollection)
  else if pass.failure.isSome then pure pass
  else attemptScan ctx pass gv

/-- Scans group-versions in turn. -/
def scanAll (ctx : Context τ) (stop : Signal) : List GroupVersion → Pass → Op τ Pass
  | [], pass => pure pass
  | gv :: rest, pass => do
    let pass ← scan ctx stop pass gv
    scanAll ctx stop rest pass

/-- What a pass hands out when all scans are done. -/
def finish (stop : Signal) (pass : Pass) : Op τ Snapshot := do
  match pass.failure with
  | some fault => Op.raise fault
  | none =>
    if ← Context.stopSet stop then Op.raise Fault.stopDuringCollection
    else pure pass.results

/-- Runs one pass over group-versions. -/
def run (ctx : Context τ) (stop : Signal) (groupVersions : List GroupVersion) : Op τ Snapshot := do
  let pass ← scanAll ctx stop groupVersions start
  finish stop pass

end Pass

end ApiSurface.Tracker
