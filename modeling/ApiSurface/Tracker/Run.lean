import ApiSurface.Tracker.Nested
import ApiSurface.Tracker.Schedule

/-!
# Runs

Everything that is asked of a tracker from outside is one of a few operations, asked
for in surroundings that may differ from one time to the next. A run is a list of
such requests, and the world after a run is what all of them left behind, whether
they succeeded or failed. Statements about every state a tracker can be in are
statements about the world after every run.
-/

namespace ApiSurface.Tracker

variable {τ : Type}

/-- What may be asked of a tracker. -/
inductive Operation (τ : Type) where
  | subscribe (subscriber : Subscriber τ)
  | rebuild
  | refreshKnown
  /-- A rebuild whose failure is reported. -/
  | collect
  /-- A rebuild asked for through the limiter. -/
  | trigger
  | fullRescan
  /-- One event of a watch, as it came. -/
  | event (raw : Value)
  | readSnapshot
  /-- Watching through one stream. -/
  | watchOnce
  | watchForever (rounds : Nat) (draws : Draws τ)
  | collectPeriodically (rounds : Nat)
  | rescanPeriodically (rounds : Nat)
  | start
  | stop (timeout : Seconds τ)
  | elapse (time : τ)

/-- What an outcome brings back, if there is one. -/
def ActionResult.ofOutcome? : Option Outcome → ActionResult
  | some ended => .outcome ended
  | none => .nothing

variable [Scalar τ]

/-- What an operation does, and what it brings back. -/
def Operation.effect (ctx : Context τ) (operation : Operation τ) : Op τ ActionResult := do
  let signal ← Context.stopOr ctx.given
  match operation with
  | .subscribe subscriber =>
    register subscriber
    pure .nothing
  | .rebuild =>
    let outcome ← rebuildDirectly ctx ctx.given
    pure (.outcome outcome)
  | .refreshKnown =>
    Tracker.refreshKnown ctx
    pure .nothing
  | .collect =>
    let outcome ← collectAndNotify ctx (some signal)
    pure (.ofOutcome? outcome)
  | .trigger =>
    let fired ← Tracker.trigger ctx (some signal)
    pure (.flag fired)
  | .fullRescan =>
    let outcome ← Tracker.fullRescan ctx ctx.given
    pure (.ofOutcome? outcome)
  | .event raw =>
    let triggered ← handleRaw ctx raw ctx.given
    pure (.flag triggered)
  | .readSnapshot =>
    let snapshot ← getSnapshot
    pure (.snapshot snapshot)
  | .watchOnce =>
    let healthy ← Tracker.watchOnce ctx signal
    pure (.flag healthy)
  | .watchForever rounds draws =>
    let _ ← Tracker.watchForever ctx signal rounds draws
    pure .nothing
  | .collectPeriodically rounds =>
    let _ ← Tracker.collectPeriodically ctx signal rounds
    pure .nothing
  | .rescanPeriodically rounds =>
    let _ ← Tracker.rescanPeriodically ctx signal rounds
    pure .nothing
  | .start =>
    Tracker.start ctx ctx.given
    pure .nothing
  | .stop timeout =>
    Tracker.stop ctx timeout
    pure .nothing
  | .elapse time =>
    Op.change fun w => { w with clock := w.clock + time }
    pure .nothing

/-- An operation with the surroundings it is asked for in, the stop signal given to it, if
any, and how deep calls back may be nested. -/
structure Request (τ : Type) where
  around : Surroundings τ
  given : Option Signal
  depth : Nat
  operation : Operation τ

/-- Carries out a request. -/
def Request.perform (request : Request τ) : Op τ ActionResult :=
  request.operation.effect (Context.nested request.around request.given request.depth)

/-- The world after a run. -/
def World.after (w : World τ) (requests : List (Request τ)) : World τ :=
  requests.foldl (fun w request => (request.perform w).2) w

/-- The worlds that a tracker made with some settings can come to be in. -/
inductive Reachable (settings : Settings τ) : World τ → Prop where
  | created {clock : τ} {w : World τ} (made : World.create settings clock = .ok w) :
      Reachable settings w
  | performed {w : World τ} (prior : Reachable settings w) (request : Request τ) :
      Reachable settings (request.perform w).2

end ApiSurface.Tracker
