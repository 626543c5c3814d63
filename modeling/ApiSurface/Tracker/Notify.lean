import ApiSurface.RateLimit
import ApiSurface.Tracker.Rebuild

/-!
# Telling of changes

After a collection that changed the snapshot everyone who had registered by then is
told, in the order of registration; who fails is reported and does not keep the
others from being told. A rebuild that is asked for directly, as at startup, tells
nobody. Watch events and short-interval ticks ask for their rebuilds through the
limiter; a request it drops is forgotten.
-/

namespace ApiSurface.Tracker

variable {τ : Type}

/-- Registers someone who wants to be told of changes. -/
def subscribe (subscriber : Subscriber τ) : Op τ Unit :=
  Op.update fun tracker => { tracker with subscribers := tracker.subscribers ++ [subscriber] }

/-- Registers someone from outside, and puts this on record. -/
def register (subscriber : Subscriber τ) : Op τ Unit := do
  subscribe subscriber
  Op.record .subscribed

/-- Tells one subscriber of a change. -/
def tell (ctx : Context τ) : Subscriber τ → Op τ Unit
  | .client name reply => ctx.ask (.notified name) reply
  | .changeLogger => do
    let snapshot ← getSnapshot
    Op.log .info snapshot.changeMessage

/-- Tells the subscriber who holds a place and reports a failure. -/
def notify (ctx : Context τ) (registered : Subscriber τ × Nat) : Op τ Unit := do
  Op.record (.told registered.2)
  match ← Op.attempt (tell ctx registered.1) with
  | .ok () => pure ()
  | .error _ =>
    Op.count .subscriberErrors
    Op.log .error "API resource change subscriber failed"

/-- Tells everyone registered by now. -/
def notifyAll (ctx : Context τ) : Op τ Unit := do
  Op.each (notify ctx) (← Op.tracker).subscribers.zipIdx

/-- Rebuilds the snapshot and tells nobody of a change. -/
def rebuildDirectly (ctx : Context τ) (given : Option Signal) : Op τ Outcome := do
  let outcome ← rebuild ctx given
  if outcome = .changed then Op.record .untold
  pure outcome

/-- What is logged about a rebuild that failed. -/
def collectionFailure : Fault → LogEntry
  | .cancelled _ => ⟨.debug, "API resource collection cancelled"⟩
  | .refused status reason =>
    ⟨.error, "Failed to collect API resources (status=" ++ status.toText ++ ", reason=" ++
      reason.toText ++ ")"⟩
  | _ => ⟨.error, "Failed to collect API resources"⟩

/-- Rebuilds the snapshot and tells of a change; a failure is reported and gives no outcome. -/
def collectAndNotify (ctx : Context τ) (given : Option Signal) : Op τ (Option Outcome) := do
  match ← Op.attempt (rebuild ctx given) with
  | .error fault =>
    Op.record (.logged (collectionFailure fault))
    pure none
  | .ok .changed =>
    notifyAll ctx
    pure (some .changed)
  | .ok outcome => pure (some outcome)

variable [Scalar τ]

/-- Asks the limiter, at the present clock reading, to let a call through. -/
def askLimiter : Op τ Bool := do
  let world ← Op.world
  let admitted := world.tracker.limiter.admits world.clock
  if admitted then
    Op.update fun tracker => { tracker with limiter := tracker.limiter.admitted world.clock }
  Op.record (.asked world.clock admitted)
  pure admitted

/-- Asks for a rebuild through the limiter and tells whether it was let through. -/
def trigger (ctx : Context τ) (given : Option Signal) : Op τ Bool := do
  if ← askLimiter then
    let _ ← collectAndNotify ctx given
    pure true
  else
    Op.log .debug "Rate limiter dropped API resource collection trigger"
    pure false

end ApiSurface.Tracker
