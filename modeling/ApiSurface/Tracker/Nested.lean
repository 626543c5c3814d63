import ApiSurface.Tracker.Lifecycle

/-!
# Calls back into the tracker

While the tracker waits for its surroundings they may call it again: from within a
listing, a subscriber, a stream or a wait. Such a call is an operation like any
other, and its own surroundings may call back in turn. Nesting is bounded by a
depth; at its end a call fails, which no run that ends by itself ever sees if the
depth is chosen large enough.
-/

namespace ApiSurface.Tracker

variable {τ : Type} [Scalar τ]

/-- What an action does, and what it brings back. -/
def effectOf (ctx : Context τ) : Action τ → Op τ ActionResult
  | .stopTracker => do
    stop ctx (.whole 0)
    pure .nothing
  | .rebuild => do
    let outcome ← rebuildDirectly ctx none
    pure (.outcome outcome)
  | .trigger => do
    let stop ← Context.stopOr ctx.given
    let fired ← trigger ctx (some stop)
    pure (.flag fired)
  | .readSnapshot => do
    let snapshot ← getSnapshot
    pure (.snapshot snapshot)
  | .subscribe name => do
    subscribe (.client name fun _ => { actions := [], outcome := .ok () })
    pure .nothing
  | .raiseStop => do
    let stop ← Context.stopOr ctx.given
    Op.change fun w => w.set stop
    pure .nothing
  | .elapse time => do
    Op.change fun w => { w with clock := w.clock + time }
    pure .nothing

/-- Whether an action is one upon the tracker, which is put on record with its result. -/
def Action.isCall : Action τ → Bool
  | .raiseStop => false
  | .elapse _ => false
  | _ => true

/-- Takes an action; a failure is put on record and goes no further. -/
def perform (ctx : Context τ) (action : Action τ) (w : World τ) : World τ :=
  let act : Op τ Unit := do
    let result ← Op.attempt (effectOf ctx action)
    if action.isCall then Op.record (.acted action result)
  (act w).2

/-- An action at the end of the depth of nesting. -/
def refuse (action : Action τ) (w : World τ) : World τ :=
  { w with journal := .acted action (.error .nestedTooDeep) :: w.journal }

/-- What an operation runs in, with calls back nested up to a depth. -/
def Context.nested (around : Surroundings τ) (given : Option Signal) : Nat → Context τ
  | 0 => { around, given, act := refuse }
  | depth + 1 => { around, given, act := perform (Context.nested around given depth) }

end ApiSurface.Tracker
