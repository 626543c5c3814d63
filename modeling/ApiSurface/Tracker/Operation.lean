import ApiSurface.Tracker.State

/-!
# Operations

An operation takes the world to another world and either returns a result or fails;
either way what it did remains done. Failures pass through `bind` and are caught by
`attempt` alone.
-/

namespace ApiSurface.Tracker

/-- An operation on the world. -/
def Op (τ α : Type) := World τ → Except Fault α × World τ

namespace Op

variable {τ α β : Type}

/-- The operation that returns a result and does nothing. -/
protected def pure (a : α) : Op τ α := fun w => (.ok a, w)

/-- One operation after another, unless the first fails. -/
protected def bind (op : Op τ α) (next : α → Op τ β) : Op τ β := fun w =>
  match op w with
  | (.ok a, w) => next a w
  | (.error fault, w) => (.error fault, w)

instance : Monad (Op τ) where
  pure := Op.pure
  bind := Op.bind

theorem pure_apply (a : α) (w : World τ) : (pure a : Op τ α) w = (.ok a, w) := rfl

theorem bind_apply (op : Op τ α) (next : α → Op τ β) (w : World τ) :
    (op >>= next) w =
      match op w with
      | (.ok a, w) => next a w
      | (.error fault, w) => (.error fault, w) := rfl

/-- Fails. -/
def raise (fault : Fault) : Op τ α := fun w => (.error fault, w)

/-- Runs an operation and returns how it ended. -/
def attempt (op : Op τ α) : Op τ (Except Fault α) := fun w =>
  match op w with
  | (result, w) => (.ok result, w)

/-- Ends as a given attempt ended. -/
def conclude : Except Fault α → Op τ α
  | .ok a => pure a
  | .error fault => raise fault

/-- The world as it is. -/
def world : Op τ (World τ) := fun w => (.ok w, w)

/-- The tracker as it is. -/
def tracker : Op τ (State τ) := fun w => (.ok w.tracker, w)

/-- Changes the world. -/
def change (f : World τ → World τ) : Op τ Unit := fun w => (.ok (), f w)

/-- Changes the tracker. -/
def update (f : State τ → State τ) : Op τ Unit :=
  change fun w => { w with tracker := f w.tracker }

/-- Writes to the journal. -/
def record (entry : Entry τ) : Op τ Unit :=
  change fun w => { w with journal := entry :: w.journal }

/-- Writes a log entry to the journal. -/
def log (severity : Severity) (message : Text) : Op τ Unit :=
  record (.logged { severity, message })

/-- Counts something. -/
def count (counter : Counter) : Op τ Unit := record (.counted counter)

/-- Runs operations on the members of a list in turn. -/
def each (op : α → Op τ Unit) : List α → Op τ Unit
  | [] => pure ()
  | a :: rest => do
    op a
    each op rest

end Op

namespace World

variable {τ : Type}

/-- Whether a stop signal is set. -/
def isSet (w : World τ) (signal : Signal) : Bool := w.raised.contains signal

/-- The world with a stop signal set. -/
def set (w : World τ) (signal : Signal) : World τ :=
  { w with
      raised := if w.isSet signal then w.raised else w.raised ++ [signal]
      journal := .signalled signal :: w.journal }

end World

/-- What an operation runs in: the surroundings, the stop signal given to the outermost
operation if any, and what the surroundings' actions do. -/
structure Context (τ : Type) where
  around : Surroundings τ
  given : Option Signal
  act : Action τ → World τ → World τ

namespace Context

variable {τ α : Type}

/-- Lets the surroundings take their actions. -/
def takeActions (ctx : Context τ) (actions : List (Action τ)) : Op τ Unit :=
  Op.change fun w => actions.foldl (fun w action => ctx.act action w) w

/-- Asks the surroundings, putting the question on record. -/
def ask (ctx : Context τ) (question : Entry τ) (answer : Journal τ → Reply τ α) : Op τ α := do
  Op.record question
  let reply := answer (← Op.world).journal
  ctx.takeActions reply.actions
  Op.conclude reply.outcome

/-- The stop signal of an operation: the one given to it, else the tracker's own. -/
def stopOr (given : Option Signal) : Op τ Signal := do
  match given with
  | some signal => pure signal
  | none => pure (← Op.tracker).ownStop

/-- Whether a stop signal is set. -/
def stopSet (signal : Signal) : Op τ Bool := do
  pure ((← Op.world).isSet signal)

end Context

end ApiSurface.Tracker
