import ApiSurface.Backoff
import ApiSurface.Fault

/-!
# Retrying forever

An operation is called again and again, with a wait after every call. The waits
follow a backoff, which starts afresh after a call that found things healthy; the
loop steps a copy of the backoff it was given, and makes a new copy to start afresh.
The loop ends only when a stop is seen, before a call or by a wait, or when the
operation or a wait fails; since none of this need ever happen, a run is bounded by a
number of rounds and says when it is still going on.
-/

namespace ApiSurface.Retry

variable {σ τ : Type}

/-- An operation to retry, and the surroundings it is retried in. -/
structure Task (σ τ : Type) where
  stopSet : σ → Bool
  call : σ → Except Fault Bool × σ
  /-- Waits and tells whether a stop was seen, or fails if it cannot wait for so long. -/
  wait : τ → σ → Except Fault Bool × σ

/-- What happens in a loop. -/
inductive Event (τ : Type) where
  /-- A call returned, finding things healthy or not. -/
  | called (healthy : Bool)
  /-- A call failed. -/
  | raised
  /-- A wait of some length. -/
  | waited (delay : τ)
deriving DecidableEq, Repr

/-- How a loop ends. -/
inductive Ending where
  | cancelled
  /-- The operation failed. -/
  | failed (fault : Fault)
  /-- A wait could not be made. -/
  | waitFailed (fault : Fault)
  /-- The loop was left without a fault. -/
  | returned
  /-- The bound on rounds was reached. -/
  | running

/-- The fault that a loop ended with, if it ended with one. -/
def Ending.fault? : Ending → Option Fault
  | cancelled => some Fault.stopRequested
  | failed fault => some fault
  | waitFailed fault => some fault
  | returned => none
  | running => none

/-- Whether a loop was left without a fault. -/
def Ending.isReturned : Ending → Bool
  | returned => true
  | _ => false

/-- Where a loop stands: the backoff it was given, the copy of it that is stepped, and the
source of random numbers. -/
structure Cursor (τ : Type) where
  given : Backoff τ
  current : Backoff τ
  draws : Draws τ

namespace Cursor

/-- A loop begins with a copy of the backoff it is given. -/
def start (backoff : Backoff τ) (draws : Draws τ) : Cursor τ :=
  { given := backoff, current := backoff, draws }

/-- After a call that found things healthy a new copy is made. -/
def afterCall (cursor : Cursor τ) (healthy : Bool) : Cursor τ :=
  if healthy then { cursor with current := cursor.given } else cursor

/-- Steps the copy, and gives the delay that it hands out. -/
def step [Scalar τ] (cursor : Cursor τ) : τ × Cursor τ :=
  let (delay, draws) := cursor.current.delay cursor.draws
  (delay, { cursor with current := cursor.current.next, draws })

end Cursor

/-- A loop so far: what happened, how it ended, and what it left behind. -/
structure Run (σ τ : Type) where
  events : List (Event τ)
  ending : Ending
  state : σ
  cursor : Cursor τ

/-- A run with events in front of it. -/
def Run.after (run : Run σ τ) (events : List (Event τ)) : Run σ τ :=
  { run with events := events ++ run.events }

variable [Scalar τ]

/-- Goes on retrying from where the loop stands, for a number of rounds. -/
def loop (task : Task σ τ) : Nat → Cursor τ → σ → Run σ τ
  | 0, cursor, state => { events := [], ending := .running, state, cursor }
  | rounds + 1, cursor, state =>
    if task.stopSet state then { events := [], ending := .cancelled, state, cursor }
    else
      match task.call state with
      | (.error fault, state) => { events := [.raised], ending := .failed fault, state, cursor }
      | (.ok healthy, state) =>
        let (delay, cursor) := (cursor.afterCall healthy).step
        match task.wait delay state with
        | (.error fault, state) =>
          { events := [.called healthy], ending := .waitFailed fault, state, cursor }
        | (.ok true, state) =>
          { events := [.called healthy, .waited delay], ending := .cancelled, state, cursor }
        | (.ok false, state) =>
          (loop task rounds cursor state).after [.called healthy, .waited delay]

/-- Retries an operation until a stop is seen, or it or a wait fails. -/
def forever (task : Task σ τ) (backoff : Backoff τ) (rounds : Nat) (draws : Draws τ)
    (state : σ) : Run σ τ :=
  loop task rounds (.start backoff draws) state

end ApiSurface.Retry
