import ApiSurface.RateLimit

/-!
# Jobs behind one limiter

A job takes time, may ask the same limiter to run further jobs, nested to any
depth, and may fail. What it does next may depend on how a job it asked for came out,
and a fault of that one is its own to pass on or to swallow. Running a job through
the limiter tells whether it ran; a failing job's fault goes to whoever asked for it.
-/

namespace ApiSurface

variable {τ : Type}

/-- Work to be run through a limiter. -/
inductive Job (τ : Type) where
  | done
  | failed (fault : Fault)
  /-- The clock goes on from its reading to another before the rest. -/
  | passes (tick : τ → τ) (rest : Job τ)
  /-- The limiter is asked to run a job, and the rest depends on what comes of it. -/
  | asks (inner : Job τ) (rest : Except Fault Bool → Job τ)

/-- What happens behind a limiter. -/
inductive Job.Event (τ : Type) where
  /-- A call was let through at a clock reading and its job began, at a depth of nesting. -/
  | began (depth : Nat) (reading : τ)
  /-- A call was dropped. -/
  | dropped (depth : Nat) (reading : τ)
  /-- A job that was let through ran to completion. -/
  | completed (depth : Nat)
deriving Repr

/-- A limiter with the clock it reads and the record of what happened, newest event first. -/
structure Gate (τ : Type) where
  limiter : Limiter τ
  clock : τ
  events : List (Job.Event τ)

namespace Gate

/-- The gate with one more event on record. -/
def record (gate : Gate τ) (event : Job.Event τ) : Gate τ :=
  { gate with events := event :: gate.events }

/-- The gate when the clock has gone on. -/
def passed (gate : Gate τ) (tick : τ → τ) : Gate τ := { gate with clock := tick gate.clock }

variable [Scalar τ]

/-- The gate after a call was let through. -/
def enter (gate : Gate τ) (depth : Nat) : Gate τ :=
  { gate with limiter := gate.limiter.admitted gate.clock }.record (.began depth gate.clock)

/-- The gate after some time. -/
def elapse (gate : Gate τ) (time : τ) : Gate τ := gate.passed (· + time)

/-- Offers the limiter something to run, and tells whether it ran. -/
def offer (gate : Gate τ) (depth : Nat) (work : Gate τ → Except Fault Unit × Gate τ) :
    Except Fault Bool × Gate τ :=
  if gate.limiter.admits gate.clock then
    match work (gate.enter depth) with
    | (.error fault, gate) => (.error fault, gate)
    | (.ok (), gate) => (.ok true, gate.record (.completed depth))
  else (.ok false, gate.record (.dropped depth gate.clock))

end Gate

namespace Job

variable [Scalar τ]

/-- Does the work of a job that was let through; its own calls are at this depth. -/
def run : Job τ → Nat → Gate τ → Except Fault Unit × Gate τ
  | done, _, gate => (.ok (), gate)
  | failed fault, _, gate => (.error fault, gate)
  | passes tick rest, depth, gate => rest.run depth (gate.passed tick)
  | asks inner rest, depth, gate =>
    match gate.offer depth (inner.run (depth + 1)) with
    | (answer, gate) => (rest answer).run depth gate

/-- The limiter is asked to run several jobs in turn, up to the first that fails. -/
def inTurn (jobs : List (Job τ)) (rest : Job τ) : Job τ :=
  jobs.foldr
    (fun job later => .asks job fun
      | .error fault => .failed fault
      | .ok _ => later)
    rest

/-- A job that takes some time, asks for further jobs in turn and then fails or does not. -/
def mk (takes : τ) (inner : List (Job τ)) (failure : Option Fault) : Job τ :=
  .passes (· + takes) (inTurn inner (failure.elim .done .failed))

end Job

/-- Asks the limiter to run a job. -/
def Gate.submit [Scalar τ] (gate : Gate τ) (depth : Nat) (job : Job τ) :
    Except Fault Bool × Gate τ :=
  gate.offer depth (job.run (depth + 1))

end ApiSurface
