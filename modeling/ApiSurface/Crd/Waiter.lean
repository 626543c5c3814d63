import ApiSurface.Backoff
import ApiSurface.Fault
import ApiSurface.LogEntry
import ApiSurface.Value.Number

/-!
# Waiting for definitions to be established

Definitions are polled one after the other, each with its own backoff and budget of
attempts, all of them under one deadline. Whatever a read brings back, short of an
established definition, means *not yet*. No read may outlive the deadline, no wait
goes beyond it, and a stop is looked for before every read and during every wait.
-/

namespace ApiSurface.Crd

variable {σ τ : Type}

/-- What a waiter needs of its surroundings. -/
structure Surroundings (σ τ : Type) where
  clock : σ → τ
  stopSet : σ → Bool
  /-- Reads a definition, with a limit on how long that may take. -/
  read : Text → τ → σ → Except Fault Value × σ
  /-- Waits, and tells whether a stop was seen. A wait of this kind lasts some seconds at most, as
  `Backoff.polling` caps it, and does not fail. -/
  wait : τ → σ → Bool × σ

/-- What a waiter does. -/
inductive WaiterEvent (τ : Type) where
  | read (name : Text) (limit : τ)
  | waited (delay : τ)
  | logged (entry : LogEntry)

/-- A waiter at work: its surroundings' state, its random numbers, and what it did, newest
event first. -/
structure Waiting (σ τ : Type) where
  state : σ
  draws : Draws τ
  events : List (WaiterEvent τ)

namespace Waiting

/-- One more thing done. -/
def record (waiting : Waiting σ τ) (event : WaiterEvent τ) : Waiting σ τ :=
  { waiting with events := event :: waiting.events }

/-- One more log entry. -/
def log (waiting : Waiting σ τ) (severity : Severity) (message : Text) : Waiting σ τ :=
  waiting.record (.logged { severity, message })

end Waiting

/-- The log entry that something done is, if it is one. -/
def WaiterEvent.logged? : WaiterEvent τ → Option LogEntry
  | logged entry => some entry
  | _ => none

/-- Everything a waiter logged, oldest entry first. -/
def Waiting.logs (waiting : Waiting σ τ) : List LogEntry :=
  (waiting.events.filterMap WaiterEvent.logged?).reverse

/-- A waiter, with its number of attempts per definition. -/
structure Waiter where
  attempts : Nat
  attempts_pos : 0 < attempts

namespace Waiter

/-- The number of attempts where none is given. -/
def defaultAttempts : Int := 30

/-- A waiter with at least one attempt per definition. -/
def create (attempts : Int) : Except Fault Waiter :=
  if h : 1 ≤ attempts then .ok ⟨attempts.toNat, by omega⟩ else .error .noAttempts

variable [Scalar τ]

/-- The least time a read is given. -/
def leastLimit : τ := 0.001

/-- What is logged about a read that failed. -/
def readFailure (name : Text) : Fault → Text
  | .refused status _ =>
    if status.same (.int 404) then "CRD " ++ name ++ " not found, retrying"
    else "Error fetching CRD " ++ name ++ " (status=" ++ status.toText ++ "), retrying"
  | fault => "Error fetching CRD " ++ name ++ ", retrying: " ++ fault.message

/-- Judges what a read brought back, with a reason to log if it is not yet enough. -/
def judge (name : Text) : Except Fault Value → Except Fault (Option Text)
  | .error fault => .ok (some (readFailure name fault))
  | .ok payload =>
    match Info.ofValue payload with
    | .error .withoutUid => .ok (some ("CRD " ++ name ++ " has no uid yet, retrying"))
    | .error (.misuse kind) => .error (.misuse kind)
    | .ok info =>
      if info.established then .ok none
      else .ok (some ("CRD " ++ name ++ " not yet established, retrying"))

/-- Reads a definition once and tells whether it is established. -/
def look (around : Surroundings σ τ) (name : Text) (limit : τ) (waiting : Waiting σ τ) :
    Except Fault Bool × Waiting σ τ :=
  let (answer, state) := around.read name limit waiting.state
  let waiting := { waiting with state }.record (.read name limit)
  match judge name answer with
  | .error fault => (.error fault, waiting)
  | .ok none => (.ok true, waiting)
  | .ok (some reason) => (.ok false, waiting.log .debug reason)

/-- Waits between two looks and tells whether a stop was seen. -/
def pause (around : Surroundings σ τ) (backoff : Backoff τ) (remaining : τ)
    (waiting : Waiting σ τ) : Bool × Waiting σ τ :=
  let (delay, draws) := backoff.delay waiting.draws
  let delay := Scalar.smaller delay remaining
  let (stopped, state) := around.wait delay waiting.state
  (stopped, { waiting with state, draws }.record (.waited delay))

/-- Polls one definition, with a number of attempts left. -/
def poll (around : Surroundings σ τ) (name : Text) (deadline : τ) :
    Nat → Backoff τ → Waiting σ τ → Except Fault Unit × Waiting σ τ
  | 0, _, waiting => (.error (.notEstablished name), waiting)
  | left + 1, backoff, waiting =>
    if around.stopSet waiting.state then (.error (Fault.stopWhileWaiting name), waiting)
    else
      let limit := Scalar.larger (deadline - around.clock waiting.state) leastLimit
      match look around name limit waiting with
      | (.error fault, waiting) => (.error fault, waiting)
      | (.ok true, waiting) => (.ok (), waiting)
      | (.ok false, waiting) =>
        let remaining := deadline - around.clock waiting.state
        if remaining ≤ 0.0 ∨ left = 0 then (.error (.notEstablished name), waiting)
        else
          match pause around backoff remaining waiting with
          | (true, waiting) => (.error (Fault.stopWhileWaiting name), waiting)
          | (false, waiting) => poll around name deadline left backoff.next waiting

/-- Polls definitions in turn, up to the first that is not established. -/
def pollAll (waiter : Waiter) (around : Surroundings σ τ) (deadline : τ) :
    List Text → Waiting σ τ → Except Fault Unit × Waiting σ τ
  | [], waiting => (.ok (), waiting)
  | name :: names, waiting =>
    match poll around name deadline waiter.attempts Backoff.polling waiting with
    | (.error fault, waiting) => (.error fault, waiting)
    | (.ok (), waiting) =>
      pollAll waiter around deadline names (waiting.log .info ("CRD " ++ name ++ " is established"))

/-- Waits until every named definition is established, for at most `timeout`. -/
def awaitAll (waiter : Waiter) (around : Surroundings σ τ) (names : List Text)
    (timeout : τ) (waiting : Waiting σ τ) : Except Fault Unit × Waiting σ τ :=
  pollAll waiter around (around.clock waiting.state + timeout) names waiting

/-- The log entries that announce what is waited for. -/
def announce (gvks : List GroupVersionKind) (waiting : Waiting σ τ) : Waiting σ τ :=
  gvks.foldl (fun waiting gvk =>
    waiting.log .info ("Waiting for CRD " ++ gvk.definitionName ++ " (" ++ gvk.text ++ ")")) waiting

/-- Waits for the definitions behind a list of kinds. -/
def awaitKinds (waiter : Waiter) (around : Surroundings σ τ) (gvks : List GroupVersionKind)
    (timeout : τ) (waiting : Waiting σ τ) : Except Fault Unit × Waiting σ τ :=
  awaitAll waiter around (gvks.map GroupVersionKind.definitionName) timeout
    (announce gvks waiting)

end Waiter

end ApiSurface.Crd
