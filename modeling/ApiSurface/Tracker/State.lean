import ApiSurface.Crd.Identity
import ApiSurface.Backoff
import ApiSurface.LogEntry
import ApiSurface.RateLimit
import ApiSurface.Scan
import ApiSurface.Snapshot

/-!
# The tracker and its world

A tracker keeps the snapshot of the resources a cluster serves, the identities of
the definitions it knows, and whoever wants to be told of changes. Around it are
the cluster, the clock and the stop signals. Everything that happens is written to
a journal, newest first; what the surroundings answer is a function of the journal,
so they may answer differently every time, and they may call back into the tracker.

The journal is authoritative for what happened; the tracker's fields are
authoritative for what holds now. Operations run one at a time, nested only where the
surroundings call back; of what threads do at once, only the scans of one pass on its
workers are told, by the schedules of `Pool` and `Shift`.
-/

namespace ApiSurface

/-- How a rebuild ended that did not fail. -/
inductive Outcome where
  | changed
  | unchanged
  | skipped
deriving DecidableEq, Repr

/-- The name of an outcome. -/
def Outcome.name : Outcome → String
  | changed => "changed"
  | unchanged => "unchanged"
  | skipped => "skipped"

namespace Tracker

/-- How a tracker is set up. -/
structure Settings (τ : Type) where
  rateLimit : Seconds τ
  collectionInterval : Seconds τ
  fullRescanInterval : Seconds τ
  /-- The workers of a pass, which say how many of its scans may overlap. -/
  workers : Int
  watchTimeout : Seconds τ

/-- What is counted. -/
inductive Counter where
  | scanErrors
  | changed
  | unchanged
  | skipped
  | failed
  | subscriberErrors
  | watchErrors
  | reconnects
  | passes
deriving DecidableEq, Repr

/-- Everything that is counted. -/
def Counter.all : List Counter :=
  [.scanErrors, .changed, .unchanged, .skipped, .failed, .subscriberErrors, .watchErrors,
    .reconnects, .passes]

/-- The name of a counter. -/
def Counter.name : Counter → String
  | scanErrors => "scan_errors"
  | changed => "changed"
  | unchanged => "unchanged"
  | skipped => "skipped"
  | failed => "failed"
  | subscriberErrors => "subscriber_errors"
  | watchErrors => "watch_errors"
  | reconnects => "reconnects"
  | passes => "passes"

/-- The counter of an outcome. -/
def Counter.ofOutcome : Outcome → Counter
  | .changed => .changed
  | .unchanged => .unchanged
  | .skipped => .skipped

/-- The loops that run in the background once a tracker is started. -/
inductive Loop where
  | watch
  | collection
  | fullRescan
deriving DecidableEq, Repr

/-- The name of the thread a loop runs on. -/
def Loop.threadName : Loop → String
  | watch => "crd-watch"
  | collection => "periodic-collection"
  | fullRescan => "periodic-full-rescan"

/-- All loops, in the order in which they are started. -/
def Loop.all : List Loop := [.watch, .collection, .fullRescan]

/-- A stop signal. -/
abbrev Signal := Nat

/-- What the surroundings may do while the tracker waits for them. -/
inductive Action (τ : Type) where
  /-- Raises the stop signal of the running operation. -/
  | raiseStop
  /-- Stops the tracker. -/
  | stopTracker
  /-- Asks for a rebuild under the tracker's own stop signal. -/
  | rebuild
  /-- Asks for a rebuild through the limiter, under the stop signal of the running operation. -/
  | trigger
  | readSnapshot
  | subscribe (name : Text)
  /-- Time passes. -/
  | elapse (time : τ)
deriving Repr

/-- What the surroundings answer: what they do first, and how they end. -/
structure Reply (τ α : Type) where
  actions : List (Action τ)
  outcome : Except Fault α

/-- What an action brings back to whoever took it. -/
inductive ActionResult where
  | nothing
  | outcome (outcome : Outcome)
  | flag (b : Bool)
  | snapshot (snapshot : Snapshot)

/-- One thing that happened. -/
inductive Entry (τ : Type) where
  /-- The served group-versions were asked for. -/
  | listedGroups
  /-- The served group-versions were answered. -/
  | answeredGroups (listed : List GroupVersion)
  /-- The resources of a group-version were asked for, by its key. -/
  | requestedResources (key : Text)
  /-- The resources of a group-version were answered. -/
  | answeredResources (gv : GroupVersion) (listing : Listing)
  /-- The custom resource definitions were asked for. -/
  | listedCrds
  /-- A subscriber was called. -/
  | notified (name : Text)
  /-- Someone was registered from outside, after everyone registered before. -/
  | subscribed
  /-- Whoever holds a place in the order of registration was told of a change. -/
  | told (place : Nat)
  /-- A rebuild replaced the snapshot, and its caller tells nobody. -/
  | untold
  /-- The surroundings took an action. -/
  | acted (action : Action τ) (result : Except Fault ActionResult)
  /-- A watch stream was opened, for at most a number of seconds. -/
  | openedStream (timeout : Seconds τ)
  /-- A watch was told to stop. -/
  | stoppedWatch
  /-- A wait between two attempts. -/
  | waited (delay : τ)
  /-- A wait for the next tick. -/
  | paused (interval : Seconds τ)
  | startedLoop (loop : Loop)
  | joined (loop : Loop) (timeout : Seconds τ)
  | logged (entry : LogEntry)
  | counted (counter : Counter)
  /-- A stop signal was raised. -/
  | signalled (signal : Signal)
  /-- A rebuild began, holding the lock. -/
  | beganRebuild
  /-- A discovery pass was completed. -/
  | completedPass (collected : Snapshot)
  /-- A snapshot was installed. -/
  | installed (snapshot : Snapshot)
  /-- The known definitions were replaced by those listed. -/
  | replacedKnown (uids : List Text)
  /-- An event of a watch stream was decoded. -/
  | decoded (event : WatchEvent)
  /-- An event was applied. -/
  | applied (event : CrdEvent)
  /-- The limiter was asked at a clock reading, and let the call through or not. -/
  | asked (reading : τ) (admitted : Bool)

/-- The journal, newest entry first. -/
abbrev Journal (τ : Type) := List (Entry τ)

/-- The log entry that a journal entry is, if it is one. -/
def Entry.logged? {τ : Type} : Entry τ → Option LogEntry
  | logged entry => some entry
  | _ => none

/-- Whether an entry counts something under a counter. -/
def Entry.isCount {τ : Type} (counter : Counter) : Entry τ → Bool
  | counted other => other == counter
  | _ => false

/-- Whether an entry is a wait. -/
def Entry.isWait {τ : Type} : Entry τ → Bool
  | waited _ => true
  | paused _ => true
  | _ => false

/-- Whether an entry is the opening of a stream. -/
def Entry.isOpening {τ : Type} : Entry τ → Bool
  | openedStream _ => true
  | _ => false

/-- Everything that was logged, oldest entry first. -/
def logsOf {τ : Type} (journal : Journal τ) : List LogEntry :=
  (journal.filterMap Entry.logged?).reverse

/-- How often something was counted. -/
def countOf {τ : Type} (counter : Counter) (journal : Journal τ) : Nat :=
  journal.countP (Entry.isCount counter)

/-- The number of waits. -/
def waitsIn {τ : Type} (journal : Journal τ) : Nat := journal.countP Entry.isWait

/-- The number of streams opened. -/
def openingsIn {τ : Type} (journal : Journal τ) : Nat := journal.countP Entry.isOpening

/-- Someone who wants to be told of changes. -/
inductive Subscriber (τ : Type) where
  | client (name : Text) (reply : Journal τ → Reply τ Unit)
  /-- Logs the size of the new snapshot. -/
  | changeLogger

/-- The state of a tracker. -/
structure State (τ : Type) where
  settings : Settings τ
  snapshot : Snapshot
  known : Crd.IdentitySet
  subscribers : List (Subscriber τ)
  limiter : Limiter τ
  /-- A rebuild holds the lock. -/
  rebuilding : Bool
  ready : Bool
  ownStop : Signal
  loops : List Loop
  /-- A watch stream is open. -/
  watching : Bool
  /-- The number of watch streams opened so far. -/
  streams : Nat
  crdsGauge : Nat
  groupVersionsGauge : Nat

/-- A tracker with what is around it. -/
structure World (τ : Type) where
  tracker : State τ
  raised : List Signal
  nextSignal : Signal
  clock : τ
  journal : Journal τ

/-- What a watch stream brings, one after the other. -/
inductive StreamItem (τ : Type) where
  | event (raw : Value)
  | action (action : Action τ)

/-- A watch stream: why it cannot be opened, what it brings, and how it breaks off. -/
structure Stream (τ : Type) where
  refusal : Option Fault
  items : List (StreamItem τ)
  ending : Option Fault

/-- How the surroundings behave, given everything that happened so far. -/
structure Surroundings (τ : Type) where
  groups : Journal τ → Reply τ (List GroupVersion)
  resources : Text → Journal τ → Reply τ Listing
  crds : Journal τ → Reply τ (List Value)
  stream : Journal τ → Stream τ
  /-- What happens during a wait. -/
  duringWait : Journal τ → List (Action τ)
  /-- What a wait answers, given whether the stop signal is set by then. -/
  wakes : Bool → Journal τ → Bool
  /-- The longest wait that can be made, if there is one. -/
  longestWait : Option τ
  /-- Whether a loop keeps running although it was asked to stop. -/
  stuck : Loop → Bool

end Tracker

end ApiSurface
