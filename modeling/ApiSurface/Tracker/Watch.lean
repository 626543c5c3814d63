import ApiSurface.Retry
import ApiSurface.Tracker.Notify

/-!
# Watching definitions

A change of a definition asks for a rebuild, with two exceptions: the additions
with which every watch replays what is already known, and anything but the final
deletion of a definition that is being torn down.

A stream is read up to the first of: an event seen after a stop, the server's last
word, an event that cannot be interpreted at all, the stream breaking off, or its
end. Malformed events are passed over. Only its end and a stop count as healthy. A
watch reconnects forever, with growing pauses after streams that were not healthy.
-/

namespace ApiSurface.Tracker

variable {τ : Type} [Scalar τ]

/-- Marks a definition's identity as known if it is added, and tells whether it was new or
the event is of another type. -/
def noteIdentity (event : CrdEvent) : Op τ Bool := do
  if event.change = .added then
    if (← Op.tracker).known.contains event.crd.uid then pure false
    else
      Op.update fun tracker => { tracker with known := tracker.known.insert event.crd.uid }
      pure true
  else pure true

/-- Answers an event that is news: it asks for a rebuild unless its definition is being torn
down. -/
def answerEvent (ctx : Context τ) (event : CrdEvent) (given : Option Signal) : Op τ Bool := do
  Op.update fun tracker => { tracker with crdsGauge := tracker.known.size }
  if event.crd.terminating && event.change != .deleted then
    Op.log .info ("Skipping API resource collection for terminating CRD " ++ event.crd.name)
    pure false
  else
    let stop ← Context.stopOr given
    let _ ← trigger ctx (some stop)
    pure true

/-- Applies one event and tells whether it asked for a rebuild. -/
def handleEvent (ctx : Context τ) (event : CrdEvent) (given : Option Signal) : Op τ Bool := do
  Op.log .debug ("CRD watch event " ++ event.change.name ++ " for " ++ event.crd.name ++
    " (uid=" ++ event.crd.uid ++ ")")
  Op.record (.applied event)
  if ← noteIdentity event then answerEvent ctx event given else pure false

/-- Decodes what came as one event and applies it. -/
def handleRaw (ctx : Context τ) (raw : Value) (given : Option Signal) : Op τ Bool := do
  match WatchEvent.decode raw with
  | .ok (.change event) => handleEvent ctx event given
  | .ok (.error _) => Op.raise (.misuse .missingMember)
  | .error fault => Op.raise (Fault.ofDecode fault)

/-- The code of a stream's last word as it shows in messages. -/
def codeText : Option Int → String
  | some code => toString code
  | none => "None"

/-- A stream that was read to its end. -/
def closeStream : Op τ Bool := do
  Op.log .info "CRD watch stream closed"
  pure true

/-- A stream that the server ended with a last word. -/
def reportStreamError (status : StreamError) : Op τ Bool := do
  Op.count .watchErrors
  Op.log .warning ("CRD watch error event received (code=" ++ codeText status.code ++ ", reason=" ++
    status.reason ++ "): " ++ status.message)
  pure false

/-- Reads a stream and tells whether it was healthy. -/
def readStream (ctx : Context τ) (stop : Signal) (ending : Option Fault) :
    List (StreamItem τ) → Op τ Bool
  | [] =>
    match ending with
    | some fault => Op.raise fault
    | none => closeStream
  | .action action :: rest => do
    ctx.takeActions [action]
    readStream ctx stop ending rest
  | .event raw :: rest => do
    if ← Context.stopSet stop then closeStream
    else
      match WatchEvent.decode raw with
      | .error (.misuse kind) => Op.raise (.misuse kind)
      | .error (.malformed why) =>
        Op.log .warning ("Ignoring malformed CRD watch event: " ++ why.message)
        readStream ctx stop ending rest
      | .ok (.error status) =>
        Op.record (.decoded (.error status))
        reportStreamError status
      | .ok (.change event) =>
        Op.record (.decoded (.change event))
        let _ ← handleEvent ctx event (some stop)
        readStream ctx stop ending rest

/-- Opens a stream and reads it. -/
def openStream (ctx : Context τ) (stop : Signal) : Op τ Bool := do
  Op.record (.openedStream (← Op.tracker).settings.watchTimeout)
  let stream := ctx.around.stream (← Op.world).journal
  match stream.refusal with
  | some fault => Op.raise fault
  | none =>
    Op.log .info "Starting CRD watch"
    readStream ctx stop stream.ending stream.items

/-- Whether a status says that access was denied. A status that can change cannot be
looked up among those that do. -/
def deniesAccess (status : Value) : Except Misuse Bool :=
  if status.isLookupKey then .ok (status.same (.int 401) || status.same (.int 403))
  else .error .wrongType

/-- What is logged about a stream that failed. -/
def watchFailure : Fault → Except Misuse LogEntry
  | .refused status _ => do
    if ← deniesAccess status then
      .ok ⟨.error, "Kubernetes API denied CRD watch (status=" ++ status.toText ++
        "). Check RBAC for customresourcedefinitions list/watch."⟩
    else .ok ⟨.error, "Kubernetes API CRD watch error"⟩
  | _ => .ok ⟨.error, "Unexpected CRD watch error"⟩

/-- Reports a stream that failed. -/
def reportWatchFailure (fault : Fault) : Op τ Bool := do
  Op.count .watchErrors
  match watchFailure fault with
  | .ok entry =>
    Op.record (.logged entry)
    pure false
  | .error kind => Op.raise (.misuse kind)

/-- Opens and reads a stream; failures are reported and count as not healthy. -/
def followStream (ctx : Context τ) (stop : Signal) : Op τ Bool := do
  match ← Op.attempt (openStream ctx stop) with
  | .ok healthy => pure healthy
  | .error fault => reportWatchFailure fault

/-- Registers a watch that is open, or none. -/
def setWatching (watching : Bool) : Op τ Unit :=
  Op.update fun tracker => { tracker with watching }

/-- Counts a stream about to be opened. -/
def countStream : Op τ Unit := do
  if 0 < (← Op.tracker).streams then Op.count .reconnects
  Op.update fun tracker => { tracker with streams := tracker.streams + 1 }

/-- Watches through one stream and tells whether it was healthy. -/
def watchOnce (ctx : Context τ) (stop : Signal) : Op τ Bool := do
  setWatching true
  if ← Context.stopSet stop then
    setWatching false
    pure true
  else
    countStream
    let result ← Op.attempt (followStream ctx stop)
    Op.record .stoppedWatch
    setWatching false
    Op.conclude result

/-- Whether a wait is too long to be made. -/
def Surroundings.overlong (around : Surroundings τ) (length : τ) : Bool :=
  match around.longestWait with
  | some longest => decide (longest < length)
  | none => false

/-- A wait that is made, while the surroundings go on, and whether it was woken. -/
def Context.waitOut (ctx : Context τ) (entry : Entry τ) (length : τ) (stop : Signal)
    (w : World τ) : Bool × World τ :=
  let w := { w with clock := w.clock + length, journal := entry :: w.journal }
  let w := (ctx.around.duringWait w.journal).foldl (fun w action => ctx.act action w) w
  (ctx.around.wakes (w.isSet stop) w.journal, w)

/-- Waits and tells whether a stop was seen. How long the wait is matters only if no stop is
seen at once. -/
def Context.wait (ctx : Context τ) (entry : Entry τ) (length : τ) (stop : Signal) : Op τ Bool :=
  fun w =>
    if ctx.around.overlong length && !w.isSet stop then (.error (.misuse .outOfRange), w)
    else
      match ctx.waitOut entry length stop w with
      | (woken, w) => (.ok woken, w)

/-- Watching as something to be retried. -/
def watchTask (ctx : Context τ) (stop : Signal) : Retry.Task (World τ) τ where
  stopSet w := w.isSet stop
  call := watchOnce ctx stop
  wait delay := ctx.wait (.waited delay) delay stop

/-- What a watch makes of the fault that ended it: a stop is reported, and is no failure. -/
def endWatching (fault : Fault) : Op τ Bool := do
  if fault.isCancelled then
    Op.log .info "Stopping CRD watch"
    pure true
  else Op.raise fault

/-- Watches through one stream after the other, for a number of rounds, and tells whether
the loop ended by then. -/
def watchForever (ctx : Context τ) (stop : Signal) (rounds : Nat) (draws : Draws τ) : Op τ Bool :=
  fun w =>
    let run := Retry.forever (watchTask ctx stop) Backoff.reconnecting rounds draws w
    match run.ending.fault? with
    | some fault => endWatching fault run.state
    | none => (.ok run.ending.isReturned, run.state)

end ApiSurface.Tracker
