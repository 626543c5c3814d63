import ApiSurface.Proofs.Tracker.Events
import ApiSurface.Proofs.Tracker.Streams
import ApiSurface.Tracker.Run

/-!
# What every operation does

A relation between worlds that follows what the tracker does by itself holds of every
operation, whatever the surroundings answer and do and however the operation ends, if it
holds of calls back and of rebuilds. So does `Advances`: the journal grows, stop signals
that are set stay set, the lock is free again if it was free, and a consistent world
stays consistent. Every world that a run comes to is consistent.
-/

namespace ApiSurface.Tracker

variable {τ : Type} {R : World τ → World τ → Prop} {ctx : Context τ}

/-! ## What the tracker does by itself -/

/-- Two states of a tracker that hold the same snapshot, the same known definitions and the same
subscribers, the lock alike, and have seen as many streams. -/
structure State.Tuned (tracker other : State τ) : Prop where
  snapshot : other.snapshot = tracker.snapshot
  gauge : other.groupVersionsGauge = tracker.groupVersionsGauge
  lock : other.rebuilding = tracker.rebuilding
  known : other.known = tracker.known
  crdsGauge : other.crdsGauge = tracker.crdsGauge
  subscribers : other.subscribers = tracker.subscribers
  streams : other.streams = tracker.streams

namespace World

/-- The world in which someone was registered from outside. -/
def registered (w : World τ) (subscriber : Subscriber τ) : World τ :=
  { w with
      tracker := { w.tracker with subscribers := w.tracker.subscribers ++ [subscriber] }
      journal := .subscribed :: w.journal }

/-- The world in which known definitions were replaced by listed ones. -/
def relisted (w : World τ) (uids : List Text) : World τ :=
  { w with
      tracker :=
        { w.tracker with known := Crd.IdentitySet.ofList uids, crdsGauge := uids.length }
      journal :=
        .logged ⟨.debug, "Refreshed CRD identity set with " ++ toString uids.length ++ " CRDs"⟩ ::
          .replacedKnown uids :: w.journal }

end World

/-- The world in which a stream was counted as gone wrong. -/
def World.streamFailed (w : World τ) : World τ :=
  { w with journal := .counted .watchErrors :: w.journal }

/-- A tolerant relation that goes along with what an event by itself does. -/
class Learning (R : World τ → World τ → Prop) : Prop extends Tolerant R where
  ofReplayed : ∀ {w : World τ} {event : CrdEvent}, w.tracker.Repeats event → R w (w.applied event)
  ofLearned : ∀ {w : World τ} {event : CrdEvent}, ¬ w.tracker.Repeats event →
    R w (w.applied event).gauged

/-- A tolerant relation that goes along with what the tracker does by itself. -/
class Following (R : World τ → World τ → Prop) : Prop extends Learning R where
  ofTuned : ∀ {w : World τ} {tracker : State τ}, w.tracker.Tuned tracker →
    R w { w with tracker := tracker }
  ofSignal : ∀ {w : World τ} {signal : Signal}, R w { w with nextSignal := signal }
  ofRegistered : ∀ {w : World τ} (subscriber : Subscriber τ), R w (w.registered subscriber)
  ofRelisted : ∀ {w : World τ} (uids : List Text), R w (w.relisted uids)
  ofOpened : ∀ {w : World τ}, R w w.streamCounted.opened
  ofStreamFailed : ∀ {w : World τ}, R w w.streamFailed

instance : Following (Advances : World τ → World τ → Prop) where
  ofCalm calm := calm.quiet.toAdvances
  ofReplayed {w event} _ := (Advances.noted (.applied event) rfl nofun).trans (.updated rfl rfl rfl)
  ofLearned {w event} _ := (Advances.noted (.applied event) rfl nofun).trans (.updated rfl rfl rfl)
  ofTuned tuned := .updated tuned.snapshot tuned.gauge tuned.lock
  ofSignal := ⟨List.suffix_refl _, id, rfl, fun consistent =>
    ⟨consistent.yields, consistent.gauge, consistent.readings⟩⟩
  ofRegistered _ := (Advances.noted .subscribed rfl nofun).trans (.updated rfl rfl rfl)
  ofRelisted uids := (Advances.noted (.replacedKnown uids) rfl nofun).trans
    ((Quiet.plain rfl).toAdvances.trans (.updated rfl rfl rfl))
  ofOpened {w} := by
    have counted : Advances w w.streamCounted := by
      unfold World.streamCounted
      split
      · exact (Advances.noted (.counted .reconnects) rfl nofun).trans (.updated rfl rfl rfl)
      · exact .updated rfl rfl rfl
    exact counted.trans (.noted (.openedStream _) rfl nofun)
  ofStreamFailed := .noted (.counted .watchErrors) rfl nofun

/-! ## Events -/

/-- Once an event is received, nothing is left to do if it repeats what is known; and if it is news,
the gauge is made right and a rebuild is asked for at most. -/
theorem Context.Lawful.afterReceived [Tolerant R] [Scalar τ] (lawful : ctx.Lawful R)
    (event : CrdEvent) (given : Option Signal) (w : World τ) :
    w.tracker.Repeats event ∧ (Tracker.handleEvent ctx event given w).2 = w.received event ∨
      ¬ w.tracker.Repeats event ∧
        R (w.received event).gauged (Tracker.handleEvent ctx event given w).2 := by
  by_cases repeats : w.tracker.Repeats event
  · rw [handleEvent_of_repeats repeats]
    exact .inl ⟨repeats, rfl⟩
  refine .inr ⟨repeats, ?_⟩
  rw [handleEvent_of_news repeats]
  by_cases held : event.HeldBack
  · rw [answerEvent_of_heldBack held]
    exact Op.Moves.plain (R := R) rfl _
  · rw [answerEvent_of_change held]
    exact Op.Moves.bind (lawful.trigger _) (fun _ => .pure _) _

/-- An event is applied, and whatever comes of it is asking for a rebuild. -/
theorem Context.Lawful.handleEvent [Learning R] [Scalar τ] (lawful : ctx.Lawful R)
    (event : CrdEvent) (given : Option Signal) : (handleEvent ctx event given).Moves R := by
  intro w
  have heard : R w (w.heard event) := Op.Moves.plain (R := R) rfl w
  rcases lawful.afterReceived event given w with ⟨repeats, ends⟩ | ⟨news, after⟩
  · have again : (w.heard event).tracker.Repeats event := repeats
    rw [ends]
    exact trans_of R heard (Learning.ofReplayed again)
  · have stillNews : ¬ (w.heard event).tracker.Repeats event := news
    have learned : R w (w.received event).gauged :=
      trans_of R heard (Learning.ofLearned stillNews)
    exact trans_of R learned after

namespace Op.Moves

variable [Following R]

/-- A change of what neither snapshot, known definitions, subscribers nor the lock are about. -/
theorem update {f : State τ → State τ} (tuned : ∀ tracker : State τ, tracker.Tuned (f tracker)) :
    (Op.update f).Moves R := fun w => Following.ofTuned (tuned w.tracker)

end Op.Moves

variable [Following R]

/-! ## The known definitions -/

/-- Reading what was listed writes nothing but warnings. -/
theorem collectUids_calm (items : List Value) :
    (collectUids items : Op τ (List Text)).Moves Calm := by
  induction items with
  | nil => exact .pure []
  | cons item rest ih =>
    rw [collectUids]
    split
    · exact .bind ih fun _ => .pure _
    · exact .bind (.record_held rfl) fun _ => ih
    · exact .raise _

/-- Replacing what is known is the whole of what it does. -/
theorem replaceKnown_apply (uids : List Text) (w : World τ) :
    replaceKnown uids w = (.ok (), w.relisted uids) := rfl

theorem replaceKnown_moves (uids : List Text) : (replaceKnown uids : Op τ Unit).Moves R :=
  fun _ => Following.ofRelisted uids

theorem Context.Lawful.refreshKnown (lawful : ctx.Lawful R) : (refreshKnown ctx).Moves R :=
  .bind (lawful.ask _ rfl _) fun items =>
    .bind (collectUids_calm items).tolerated fun uids => replaceKnown_moves uids

/-! ## Starting and stopping -/

theorem startLoops_moves : (startLoops : Op τ Unit).Moves R :=
  .bind (.update fun _ => ⟨rfl, rfl, rfl, rfl, rfl, rfl, rfl⟩) fun _ => .each fun _ _ => .plain rfl

theorem becomeReady_moves : (becomeReady : Op τ Unit).Moves R :=
  .bind (.update fun _ => ⟨rfl, rfl, rfl, rfl, rfl, rfl, rfl⟩) fun _ =>
    .bind .tracker fun _ => .plain rfl

/-- Starting is followed also where the definitions cannot be listed or the first rebuild
fails. -/
theorem Context.Lawful.start (lawful : ctx.Lawful R) (given : Option Signal) :
    (start ctx given).Moves R := by
  have adopting : ∀ signal, (Tracker.start ctx (some signal)).Moves R := by
    intro signal
    refine .bind (.pure signal) fun stop =>
      .bind (.update fun _ => ⟨rfl, rfl, rfl, rfl, rfl, rfl, rfl⟩) fun _ =>
        .bind lawful.refreshKnown.attempt fun refreshed => ?_
    cases refreshed with
    | error cause => exact .raise _
    | ok _ =>
      exact .bind (lawful.rebuilds (some stop)) fun _ =>
        .bind becomeReady_moves fun _ => startLoops_moves
  cases given with
  | some signal => exact adopting signal
  | none => exact .bind (fun _ => Following.ofSignal) adopting

theorem stop_moves [Scalar τ] (timeout : Seconds τ) : (stop ctx timeout).Moves R := by
  intro w
  obtain ⟨mid, calm, stopped⟩ := stop_apply ctx timeout w
  rw [stopped]
  have tuned : mid.tracker.Tuned { mid.tracker with loops := [] } :=
    ⟨rfl, rfl, rfl, rfl, rfl, rfl, rfl⟩
  exact trans_of R (Tolerant.ofCalm calm) (Following.ofTuned tuned)

/-! ## Watching -/

theorem closeStream_moves : (closeStream : Op τ Bool).Moves R :=
  .bind (.plain rfl) fun _ => .pure _

theorem reportWatchFailure_moves (fault : Fault) :
    (reportWatchFailure fault : Op τ Bool).Moves R := by
  refine .bind (fun _ => Following.ofStreamFailed) fun _ => ?_
  cases reported : watchFailure fault with
  | ok entry =>
    have error : entry.severity ≠ .debug := by simp [watchFailure_severity reported]
    exact .bind (.plain (Entry.logged_plain error)) fun _ => .pure _
  | error kind => exact .raise _

theorem setWatching_moves (watching : Bool) : (setWatching watching : Op τ Unit).Moves R :=
  .update fun _ => ⟨rfl, rfl, rfl, rfl, rfl, rfl, rfl⟩

section Watching

variable [Scalar τ]

theorem Context.Lawful.handleRaw (lawful : ctx.Lawful R) (raw : Value) (given : Option Signal) :
    (handleRaw ctx raw given).Moves R := by
  unfold Tracker.handleRaw
  split
  · exact lawful.handleEvent _ given
  · exact .raise _
  · exact .raise _

/-- Reading a stream is followed item by item. -/
theorem Context.Lawful.readStream (lawful : ctx.Lawful R) (stop : Signal)
    (ending : Option Fault) (items : List (StreamItem τ)) :
    (readStream ctx stop ending items).Moves R := by
  induction items with
  | nil =>
    cases ending with
    | some fault => exact .raise _
    | none => exact closeStream_moves
  | cons item rest ih =>
    cases item with
    | action action =>
      exact .bind (.takeActions lawful.acts [action]) fun _ => ih
    | event raw =>
      refine .bind (.stopSet stop) fun set => ?_
      cases set with
      | true => exact closeStream_moves
      | false =>
        simp only [Bool.false_eq_true, if_false]
        split
        · exact .raise _
        · exact .bind (.plain rfl) fun _ => ih
        · exact .bind (.plain rfl) fun _ =>
            .bind (fun _ => Following.ofStreamFailed) fun _ => .bind (.plain rfl) fun _ => .pure _
        · exact .bind (.plain rfl) fun _ =>
            .bind (lawful.handleEvent _ _) fun _ => ih

/-- Once a stream is opened it is refused, or read. -/
theorem Context.Lawful.openStream (lawful : ctx.Lawful R) (stop : Signal) (w : World τ) :
    R w.opened (openStream ctx stop w).2 := by
  rw [openStream_apply]
  cases (ctx.around.stream w.opened.journal).refusal with
  | some fault => exact refl_of R _
  | none =>
    have reported : R w.opened (w.opened.reported "Starting CRD watch") :=
      Op.Moves.plain (R := R) rfl _
    exact trans_of R reported (lawful.readStream stop _ _ _)

theorem Context.Lawful.followStream (lawful : ctx.Lawful R) (stop : Signal) (w : World τ) :
    R w.opened (followStream ctx stop w).2 := by
  have opened := lawful.openStream stop w
  rw [Tracker.followStream, Op.bind_apply, Op.attempt_apply]
  cases (Tracker.openStream ctx stop w).1 with
  | ok healthy => exact opened
  | error fault => exact trans_of R opened (reportWatchFailure_moves fault _)

theorem Context.Lawful.watchOnce (lawful : ctx.Lawful R) (stop : Signal) :
    (watchOnce ctx stop).Moves R := by
  intro w
  cases set : w.isSet stop with
  | true =>
    rw [watchOnce_of_set set]
    exact setWatching_moves false w
  | false =>
    rw [watchOnce_of_unset ctx set]
    have opened : R w w.watched.opened :=
      trans_of R (setWatching_moves (R := R) true w) Following.ofOpened
    have followed := trans_of R opened (lawful.followStream stop w.watched)
    have closed : (do
        Op.record .stoppedWatch
        setWatching false : Op τ Unit).Moves R :=
      .bind (.plain rfl) fun _ => setWatching_moves false
    exact trans_of R followed (closed _)

/-- A wait lets time pass, and the surroundings act, unless it is too long to be made. -/
theorem Context.Lawful.wait (lawful : ctx.Lawful R) {entry : Entry τ}
    (plain : entry.isPlain = true) (length : τ) (stop : Signal) :
    (ctx.wait entry length stop).Moves R := by
  refine Context.wait_moves fun w => ?_
  have passed : R w { w with clock := w.clock + length } := Tolerant.ofCalm (Held.elapsed _)
  have noted : R w _ := trans_of R passed (Op.Moves.plain plain _)
  exact trans_of R noted (Op.Moves.takeActions lawful.acts _ _)

/-- Watching forever goes on through streams and waits. -/
theorem Context.Lawful.watchForever (lawful : ctx.Lawful R) (stop : Signal) (rounds : Nat)
    (draws : Draws τ) : (watchForever ctx stop rounds draws).Moves R :=
  watchForever_moves (lawful.watchOnce stop) (fun _ => lawful.wait rfl _ stop) (.plain rfl) rounds
    draws

end Watching

/-! ## Ticks -/

/-- The report of a full rescan is all that is written about it. -/
theorem rescanReport_calm (outcome : Option Outcome) :
    (rescanReport outcome : Op τ Unit).Moves Calm := by
  unfold rescanReport
  split
  · exact .record_held rfl
  · exact .record_held rfl
  · exact .pure ()

theorem Context.Lawful.refreshOrReport (lawful : ctx.Lawful R) : (refreshOrReport ctx).Moves R := by
  refine .bind lawful.refreshKnown.attempt fun result => ?_
  cases result with
  | ok _ => exact .pure ()
  | error fault => exact .plain rfl

theorem Context.Lawful.fullRescan (lawful : ctx.Lawful R) (given : Option Signal) :
    (fullRescan ctx given).Moves R :=
  .bind (.plain rfl) fun _ => .bind lawful.refreshOrReport fun _ =>
    .bind (.stopOr given) fun stop => .bind (lawful.collects (some stop))
      fun outcome => .bind (rescanReport_calm outcome).tolerated fun _ => .pure _

section Ticks

variable [Scalar τ]

/-- A ticker is followed if its tick is. -/
theorem Context.Lawful.ticking (lawful : ctx.Lawful R) (interval : Seconds τ) (stop : Signal)
    {tick : Op τ Unit} (ticks : tick.Moves R) (rounds : Nat) :
    (ticking ctx interval stop tick rounds).Moves R := by
  induction rounds with
  | zero => exact .pure _
  | succ rounds ih =>
    refine .bind (lawful.wait rfl _ stop) fun stopped => ?_
    cases stopped with
    | true => exact .pure _
    | false => exact .bind ticks fun _ => ih

theorem Context.Lawful.runTicker (lawful : ctx.Lawful R) (name : String) (interval : Seconds τ)
    (stop : Signal) {tick : Op τ Unit} (ticks : tick.Moves R) (rounds : Nat) :
    (runTicker ctx name interval stop tick rounds).Moves R := by
  refine .bind (.plain rfl) fun _ =>
    .bind (lawful.ticking interval stop ticks rounds) fun ended => ?_
  cases ended with
  | true => exact .bind (.plain rfl) fun _ => .pure _
  | false => exact .pure _

theorem Context.Lawful.collectPeriodically (lawful : ctx.Lawful R) (stop : Signal)
    (rounds : Nat) : (collectPeriodically ctx stop rounds).Moves R :=
  .bind .tracker fun _ =>
    lawful.runTicker _ _ stop (.bind (lawful.trigger (some stop)) fun _ => .pure ()) rounds

theorem Context.Lawful.rescanPeriodically (lawful : ctx.Lawful R) (stop : Signal)
    (rounds : Nat) : (rescanPeriodically ctx stop rounds).Moves R :=
  .bind .tracker fun _ =>
    lawful.runTicker _ _ stop (.bind (lawful.fullRescan (some stop)) fun _ => .pure ()) rounds

/-! ## Requests and runs -/

/-- A relation follows whatever is asked of a tracker. -/
theorem Context.Lawful.effect (lawful : ctx.Lawful R) (operation : Operation τ) :
    (operation.effect ctx).Moves R := by
  refine .bind (.stopOr ctx.given) fun signal => ?_
  cases operation with
  | subscribe subscriber =>
    exact .bind (fun _ => Following.ofRegistered subscriber) fun _ => .pure _
  | rebuild => exact .bind (lawful.rebuilds ctx.given) fun _ => .pure _
  | refreshKnown => exact .bind lawful.refreshKnown fun _ => .pure _
  | collect => exact .bind (lawful.collects (some signal)) fun _ => .pure _
  | trigger => exact .bind (lawful.trigger (some signal)) fun _ => .pure _
  | fullRescan => exact .bind (lawful.fullRescan ctx.given) fun _ => .pure _
  | event raw => exact .bind (lawful.handleRaw raw ctx.given) fun _ => .pure _
  | readSnapshot => exact .bind getSnapshot_calm.tolerated fun _ => .pure _
  | watchOnce => exact .bind (lawful.watchOnce signal) fun _ => .pure _
  | watchForever rounds draws =>
    exact .bind (lawful.watchForever signal rounds draws) fun _ => .pure _
  | collectPeriodically rounds =>
    exact .bind (lawful.collectPeriodically signal rounds) fun _ => .pure _
  | rescanPeriodically rounds =>
    exact .bind (lawful.rescanPeriodically signal rounds) fun _ => .pure _
  | start => exact .bind (lawful.start ctx.given) fun _ => .pure _
  | stop timeout => exact .bind (stop_moves timeout) fun _ => .pure _
  | elapse time => exact .bind (fun w => Tolerant.ofCalm (Held.elapsed _)) fun _ => .pure _

/-- A tracker that was just made with accepted settings is where every run begins. -/
theorem Reachable.fresh {settings : Settings τ} (workers : 1 ≤ settings.workers)
    (rate : settings.rateLimit.isNegative = false) (clock : τ) :
    Reachable settings (World.fresh settings clock) :=
  .created (World.create_eq_ok_iff.mpr ⟨workers, rate, rfl⟩)

/-- A relation that follows the tracker, in surroundings that are lawful for it, leads from the new
tracker to every world that a run comes to. -/
theorem Reachable.follows {settings : Settings τ}
    (lawful : ∀ around given depth, (Context.nested around given depth).Lawful R) {w : World τ}
    (reachable : Reachable settings w) : ∃ clock, R (World.fresh settings clock) w := by
  induction reachable with
  | @created clock w made =>
    obtain ⟨_, _, rfl⟩ := World.create_eq_ok_iff.mp made
    exact ⟨clock, refl_of R _⟩
  | @performed before prior request ih =>
    obtain ⟨clock, followed⟩ := ih
    have step := (lawful request.around request.given request.depth).effect request.operation
    exact ⟨clock, trans_of R followed (step before)⟩

/-- What holds of new trackers and is kept by what the tracker does by itself and along an aloof
relation holds in every world that a run comes to. -/
theorem Reachable.keeps {settings : Settings τ} {property : World τ → Prop}
    {S : World τ → World τ → Prop} [Aloof S] [Following (Keeps property)]
    (fresh : ∀ clock, property (World.fresh settings clock))
    (kept : ∀ {w w' : World τ}, S w w' → property w → property w') {w : World τ}
    (reachable : Reachable settings w) : property w := by
  have lawful : ∀ around given depth,
      (Context.nested around given depth).Lawful (Keeps property) := fun around given depth =>
    (Context.nested_aloof (R := S) around given depth).mono kept
  obtain ⟨clock, run⟩ := reachable.follows lawful
  exact run (fresh clock)

/-- Between the operations of a run the world is consistent and the lock free. -/
theorem Reachable.consistent {settings : Settings τ} {w : World τ}
    (reachable : Reachable settings w) : w.Consistent ∧ w.tracker.rebuilding = false := by
  have lawful : ∀ around given depth,
      (Context.nested around given depth : Context τ).Lawful Advances := fun around given depth =>
    (Context.nested_lawful around given depth).mono Quiet.toAdvances
  obtain ⟨clock, advances⟩ := reachable.follows lawful
  exact ⟨advances.consistent (World.consistent_fresh settings clock), advances.lock⟩

end Ticks

end ApiSurface.Tracker
