import ApiSurface.Proofs.Tracker.Lock
import ApiSurface.Tracker.Watch

/-!
# Disciplines

A discipline is a property of operations that a sequence has if its parts have it. What
rebuilding and telling write and change by themselves is routine. So they keep to every
discipline that lets routine pass, if asking the surroundings keeps to it, and they are
gone through once for all disciplines.
-/

namespace ApiSurface.Tracker

variable {τ α β : Type}

/-- Whether an entry is written as a matter of routine: it is neither a question to the limiter nor
the record of a call back nor the end of a watch. -/
def Entry.isRoutine : Entry τ → Bool
  | asked _ _ => false
  | acted _ _ => false
  | stoppedWatch => false
  | _ => true

/-- A change of a tracker that is a matter of routine: it leaves its subscribers and its watch
alone. -/
def State.Routine (f : State τ → State τ) : Prop :=
  ∀ tracker, (f tracker).subscribers = tracker.subscribers ∧
    (f tracker).watching = tracker.watching

/-- A property of operations that holds of routine and of whatever is put together from operations
it holds of. Subscribers may be told if it admits them. -/
structure Discipline (τ : Type) where
  Governs {α : Type} (op : Op τ α) : Prop
  Admits (subscriber : Subscriber τ) : Prop
  pure {α : Type} (a : α) : Governs (Pure.pure a : Op τ α)
  raise {α : Type} (fault : Fault) : Governs (Op.raise fault : Op τ α)
  bind {α β : Type} {op : Op τ α} {next : α → Op τ β} :
    Governs op → (∀ a, Governs (next a)) → Governs (op >>= next)
  attempt {α : Type} {op : Op τ α} : Governs op → Governs (Op.attempt op)
  bindTracker {α : Type} {next : State τ → Op τ α} :
    (∀ tracker : State τ, (∀ subscriber ∈ tracker.subscribers, Admits subscriber) →
      Governs (next tracker)) → Governs (Op.tracker >>= next)
  stopSet (stop : Signal) : Governs (Context.stopSet stop)
  record {entry : Entry τ} : entry.isRoutine = true → Governs (Op.record entry)
  update {f : State τ → State τ} : State.Routine f → Governs (Op.update f)

/-- A reflexive and transitive relation that routine goes along, and so do calls back that neither
stop the tracker nor ask the limiter. -/
class Routine (R : World τ → World τ → Prop) : Prop extends IsPreorder (World τ) R where
  noted : ∀ {entry : Entry τ} {w : World τ}, entry.isRoutine = true →
    R w { w with journal := entry :: w.journal }
  updated : ∀ {f : State τ → State τ} {w : World τ},
    (∀ tracker, (f tracker).watching = tracker.watching) → R w { w with tracker := f w.tracker }
  elapsed : ∀ {w : World τ} {time : τ}, R w { w with clock := time }
  signalled : ∀ {w : World τ} {signal : Signal}, R w (w.set signal)
  acted : ∀ {action : Action τ} {result : Except Fault ActionResult} {w : World τ},
    action ≠ .trigger → action ≠ .stopTracker →
      R w { w with journal := .acted action result :: w.journal }

/-- A change of the tracker that leaves its watch alone. -/
theorem Op.Moves.update_routine {R : World τ → World τ → Prop} [Routine R] {f : State τ → State τ}
    (unwatched : ∀ tracker, (f tracker).watching = tracker.watching) : (Op.update f).Moves R :=
  fun _ => Routine.updated unwatched

/-- Operations go along such a relation, whoever is told. -/
def Discipline.along (R : World τ → World τ → Prop) [Routine R] : Discipline τ where
  Governs op := op.Moves R
  Admits _ := True
  pure := .pure
  raise := .raise
  bind := .bind
  attempt := .attempt
  bindTracker moves := .bind .tracker fun tracker => moves tracker fun _ _ => trivial
  stopSet := .stopSet
  record routine _ := Routine.noted routine
  update routine := .update_routine fun tracker => (routine tracker).2

namespace Discipline

variable (discipline : Discipline τ)

theorem conclude (result : Except Fault α) : discipline.Governs (Op.conclude result) := by
  cases result with
  | ok a => exact discipline.pure a
  | error fault => exact discipline.raise fault

theorem each {op : α → Op τ Unit} {members : List α}
    (governs : ∀ a ∈ members, discipline.Governs (op a)) :
    discipline.Governs (Op.each op members) := by
  induction members with
  | nil => exact discipline.pure ()
  | cons a rest ih =>
    exact discipline.bind (governs a List.mem_cons_self) fun _ =>
      ih fun b member => governs b (List.mem_cons_of_mem _ member)

theorem stopOr (given : Option Signal) : discipline.Governs (Context.stopOr given) := by
  cases given with
  | some signal => exact discipline.pure signal
  | none => exact discipline.bindTracker fun _ _ => discipline.pure _

/-- Counting failures is routine. -/
theorem countingFailure {op : Op τ α} (counters : List Counter)
    (governs : discipline.Governs op) : discipline.Governs (Op.countingFailure counters op) := by
  refine discipline.bind (discipline.attempt governs) fun result => ?_
  cases result with
  | ok a => exact discipline.pure a
  | error fault =>
    exact discipline.bind (discipline.each fun _ _ => discipline.record rfl) fun _ =>
      discipline.raise fault

theorem getSnapshot : discipline.Governs getSnapshot := by
  refine discipline.bindTracker fun tracker _ => ?_
  split
  · exact discipline.pure _
  · exact discipline.raise _

theorem join (ctx : Context τ) (timeout : Seconds τ) (text : String) (loop : Loop) :
    discipline.Governs (join ctx timeout text loop) := by
  refine discipline.bind (discipline.record rfl) fun _ => ?_
  split
  · exact discipline.record rfl
  · exact discipline.pure ()

end Discipline

/-- Asking the surroundings keeps to a discipline, and so does telling whoever it admits. -/
structure Context.Under (discipline : Discipline τ) (ctx : Context τ) : Prop where
  groups : discipline.Governs (ctx.ask .listedGroups ctx.around.groups)
  resources (key : Text) :
    discipline.Governs (ctx.ask (.requestedResources key) (ctx.around.resources key))
  tells {name : Text} {reply : Journal τ → Reply τ Unit}
    (admits : discipline.Admits (.client name reply)) :
    discipline.Governs (ctx.ask (.notified name) reply)

namespace Context.Under

variable {discipline : Discipline τ} {ctx : Context τ} (under : ctx.Under discipline)
include under

/-! ## Rebuilding -/

theorem request (gv : GroupVersion) : discipline.Governs (Pass.request ctx gv) := by
  refine discipline.bind (under.resources gv.key) fun listing =>
    discipline.bind (discipline.record rfl) fun _ => ?_
  split
  · exact discipline.pure _
  · exact discipline.raise _

theorem attemptScan (pass : Pass) (gv : GroupVersion) :
    discipline.Governs (Pass.attemptScan ctx pass gv) := by
  refine discipline.bind (discipline.attempt (under.request gv)) fun result => ?_
  cases result with
  | ok resources => exact discipline.pure _
  | error fault =>
    exact discipline.bind (discipline.record rfl) fun _ =>
      discipline.bind (discipline.record rfl) fun _ => discipline.pure _

theorem scan (stop : Signal) (pass : Pass) (gv : GroupVersion) :
    discipline.Governs (Pass.scan ctx stop pass gv) := by
  refine discipline.bind (discipline.stopSet stop) fun set => ?_
  split
  · exact discipline.pure _
  · split
    · exact discipline.pure _
    · exact under.attemptScan pass gv

theorem scanAll (stop : Signal) (groupVersions : List GroupVersion) (pass : Pass) :
    discipline.Governs (Pass.scanAll ctx stop groupVersions pass) := by
  induction groupVersions generalizing pass with
  | nil => exact discipline.pure pass
  | cons gv rest ih => exact discipline.bind (under.scan stop pass gv) ih

theorem run (stop : Signal) (groupVersions : List GroupVersion) :
    discipline.Governs (Pass.run ctx stop groupVersions) := by
  refine discipline.bind (under.scanAll stop groupVersions _) fun pass => ?_
  unfold Pass.finish
  split
  · exact discipline.raise _
  · refine discipline.bind (discipline.stopSet stop) fun set => ?_
    split
    · exact discipline.raise _
    · exact discipline.pure _

theorem discover (stop : Signal) : discipline.Governs (discover ctx stop) := by
  have listed : discipline.Governs (listGroups ctx) :=
    discipline.bind under.groups fun _ =>
      discipline.bind (discipline.record rfl) fun _ => discipline.pure _
  exact discipline.bind (discipline.countingFailure _ listed) fun groupVersions =>
    discipline.bind (discipline.record rfl) fun _ =>
      discipline.bind (discipline.countingFailure _ (under.run stop groupVersions))
        fun collected => discipline.bind (discipline.record rfl) fun _ =>
          discipline.bind (discipline.record rfl) fun _ => discipline.pure _

omit under in
theorem install (collected : Snapshot) : discipline.Governs (install collected) := by
  refine discipline.bindTracker fun tracker _ => ?_
  split
  · exact discipline.raise _
  · exact discipline.bind (discipline.record rfl) fun _ =>
      discipline.bind (discipline.record rfl) fun _ => discipline.pure _
  · have replaced : discipline.Governs (replaceSnapshot collected) :=
      discipline.bind (discipline.update fun _ => ⟨rfl, rfl⟩) fun _ =>
        discipline.bind (discipline.record rfl) fun _ => discipline.record rfl
    exact discipline.bind replaced fun _ =>
      discipline.bind (discipline.record rfl) fun _ => discipline.pure _

/-- A rebuild keeps to a discipline if asking does. -/
theorem rebuild (given : Option Signal) : discipline.Governs (rebuild ctx given) := by
  refine discipline.bind (discipline.stopOr given) fun stop =>
    discipline.bindTracker fun tracker _ => ?_
  split
  · exact discipline.bind (discipline.record rfl) fun _ =>
      discipline.bind (discipline.record rfl) fun _ => discipline.pure _
  · have underLock : discipline.Governs (rebuildLocked ctx stop) :=
      discipline.bind (under.discover stop) install
    exact discipline.bind (discipline.update fun _ => ⟨rfl, rfl⟩) fun _ =>
      discipline.bind (discipline.record rfl) fun _ =>
        discipline.bind (discipline.attempt underLock) fun result =>
          discipline.bind (discipline.update fun _ => ⟨rfl, rfl⟩) fun _ =>
            discipline.conclude result

theorem rebuildDirectly (given : Option Signal) :
    discipline.Governs (rebuildDirectly ctx given) := by
  refine discipline.bind (under.rebuild given) fun outcome => ?_
  split
  · exact discipline.bind (discipline.record rfl) fun _ => discipline.pure _
  · exact discipline.pure _

/-! ## Telling -/

theorem notify {registered : Subscriber τ × Nat} (admits : discipline.Admits registered.1) :
    discipline.Governs (notify ctx registered) := by
  have told : discipline.Governs (tell ctx registered.1) := by
    obtain ⟨subscriber, place⟩ := registered
    cases subscriber with
    | client name reply => exact under.tells admits
    | changeLogger => exact discipline.bind discipline.getSnapshot fun _ => discipline.record rfl
  refine discipline.bind (discipline.record rfl) fun _ =>
    discipline.bind (discipline.attempt told) fun result => ?_
  cases result with
  | ok _ => exact discipline.pure ()
  | error fault =>
    exact discipline.bind (discipline.record rfl) fun _ => discipline.record rfl

theorem notifyAll : discipline.Governs (notifyAll ctx) :=
  discipline.bindTracker fun _ admits => discipline.each fun registered member =>
    under.notify (admits registered.1 (List.fst_mem_of_mem_zipIdx member))

/-- So does a rebuild that everyone is told of. -/
theorem collectAndNotify (given : Option Signal) :
    discipline.Governs (collectAndNotify ctx given) := by
  refine discipline.bind (discipline.attempt (under.rebuild given)) fun result => ?_
  split
  · exact discipline.bind (discipline.record rfl) fun _ => discipline.pure _
  · exact discipline.bind under.notifyAll fun _ => discipline.pure _
  · exact discipline.pure _

/-! ## Events -/

variable [Scalar τ] (asks : discipline.Governs (askLimiter : Op τ Bool))
include asks

/-- Asking for a rebuild through the limiter keeps to a discipline if asking the limiter does. -/
theorem trigger (given : Option Signal) : discipline.Governs (trigger ctx given) := by
  refine discipline.bind asks fun admitted => ?_
  cases admitted with
  | true => exact discipline.bind (under.collectAndNotify given) fun _ => discipline.pure _
  | false => exact discipline.bind (discipline.record rfl) fun _ => discipline.pure _

theorem answerEvent (event : CrdEvent) (given : Option Signal) :
    discipline.Governs (answerEvent ctx event given) := by
  refine discipline.bind (discipline.update fun _ => ⟨rfl, rfl⟩) fun _ => ?_
  split
  · exact discipline.bind (discipline.record rfl) fun _ => discipline.pure _
  · exact discipline.bind (discipline.stopOr given) fun stop =>
      discipline.bind (under.trigger asks (some stop)) fun _ => discipline.pure _

/-- So does handling an event. -/
theorem handleEvent (event : CrdEvent) (given : Option Signal) :
    discipline.Governs (handleEvent ctx event given) := by
  have noted : discipline.Governs (noteIdentity event : Op τ Bool) := by
    unfold noteIdentity
    split
    · refine discipline.bindTracker fun tracker _ => ?_
      split
      · exact discipline.pure _
      · exact discipline.bind (discipline.update fun _ => ⟨rfl, rfl⟩) fun _ => discipline.pure _
    · exact discipline.pure _
  refine discipline.bind (discipline.record rfl) fun _ =>
    discipline.bind (discipline.record rfl) fun _ => discipline.bind noted fun news => ?_
  cases news with
  | true => exact under.answerEvent asks event given
  | false => exact discipline.pure _

end Context.Under

/-! ## Calls back -/

section Along

variable {R : World τ → World τ → Prop} [Routine R] {ctx : Context τ}

/-- Asking goes along a relation if what the surroundings do goes along it. -/
theorem Context.under_along (acts : ∀ action w, R w (ctx.act action w)) :
    ctx.Under (.along R) where
  groups := .ask acts fun _ => Routine.noted rfl
  resources _ := .ask acts fun _ => Routine.noted rfl
  tells _ := .ask acts fun _ => Routine.noted rfl

variable [Scalar τ]

/-- A call back goes along a relation if those do that stop the tracker or ask the limiter, and
those within it. -/
theorem perform_along (acts : ∀ action w, R w (ctx.act action w))
    (stops : ∀ w, R w (perform ctx .stopTracker w)) (triggers : ∀ w, R w (perform ctx .trigger w))
    (action : Action τ) (w : World τ) : R w (perform ctx action w) := by
  have called : ∀ {action : Action τ}, action.isCall = true → action ≠ .trigger →
      action ≠ .stopTracker → (effectOf ctx action).Moves R → R w (perform ctx action w) := by
    intro action call silent running effect
    rw [perform_call ctx call]
    exact trans_of R (effect w) (Routine.acted silent running)
  cases action with
  | trigger => exact triggers w
  | stopTracker => exact stops w
  | raiseStop =>
    rw [perform_silent ctx rfl]
    exact Op.Moves.bind (.stopOr ctx.given) (fun signal =>
      .bind (fun _ => Routine.signalled) fun _ => .pure _) w
  | elapse time => exact Routine.elapsed
  | rebuild =>
    exact called rfl nofun nofun
      (.bind ((Context.under_along acts).rebuildDirectly none) fun _ => .pure _)
  | readSnapshot =>
    exact called rfl nofun nofun (.bind (Discipline.along R).getSnapshot fun _ => .pure _)
  | subscribe name =>
    exact called rfl nofun nofun
      (.bind (.update_routine fun _ => rfl) fun _ => .pure _)

end Along

end ApiSurface.Tracker
