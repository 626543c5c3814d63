import ApiSurface.Proofs.Tracker.Starting
import ApiSurface.Proofs.Tracker.Steps

/-!
# Operations are steps

Every operation of the tracker, and every call back at every depth, is a sequence of steps
that begins in the world the operation was asked for in. Where a step has a condition,
the check that the program makes before it is the reason why the condition holds: a stop
is looked for before every request, before a snapshot is installed, before every event and
before every stream.
-/

namespace ApiSurface.Tracker

variable {τ α β : Type}

namespace Op

/-- A world is related to what a sequence leaves behind if it is so to what the first operation
does, and the second goes on along the relation from where the first returns. -/
theorem along_bind {R : World τ → World τ → Prop} [IsPreorder (World τ) R] {op : Op τ α}
    {next : α → Op τ β} {start w : World τ} (first : R start (op w).2)
    (second : ∀ a, (op w).1 = .ok a → R (op w).2 (next a (op w).2).2) :
    R start ((op >>= next) w).2 := by
  rw [bind_apply]
  cases ends : op w with
  | mk result after =>
    rw [ends] at first second
    cases result with
    | ok a => exact trans_of R first (second a rfl)
    | error fault => exact first

/-- What was counted in case of failure returns only if it did not fail. -/
theorem countingFailure_eq_ok {counters : List Counter} {op : Op τ α} {w after : World τ} {a : α}
    (returned : countingFailure counters op w = (.ok a, after)) : op w = (.ok a, after) := by
  obtain ⟨result, mid, attempted, concluded⟩ := bind_eq_ok returned
  cases attempted
  cases ends : op w with
  | mk result mid =>
    rw [ends] at concluded
    cases result with
    | ok other => exact concluded
    | error fault =>
      obtain ⟨_, _, _, raised⟩ := bind_eq_ok concluded
      cases (Prod.mk.inj raised).1

end Op

/-! ## A stop seen at the end -/

section Unset

variable {ctx : Context τ} {stop : Signal} {w after : World τ} {collected : Snapshot}

/-- A pass that returns found no stop set when all was scanned. -/
theorem Pass.run_unset {groupVersions : List GroupVersion}
    (returned : Pass.run ctx stop groupVersions w = (.ok collected, after)) :
    after.isSet stop = false := by
  obtain ⟨pass, mid, _, finished⟩ := Op.bind_eq_ok returned
  rw [finish] at finished
  cases failure : pass.failure with
  | some fault =>
    rw [failure] at finished
    cases (Prod.mk.inj finished).1
  | none =>
    rw [failure] at finished
    dsimp only at finished
    rw [Op.bind_of_ok (Context.stopSet_apply stop mid)] at finished
    cases set : mid.isSet stop with
    | true =>
      rw [set] at finished
      cases (Prod.mk.inj finished).1
    | false =>
      rw [set] at finished
      cases finished
      exact set

/-- Discovery that returns found no stop set at its end. -/
theorem discover_unset (returned : discover ctx stop w = (.ok collected, after)) :
    after.isSet stop = false := by
  obtain ⟨groupVersions, _, _, rest⟩ := Op.bind_eq_ok returned
  obtain ⟨_, _, _, rest⟩ := Op.bind_eq_ok rest
  obtain ⟨collected', mid, counted, rest⟩ := Op.bind_eq_ok rest
  have unset := Pass.run_unset (Op.countingFailure_eq_ok counted)
  obtain ⟨_, _, passed, rest⟩ := Op.bind_eq_ok rest
  obtain ⟨_, _, completed, rest⟩ := Op.bind_eq_ok rest
  cases passed
  cases completed
  cases rest
  exact unset

end Unset

variable {heeded : Option Signal} {kinds : Set Kind} {ctx : Context τ} {stop : Signal} {w : World τ}

/-- A collection that finds the lock taken is skipped, and nobody is told. -/
theorem collectAndNotify_of_locked (ctx : Context τ) (given : Option Signal)
    (locked : w.tracker.rebuilding = true) :
    collectAndNotify ctx given w = (.ok (some .skipped), w.skipped) :=
  collectAndNotify_of_idle (rebuild_of_locked ctx given locked) nofun

/-- The signal that is given, if one is, is the one that is heeded. -/
def HeedsGiven (heeded given : Option Signal) : Prop := ∀ stop ∈ given, Heeds heeded stop

/-- Where none is heeded, any may be given. -/
theorem HeedsGiven.none (given : Option Signal) : HeedsGiven none given := fun _ _ => nofun

theorem Heeds.given (heeds : Heeds heeded stop) : HeedsGiven heeded (some stop) := by
  rintro _ ⟨⟩
  exact heeds

/-- The signal an operation looks at is the one that is heeded. -/
theorem HeedsGiven.stopOr {given : Option Signal} (heeds : HeedsGiven heeded given)
    (owns : Heeds heeded w.tracker.ownStop) : Heeds heeded (w.tracker.stopOr given) := by
  cases given with
  | some stop => exact heeds stop rfl
  | none => exact owns

variable [Scalar τ]

/-- What the surroundings do are steps, and operations look at the signal that is heeded. -/
structure Context.Stepwise (heeded : Option Signal) (kinds : Set Kind) (ctx : Context τ) :
    Prop where
  calls : .call ∈ kinds
  heeds : HeedsGiven heeded ctx.given
  acts : ∀ action w, Proceeds heeded kinds w (ctx.act action w)

namespace Op.Moves

/-- Writing an entry that comes with no change. -/
theorem remark (calls : .call ∈ kinds) {entry : Entry τ} (remark : entry.isRemark = true) :
    (Op.record entry).Moves (Proceeds heeded kinds) :=
  fun _ => Step.proceeds calls (.remarked remark)

/-- An operation under the signal it looks at goes on step by step if it does so under the signal
that is heeded. -/
theorem bind_stopOr {given : Option Signal} {next : Signal → Op τ α}
    (heeds : HeedsGiven heeded given)
    (moves : ∀ stop, Heeds heeded stop → (next stop).Moves (Proceeds heeded kinds)) :
    (Context.stopOr given >>= next).Moves (Proceeds heeded kinds) := by
  intro w owns
  rw [Op.bind_of_ok (stopOr_apply given w)]
  exact moves _ (heeds.stopOr owns) w owns

end Op.Moves

namespace Context.Stepwise

variable (stepwise : ctx.Stepwise heeded kinds)
include stepwise

/-- Asking is the question and then what the surroundings do. -/
theorem ask {question : Entry τ} {answer : Journal τ → Reply τ α}
    (asked : Proceeds heeded kinds w { w with journal := question :: w.journal }) :
    Proceeds heeded kinds w (ctx.ask question answer w).2 := by
  rw [Context.ask_apply]
  exact trans_of _ asked (Op.Moves.takeActions stepwise.acts _ _)

/-- Asking a question that comes under no condition. -/
theorem ask_remark {question : Entry τ} (remark : question.isRemark = true)
    (answer : Journal τ → Reply τ α) :
    (ctx.ask question answer).Moves (Proceeds heeded kinds) :=
  fun w => stepwise.ask (Op.Moves.remark stepwise.calls remark w)

/-- Counting failures adds remarks at most. -/
theorem countingFailure {op : Op τ α} {start : World τ} (counters : List Counter)
    (remarks : ∀ counter ∈ counters, (Entry.counted counter : Entry τ).isRemark = true)
    (proceeds : Proceeds heeded kinds start (op w).2) :
    Proceeds heeded kinds start (Op.countingFailure counters op w).2 := by
  have attempted : Proceeds heeded kinds start (Op.attempt op w).2 := proceeds
  refine Op.along_bind attempted fun result _ => ?_
  cases result with
  | ok a => exact Op.Moves.pure a _
  | error fault =>
    have counted : (Op.each Op.count counters).Moves (Proceeds heeded kinds) :=
      .each fun counter member => .remark stepwise.calls (remarks counter member)
    exact Op.Moves.bind counted (fun _ => .raise fault) _

/-! ## Discovery passes -/

theorem request (gv : GroupVersion) (going : w.Going heeded) :
    Proceeds heeded kinds w (Pass.request ctx gv w).2 := by
  have asked := Step.proceeds stepwise.calls (.requested gv.key going)
  refine Op.along_bind (stepwise.ask asked) fun listing _ => ?_
  refine Op.Moves.bind (.remark stepwise.calls rfl) (fun _ => ?_) _
  split
  · exact .pure _
  · exact .raise _

theorem attemptScan (pass : Pass) (gv : GroupVersion) (going : w.Going heeded) :
    Proceeds heeded kinds w (Pass.attemptScan ctx pass gv w).2 := by
  have requested : Proceeds heeded kinds w (Op.attempt (Pass.request ctx gv) w).2 :=
    stepwise.request gv going
  refine Op.along_bind requested fun result _ => ?_
  cases result with
  | ok resources => exact Op.Moves.pure _ _
  | error fault =>
    exact Op.Moves.bind (.remark stepwise.calls rfl)
      (fun _ => .bind (.remark stepwise.calls rfl) fun _ => .pure _) _

theorem scan (heeds : Heeds heeded stop) (pass : Pass) (gv : GroupVersion) :
    (Pass.scan ctx stop pass gv).Moves (Proceeds heeded kinds) := by
  intro w
  rw [Pass.scan, Op.bind_of_ok (Context.stopSet_apply stop w)]
  cases set : w.isSet stop with
  | true => exact refl_of _ w
  | false =>
    rw [if_neg Bool.false_ne_true]
    split
    · exact refl_of _ w
    · exact stepwise.attemptScan pass gv (.of_unset heeds set)

theorem scanAll (heeds : Heeds heeded stop) (groupVersions : List GroupVersion) (pass : Pass) :
    (Pass.scanAll ctx stop groupVersions pass).Moves (Proceeds heeded kinds) := by
  induction groupVersions generalizing pass with
  | nil => exact .pure pass
  | cons gv rest ih => exact .bind (stepwise.scan heeds pass gv) ih

theorem run (heeds : Heeds heeded stop) (groupVersions : List GroupVersion) :
    (Pass.run ctx stop groupVersions).Moves (Proceeds heeded kinds) := by
  refine .bind (stepwise.scanAll heeds groupVersions _) fun pass => ?_
  unfold Pass.finish
  split
  · exact .raise _
  · refine .bind (.stopSet stop) fun set => ?_
    split
    · exact .raise _
    · exact .pure _

/-! ## Rebuilding -/

/-- Discovery asks for the group-versions first. -/
theorem discover (heeds : Heeds heeded stop) (w : World τ) :
    Proceeds heeded kinds w.listing (discover ctx stop w).2 := by
  have answered :
      Proceeds heeded kinds w.listing (ctx.ask .listedGroups ctx.around.groups w).2 := by
    rw [Context.ask_apply]
    exact Op.Moves.takeActions stepwise.acts _ _
  have listed : Proceeds heeded kinds w.listing (listGroups ctx w).2 :=
    Op.along_bind answered fun _ _ =>
      Op.Moves.bind (.remark stepwise.calls rfl) (fun _ => .pure _) _
  have counted :=
    stepwise.countingFailure [.scanErrors, .failed] (by simp [Entry.isRemark]) listed
  have ran : ∀ groupVersions,
      (Op.countingFailure [.failed] (Pass.run ctx stop groupVersions)).Moves
        (Proceeds heeded kinds) := fun groupVersions w =>
    stepwise.countingFailure [.failed] (by simp [Entry.isRemark])
      (stepwise.run heeds groupVersions w)
  exact Op.along_bind counted fun groupVersions _ =>
    Op.Moves.bind (.remark stepwise.calls rfl) (fun _ => .bind (ran groupVersions) fun collected =>
      .bind (.remark stepwise.calls rfl) fun _ =>
        .bind (.remark stepwise.calls rfl) fun _ => .pure _) _

theorem install (collected : Snapshot) (going : w.Going heeded) :
    Proceeds heeded kinds w (install collected w).2 := by
  cases compared : collected.equals w.tracker.snapshot with
  | error kind =>
    rw [install_of_incomparable compared]
    exact refl_of _ w
  | ok equal =>
    cases equal with
    | true =>
      rw [install_of_equal compared]
      exact Step.proceeds stepwise.calls (.confirmed compared)
    | false =>
      rw [install_of_different compared]
      exact Step.proceeds stepwise.calls (.replaced going compared)

/-- What is installed was collected without a stop being seen. -/
theorem rebuildLocked (heeds : Heeds heeded stop) (w : World τ) :
    Proceeds heeded kinds w.listing (rebuildLocked ctx stop w).2 :=
  Op.along_bind (stepwise.discover heeds w) fun collected returned =>
    stepwise.install collected (.of_unset heeds (discover_unset (Prod.ext returned rfl)))

variable {given : Option Signal} (heeds : HeedsGiven heeded given)
include heeds

/-- What a rebuild does once it has taken the lock and asked for the group-versions. -/
theorem rebuild_listing (free : w.tracker.rebuilding = false) :
    Proceeds heeded kinds w.begun.listing (rebuild ctx given w).2 := by
  intro owns
  rw [rebuild_of_free given free]
  have locked := stepwise.rebuildLocked (heeds.stopOr owns) w.begun
  exact trans_of (Proceeds heeded kinds) locked (Step.proceeds stepwise.calls .released) owns

/-- What a rebuild does once it has taken the lock. -/
theorem rebuild_begun (free : w.tracker.rebuilding = false) :
    Proceeds heeded kinds w.begun (rebuild ctx given w).2 :=
  trans_of _ (Step.proceeds stepwise.calls (.remarked rfl)) (stepwise.rebuild_listing heeds free)

theorem rebuild : (rebuild ctx given).Moves (Proceeds heeded kinds) := by
  intro w
  cases lock : w.tracker.rebuilding with
  | true =>
    rw [rebuild_of_locked ctx given lock]
    exact Step.proceeds stepwise.calls (.skipped lock)
  | false =>
    have rebuilt := stepwise.rebuild_begun heeds lock
    exact trans_of _ (Step.proceeds stepwise.calls (.began lock)) rebuilt

theorem rebuildDirectly : (rebuildDirectly ctx given).Moves (Proceeds heeded kinds) := by
  refine .bind (stepwise.rebuild heeds) fun outcome => ?_
  split
  · exact .bind (.remark stepwise.calls rfl) fun _ => .pure _
  · exact .pure _

/-! ## Telling -/

omit heeds

theorem notify (registered : Subscriber τ × Nat) :
    (notify ctx registered).Moves (Proceeds heeded kinds) := by
  have told : (tell ctx registered.1).Moves (Proceeds heeded kinds) := by
    cases registered.1 with
    | client name reply => exact stepwise.ask_remark rfl _
    | changeLogger =>
      refine .bind (.bind .tracker fun tracker => ?_) fun _ => .remark stepwise.calls rfl
      split
      · exact .pure _
      · exact .raise _
  refine .bind (.remark stepwise.calls rfl) fun _ => .bind told.attempt fun result => ?_
  cases result with
  | ok _ => exact .pure ()
  | error fault =>
    exact .bind (.remark stepwise.calls rfl) fun _ => .remark stepwise.calls rfl

/-- After a rebuild that is collected everyone is told of it, or a failure is reported. -/
theorem afterRebuild (given : Option Signal) (w : World τ) :
    Proceeds heeded kinds (Tracker.rebuild ctx given w).2 (collectAndNotify ctx given w).2 := by
  have told : (notifyAll ctx).Moves (Proceeds heeded kinds) :=
    .bind .tracker fun _ => .each fun registered _ => stepwise.notify registered
  rw [collectAndNotify, Op.bind_apply, Op.attempt_apply]
  cases (Tracker.rebuild ctx given w).1 with
  | error fault => exact Op.Moves.bind (.remark stepwise.calls rfl) (fun _ => .pure _) _
  | ok outcome =>
    cases outcome with
    | changed => exact Op.Moves.bind told (fun _ => .pure _) _
    | unchanged | skipped => exact refl_of _ _

include heeds

theorem collectAndNotify : (collectAndNotify ctx given).Moves (Proceeds heeded kinds) :=
  fun w => trans_of _ (stepwise.rebuild heeds w) (stepwise.afterRebuild given w)

/-- What is let through is attempted at once, and what is not is dropped. -/
theorem trigger : (trigger ctx given).Moves (Proceeds heeded kinds) := by
  intro w
  have asked : askLimiter w = (.ok (w.tracker.limiter.admits w.clock), w.asked) :=
    askLimiter_apply w
  have lock : w.asked.tracker.rebuilding = w.tracker.rebuilding := by rw [w.asked_tracker]
  rw [Tracker.trigger, Op.bind_of_ok asked]
  cases admits : w.tracker.limiter.admits w.clock with
  | false => exact Step.proceeds stepwise.calls (.dropped admits)
  | true =>
    rw [if_pos rfl]
    refine Op.along_bind ?_ fun _ _ => refl_of _ _
    cases free : w.tracker.rebuilding with
    | true =>
      rw [collectAndNotify_of_locked ctx given (lock.trans free)]
      exact Step.proceeds stepwise.calls (.attemptedInVain admits free)
    | false =>
      have attempted : Proceeds heeded kinds w w.asked.begun :=
        Step.proceeds stepwise.calls (.attempted admits free)
      have rebuilt := stepwise.rebuild_begun heeds (lock.trans free)
      exact trans_of _ (trans_of _ attempted rebuilt) (stepwise.afterRebuild given w.asked)

/-! ## Calls back -/

omit heeds

theorem stopping (timeout : Seconds τ) :
    (Tracker.stop ctx timeout).Moves (Proceeds heeded kinds) := by
  have interrupted : (interruptWatch : Op τ Unit).Moves (Proceeds heeded kinds) := by
    refine .bind .tracker fun tracker => ?_
    split
    · exact .remark stepwise.calls rfl
    · exact .pure ()
  have joined : ∀ loop, (join ctx timeout timeout.text loop).Moves (Proceeds heeded kinds) := by
    intro loop
    refine .bind (.remark stepwise.calls rfl) fun _ => ?_
    split
    · exact .remark stepwise.calls rfl
    · exact .pure ()
  have raised : (raiseOwnStop : Op τ Unit).Moves (Proceeds heeded kinds) :=
    fun _ => Step.proceeds stepwise.calls (.signalled _)
  exact .bind raised fun _ => .bind interrupted fun _ => .bind .tracker fun tracker =>
    .bind (.each fun loop _ => joined loop) fun _ _ => Step.proceeds stepwise.calls .unlooped

theorem perform_readSnapshot (w : World τ) :
    Proceeds heeded kinds w (perform ctx .readSnapshot w) := by
  rw [perform_call ctx rfl]
  by_cases ready : w.tracker.ready = true
  · have effect : effectOf ctx .readSnapshot w = (.ok (.snapshot w.tracker.snapshot), w) :=
      Op.bind_of_ok (getSnapshot_of_ready ready)
    rw [effect]
    exact Step.proceeds stepwise.calls (.read ready)
  · have effect : effectOf ctx .readSnapshot w = (.error .notStarted, w) :=
      Op.bind_of_error (getSnapshot_of_not_ready (Bool.eq_false_iff.mpr ready))
    rw [effect]
    exact Step.proceeds stepwise.calls (.remarked rfl)

/-- A call back is steps if what the surroundings do within it is. -/
theorem perform (action : Action τ) (w : World τ) :
    Proceeds heeded kinds w (perform ctx action w) := by
  have called : ∀ {action : Action τ}, action.isCall = true →
      (effectOf ctx action).Moves (Proceeds heeded kinds) →
      (∀ result : Except Fault ActionResult, (Entry.acted action result).isRemark = true) →
        Proceeds heeded kinds w (Tracker.perform ctx action w) := by
    intro action call effect remark
    rw [perform_call ctx call]
    exact trans_of _ (effect w) (Step.proceeds stepwise.calls (.remarked (remark _)))
  cases action with
  | readSnapshot => exact stepwise.perform_readSnapshot w
  | subscribe name =>
    rw [perform_call ctx rfl]
    exact Step.proceeds stepwise.calls (.joined name)
  | stopTracker => exact called rfl (.bind (stepwise.stopping _) fun _ => .pure _) fun _ => rfl
  | rebuild =>
    exact called rfl (.bind (stepwise.rebuildDirectly nofun) fun _ => .pure _) fun _ => rfl
  | trigger =>
    exact called rfl (.bind_stopOr stepwise.heeds fun stop heeds =>
      .bind (stepwise.trigger heeds.given) fun _ => .pure _) fun _ => rfl
  | raiseStop =>
    rw [perform_silent ctx rfl]
    refine Op.Moves.bind (R := Proceeds heeded kinds) (.stopOr ctx.given) (fun signal => ?_) w
    exact .bind (fun _ => Step.proceeds stepwise.calls (.signalled signal)) fun _ => .pure _
  | elapse time =>
    rw [perform_silent ctx rfl]
    exact Step.proceeds stepwise.calls (.elapsed _)

end Context.Stepwise

/-- At every depth of nesting, what the surroundings do are steps, if the signal given to the
outermost operation is the one that is heeded. -/
theorem Context.nested_stepwise (around : Surroundings τ) {given : Option Signal} (depth : Nat)
    (calls : .call ∈ kinds) (heeds : HeedsGiven heeded given) :
    (Context.nested around given depth).Stepwise heeded kinds := by
  induction depth with
  | zero =>
    refine ⟨calls, heeds, fun action w => Step.proceeds calls (.remarked ?_)⟩
    cases action <;> rfl
  | succ depth ih => exact ⟨calls, heeds, ih.perform⟩

end ApiSurface.Tracker
