import ApiSurface.Proofs.Tracker.Operations

/-!
# What a start does

A start makes its stop signal the tracker's own, lists the known definitions and rebuilds.
If the listing is refused, or the rebuild fails, the start fails and the tracker is as
ready as it was; else it calls the tracker ready and starts the loops.
-/

namespace ApiSurface.Tracker

variable {τ α β : Type} {ctx : Context τ} {given : Option Signal} {w mid after : World τ}

namespace Op

/-- A sequence returns only if both its operations do. -/
theorem bind_eq_ok {op : Op τ α} {next : α → Op τ β} {b : β}
    (returned : (op >>= next) w = (.ok b, after)) :
    ∃ a mid, op w = (.ok a, mid) ∧ next a mid = (.ok b, after) := by
  rw [bind_apply] at returned
  cases ends : op w with
  | mk result mid =>
    rw [ends] at returned
    cases result with
    | ok a => exact ⟨a, mid, rfl, returned⟩
    | error fault => cases (Prod.mk.inj returned).1

/-- What is handed on makes no difference to the world. -/
theorem bind_pure_after (op : Op τ α) (f : α → β) (w : World τ) :
    ((op >>= fun a => pure (f a)) w).2 = (op w).2 := by
  rw [bind_apply]
  cases op w with
  | mk result after => cases result <;> rfl

end Op

namespace World

/-- The world in which a start has made its stop signal the tracker's own. -/
def adopted (w : World τ) : Option Signal → World τ
  | some signal => { w with tracker := { w.tracker with ownStop := signal } }
  | none =>
    { w with
        tracker := { w.tracker with ownStop := w.nextSignal }
        nextSignal := w.nextSignal + 1 }

/-- The world in which a tracker was called ready. -/
def readied (w : World τ) : World τ :=
  { w with
      tracker := { w.tracker with ready := true }
      journal :=
        .logged ⟨.info, "Resource tracker ready with " ++ toString w.tracker.snapshot.size ++
          " group-versions"⟩ :: w.journal }

/-- The world in which the background loops were started. -/
def looping (w : World τ) : World τ :=
  { w with
      tracker := { w.tracker with loops := Loop.all }
      journal := (Loop.all.map Entry.startedLoop).reverse ++ w.journal }

end World

/-- A start under a given stop signal lists the known definitions, and rebuilds if it got them. -/
theorem start_given (ctx : Context τ) (signal : Signal) (w : World τ) :
    start ctx (some signal) w =
      match refreshKnown ctx (w.adopted (some signal)) with
      | (.error cause, after) => (.error (.startFailed cause), after)
      | (.ok (), listed) =>
        (do
          let _ ← rebuildDirectly ctx (some signal)
          becomeReady
          startLoops : Op τ Unit) listed := by
  have adopts : adopt signal w = (.ok (), w.adopted (some signal)) := rfl
  rw [start, Op.bind_of_ok (Op.pure_apply signal w)]
  beta_reduce
  rw [Op.bind_of_ok adopts, Op.bind_apply, Op.attempt_apply]
  cases refreshKnown ctx (w.adopted (some signal)) with
  | mk result after =>
    cases result with
    | error cause => rfl
    | ok _ => rfl

/-- A start under whichever signal it takes does so. -/
theorem start_apply (ctx : Context τ) (given : Option Signal) (w : World τ) :
    start ctx given w =
      match refreshKnown ctx (w.adopted given) with
      | (.error cause, after) => (.error (.startFailed cause), after)
      | (.ok (), listed) =>
        (do
          let _ ← rebuildDirectly ctx (some (w.adopted given).tracker.ownStop)
          becomeReady
          startLoops : Op τ Unit) listed := by
  cases given with
  | some signal => exact start_given ctx signal w
  | none => exact start_given ctx w.nextSignal { w with nextSignal := w.nextSignal + 1 }

/-- Once the first rebuild is done, a start calls the tracker ready and starts the loops. -/
theorem ready_apply (w : World τ) :
    (becomeReady >>= fun _ => startLoops) w = (.ok (), w.readied.looping) := rfl

/-- A start that returns has listed the known definitions and has rebuilt, or found a rebuild under
way. -/
theorem start_eq_ok (returned : (start ctx given w).1 = .ok ()) :
    ∃ listed outcome rebuilt, refreshKnown ctx (w.adopted given) = (.ok (), listed) ∧
      rebuildDirectly ctx (some (w.adopted given).tracker.ownStop) listed = (.ok outcome, rebuilt) ∧
        start ctx given w = (.ok (), rebuilt.readied.looping) := by
  rw [start_apply] at returned ⊢
  cases lists : refreshKnown ctx (w.adopted given) with
  | mk result listed =>
    rw [lists] at returned
    cases result with
    | error cause => cases returned
    | ok _ =>
      obtain ⟨outcome, rebuilt, rebuilds, _⟩ := Op.bind_eq_ok (Prod.ext returned rfl)
      exact ⟨listed, outcome, rebuilt, rfl, rebuilds,
        (Op.bind_of_ok rebuilds).trans (ready_apply rebuilt)⟩

/-- A rebuild whose change nobody is told of does but this after the rebuild. -/
theorem rebuildDirectly_of_ok {outcome : Outcome}
    (ended : rebuild ctx given w = (.ok outcome, mid)) :
    ∃ after, rebuildDirectly ctx given w = (.ok outcome, after) ∧ after.tracker = mid.tracker ∧
      roundsOf after.journal = roundsOf mid.journal := by
  rw [rebuildDirectly, Op.bind_of_ok ended]
  split
  · exact ⟨_, rfl, rfl, rfl⟩
  · exact ⟨_, rfl, rfl, rfl⟩

/-- A rebuild that nobody is told of, finds the lock free and returns has completed a pass. -/
theorem rebuildDirectly_rounds (calm : ctx.IsCalm) (free : w.tracker.rebuilding = false)
    {outcome : Outcome} (ended : rebuildDirectly ctx given w = (.ok outcome, after)) :
    ∃ round, round.outcome = some outcome ∧
      roundsOf after.journal = round :: roundsOf w.journal := by
  obtain ⟨other, mid, rebuilds, _⟩ := Op.bind_eq_ok ended
  obtain ⟨after', directly, _, rounds⟩ := rebuildDirectly_of_ok rebuilds
  cases directly.symm.trans ended
  have rebuilt := rebuild_spec calm given free
  rw [rebuilds] at rebuilt
  obtain ⟨round, grown, outcome, _⟩ := rebuilt.rounds_of_ok
  exact ⟨round, outcome, rounds.trans grown⟩

end ApiSurface.Tracker
