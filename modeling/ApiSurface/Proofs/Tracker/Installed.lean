import ApiSurface.Proofs.Tracker.Operations

/-!
# The snapshot in place

As long as discovery answers as it is documented to, the snapshot in place is at every
time what the newest completed pass put together, up to the order of what is in it. An
unchanged rebuild keeps the older snapshot, which is equal to the newer one by the same
comparison; passes that did not complete and rebuilds that were skipped leave no trace.
-/

namespace ApiSurface.Tracker

/-- What completed passes, the newest first, say of the snapshot in place: it is empty if there
are none, and else equal in both directions to what the newest of them put together. -/
inductive Current : List Round → Snapshot → Prop where
  | nothing : Current [] Snapshot.empty
  | pass {newest : Round} {older : List Round} {merged s : Snapshot} (complete : newest.Complete)
      (answered : newest.answers.merged = .ok merged) (equal : s.equals merged = .ok true)
      (equalBack : merged.equals s = .ok true) : Current (newest :: older) s

/-- After well-typed passes the snapshot in place is the current one. -/
theorem Yields.current {rounds : List Round} {s : Snapshot} (yields : Yields rounds s)
    (typed : ∀ round ∈ rounds, round.WellTyped) : Current rounds s := by
  have typedHere : s.WellTyped := yields.wellTyped typed
  cases rounds with
  | nil =>
    cases yields
    exact .nothing
  | cons newest older =>
    have typedNewest : newest.WellTyped := typed newest List.mem_cons_self
    have ended : newest.outcome ≠ none := yields.ended_of_wellTyped typedNewest typedHere
    obtain ⟨merged, answered, typedMerged, _, agrees⟩ := yields.agrees_of_ended typedNewest ended
    have equal : s.equals merged = .ok true :=
      typedHere.equals_eq_ok_true_iff.mpr ⟨typedMerged, agrees.symm⟩
    have equalBack : merged.equals s = .ok true :=
      typedMerged.equals_eq_ok_true_iff.mpr ⟨typedHere, agrees⟩
    exact .pass yields.complete answered equal equalBack

variable {τ : Type} [Scalar τ]

/-- In every world that a run comes to, with all listings answered so far well-typed, the snapshot
in place is equal in both directions to what the newest completed pass put together, empty if there
was none, and is itself exactly what one completed pass put together; it is what a ready tracker
hands out, its keys are what the gauge counts, and whoever read it during an operation was given
what was current then. -/
theorem Reachable.snapshot_current {settings : Settings τ} {w : World τ}
    (reachable : Reachable settings w) (typed : AnsweredWellTyped w.journal) :
    Current (roundsOf w.journal) w.tracker.snapshot ∧
    (w.tracker.snapshot = Snapshot.empty ∨
      ∃ round ∈ roundsOf w.journal, round.outcome = some .changed ∧
        round.answers.merged = .ok w.tracker.snapshot) ∧
    (w.tracker.ready = true → getSnapshot w = (.ok w.tracker.snapshot, w)) ∧
    w.tracker.groupVersionsGauge = w.tracker.snapshot.keys.length ∧
    ∀ s earlier, .reading s :: earlier <:+ w.journal → Current (roundsOf earlier) s := by
  obtain ⟨consistent, _⟩ := reachable.consistent
  refine ⟨consistent.yields.current typed.rounds, consistent.yields.origin, getSnapshot_of_ready,
    ?_, fun s earlier within => ?_⟩
  · rw [consistent.gauge, Snapshot.size, Snapshot.keys, List.length_map]
  · have before : earlier <:+ w.journal := (List.suffix_cons ..).trans within
    exact (consistent.readings s earlier within).current (typed.earlier before).rounds

/-- A tracker that was started holds and hands out the one resource discovered. -/
theorem snapshot_current_after_start :
    let core : GroupVersion := ⟨"", "v1"⟩
    let listing : Listing := some [.ofTexts "pods" true "Pod" ["get", "list"]]
    let request : Request Rat :=
      { around := .steady (.ok [core]) (fun _ => .ok listing) (.ok []), given := none, depth := 1
        operation := .start }
    let w := (request.perform (World.fresh .exact 0)).2
    Reachable .exact w ∧ AnsweredWellTyped w.journal ∧
      Current (roundsOf w.journal) w.tracker.snapshot ∧ w.tracker.snapshot.keys = [core.key] ∧
        getSnapshot w = (.ok w.tracker.snapshot, w) := by
  intro core listing request w
  have reachable : Reachable .exact w := .performed (.fresh (by decide) (by decide) 0) request
  have answers : answersOf w.journal = [(core, listing)] := rfl
  have typed : AnsweredWellTyped w.journal := by
    intro answer member found inListing
    rw [answers] at member
    cases List.mem_singleton.mp member
    cases List.mem_singleton.mp inListing
    exact Discovered.wellTyped_ofTexts ..
  obtain ⟨current, _, handedOut, _⟩ := Reachable.snapshot_current reachable typed
  exact ⟨reachable, typed, current, rfl, handedOut rfl⟩

end ApiSurface.Tracker
