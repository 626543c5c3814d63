import ApiSurface.Proofs.Tracker.Operations

/-!
# No change is lost

Rebuilds compare what scanning made of the answers, not the answers themselves. Still a
rebuild that says nothing changed means that discovery reported the same as it did to the
rebuild before it, up to the verbs that scanning would add anyway: what scanning adds
hides no change.
-/

namespace ApiSurface.Tracker

/-- A pass whose answers are well-typed and are about distinct slash-free group-versions. -/
structure Round.WellFormed (round : Round) : Prop where
  typed : round.WellTyped
  distinct : round.listed.Nodup
  slashFree : ∀ gv ∈ round.listed, gv.SlashFree

/-- Two consecutive passes that ended with an outcome, among all completed ones, the newest first:
between them lie such passes alone as could not be compared. -/
def Consecutive (rounds : List Round) (last next : Round) : Prop :=
  ∃ newer older, (rounds.filter fun round => round.outcome.isSome) = newer ++ next :: last :: older

/-- Consecutive passes with all that lies around them. -/
theorem Consecutive.split {rounds : List Round} {last next : Round}
    (consecutive : Consecutive rounds last next) :
    ∃ later pending earlier, rounds = later ++ next :: (pending ++ last :: earlier) ∧
      (∀ round ∈ pending, round.outcome = none) ∧ next.outcome ≠ none ∧ last.outcome ≠ none := by
  obtain ⟨newer, older, filtered⟩ := consecutive
  obtain ⟨later, rest, rfl, _, fromNext⟩ := List.filter_eq_append_iff.mp filtered
  obtain ⟨skipped, afterNext, rfl, _, endedNext, fromLast⟩ := List.filter_eq_cons_iff.mp fromNext
  obtain ⟨pending, earlier, rfl, undecided, endedLast, _⟩ := List.filter_eq_cons_iff.mp fromLast
  refine ⟨later ++ skipped, pending, earlier, by rw [List.append_assoc], fun round member => ?_,
    Option.isSome_iff_ne_none.mp endedNext, Option.isSome_iff_ne_none.mp endedLast⟩
  exact Option.not_isSome_iff_eq_none.mp (undecided round member)

/-- A pass that ended did so as changed or as unchanged. -/
theorem Yields.ended_cases {round : Round} {earlier : List Round} {s : Snapshot}
    (yields : Yields (round :: earlier) s) (ended : round.outcome ≠ none) :
    round.outcome = some .changed ∨ round.outcome = some .unchanged := by
  cases yields with
  | changed prior complete merged differs outcome => exact .inl outcome
  | unchanged prior complete merged equal outcome => exact .inr outcome
  | undecided prior complete merged fails outcome => exact absurd outcome ended

/-- Of two passes, the later ended as unchanged only if both were reported the same; if anything
differs, it ended as changed. -/
def Round.Tells (next last : Round) : Prop :=
  (next.outcome = some .unchanged → last.answers.SameReported next.answers) ∧
    (¬ last.answers.SameReported next.answers → next.outcome = some .changed)

/-- Of two consecutive well-formed passes the later tells what differs from the earlier. -/
theorem Yields.tells {rounds : List Round} {s : Snapshot} {last next : Round}
    (yields : Yields rounds s) (consecutive : Consecutive rounds last next)
    (wellFormed : last.WellFormed) (wellFormedNext : next.WellFormed) : next.Tells last := by
  obtain ⟨later, pending, earlier, rfl, undecided, endedNext, endedLast⟩ := consecutive.split
  obtain ⟨s, yieldsNext⟩ := yields.suffix
  have completeNext : next.answers.groupVersions = next.listed := yieldsNext.complete
  have same : next.outcome = some .unchanged → last.answers.SameReported next.answers := by
    intro unchanged
    obtain ⟨collected, before, merged, mergedLast, agrees⟩ :=
      yieldsNext.agrees_of_unchanged undecided unchanged endedLast wellFormedNext.typed
        wellFormed.typed
    have fromLast : Yields ((next :: pending) ++ last :: earlier) s := yieldsNext
    obtain ⟨_, yieldsLast⟩ := fromLast.suffix
    have complete : last.answers.groupVersions = last.listed := yieldsLast.complete
    exact Answers.sameReported_of_agrees wellFormed.typed wellFormedNext.typed
      (complete ▸ wellFormed.distinct) (completeNext ▸ wellFormedNext.distinct)
      (complete ▸ wellFormed.slashFree) (completeNext ▸ wellFormedNext.slashFree) mergedLast merged
      agrees
  refine ⟨same, fun differs => ?_⟩
  rcases yieldsNext.ended_cases endedNext with changed | unchanged
  · exact changed
  · exact absurd (same unchanged) differs

variable {τ : Type} [Scalar τ]

/-- In every world that a run comes to, of two consecutive rebuilds over well-formed answers the
second says that nothing changed only if both were reported the same, and that something did if
anything differs. What a rebuild says is what it returns, with the answers that its surroundings
gave it. -/
theorem Reachable.no_lost_change {settings : Settings τ} {w : World τ}
    (reachable : Reachable settings w) :
    (∀ last next, Consecutive (roundsOf w.journal) last next → last.WellFormed → next.WellFormed →
      next.Tells last) ∧
    ∀ (around : Surroundings τ) outer given depth outcome after,
      rebuild (Context.nested around outer depth) given w = (.ok outcome, after) →
        ∃ next, roundsOf after.journal = next :: roundsOf w.journal ∧
          next.outcome = some outcome ∧ next.Complete ∧ around.Served next ∧
            ∀ last, Consecutive (roundsOf after.journal) last next → last.WellFormed →
              next.WellFormed → next.Tells last := by
  obtain ⟨consistent, free⟩ := reachable.consistent
  refine ⟨fun last next => consistent.yields.tells, ?_⟩
  intro around outer given depth outcome after returned
  have rebuilt := rebuild_spec (Context.nested_locked_calm around outer depth) given free
  rw [returned] at rebuilt
  obtain ⟨next, rounds, ended, complete, served⟩ := rebuilt.rounds_of_ok
  have yields := (rebuilt.consistent consistent).yields
  exact ⟨next, rounds, ended, complete, Context.nested_around around outer depth ▸ served,
    fun last => yields.tells⟩

/-- Two rebuilds that are answered the same verbs in another order: the second is unchanged. -/
theorem no_lost_change_reordered :
    let core : GroupVersion := ⟨"", "v1"⟩
    let answer (verbs : List Text) : Listing := some [.ofTexts "pods" true "Pod" verbs]
    let request (verbs : List Text) : Request Rat :=
      { around := .steady (.ok [core]) (fun _ => .ok (answer verbs)) (.ok []), given := none
        depth := 1, operation := .rebuild }
    let w := (World.fresh .exact 0).after [request ["get", "list"], request ["list", "get"]]
    let last : Round := ⟨[core], [(core, answer ["get", "list"])], some .changed⟩
    let next : Round := ⟨[core], [(core, answer ["list", "get"])], some .unchanged⟩
    Reachable .exact w ∧ Consecutive (roundsOf w.journal) last next ∧ last.WellFormed ∧
      next.WellFormed ∧ last.answers.SameReported next.answers := by
  intro core answer request w last next
  have reachable : Reachable .exact w :=
    .performed (.performed (.fresh (by decide) (by decide) 0) _) _
  have consecutive : Consecutive (roundsOf w.journal) last next := ⟨[], [], rfl⟩
  have slashFree : core.SlashFree := ⟨by decide, by decide⟩
  have wellFormed : ∀ verbs outcome,
      Round.WellFormed ⟨[core], [(core, answer verbs)], outcome⟩ := by
    intro verbs outcome
    refine ⟨fun one member found inListing => ?_, List.nodup_singleton core, fun gv member => ?_⟩
    · cases List.mem_singleton.mp member
      cases List.mem_singleton.mp inListing
      exact Discovered.wellTyped_ofTexts ..
    · exact List.mem_singleton.mp member ▸ slashFree
  exact ⟨reachable, consecutive, wellFormed _ _, wellFormed _ _,
    ((Reachable.no_lost_change reachable).1 last next consecutive (wellFormed _ _)
      (wellFormed _ _)).1 rfl⟩

end ApiSurface.Tracker
