import Mathlib.Tactic.Tauto
import ApiSurface.Proofs.Discovery.Sameness
import ApiSurface.Proofs.Tracker.Changes

/-!
# No change is made up

A rebuild over answers that say the same as those of the rebuild before it is unchanged:
the order in which discovery answers, what it repeats and what it leaves out never show.
The snapshot in place stays the one it was, in its own order, and nobody is told.
-/

namespace ApiSurface.Tracker

/-- A pass over the same answers as the pass that ended before it is unchanged and leaves in place
what was there. -/
theorem Yields.unchanged_of_same {earlier pending : List Round} {last next : Round} {s : Snapshot}
    (yields : Yields (next :: (pending ++ last :: earlier)) s)
    (undecided : ∀ round ∈ pending, round.outcome = none) (ended : last.outcome ≠ none)
    (typed : last.WellTyped) (typedNext : next.WellTyped)
    (same : last.answers.Same next.answers) :
    next.outcome = some .unchanged ∧ Yields (pending ++ last :: earlier) s := by
  obtain ⟨collected, mergedNext, typedCollected, _⟩ := Answers.WellTyped.merged typedNext
  have equal : ∀ {placed : Snapshot}, Yields (pending ++ last :: earlier) placed →
      collected.equals placed = .ok true := by
    intro placed prior
    obtain ⟨before, merged, _, typedPlaced, agrees⟩ :=
      (prior.of_undecided undecided).agrees_of_ended typed ended
    have agreesNext : before.Agrees collected := same.agrees typed typedNext merged mergedNext
    exact typedCollected.equals_eq_ok_true_iff.mpr ⟨typedPlaced, agreesNext.symm.trans agrees⟩
  cases yields with
  | unchanged prior complete merged agrees outcome => exact ⟨outcome, prior⟩
  | changed prior complete merged differs outcome =>
    cases merged.symm.trans mergedNext
    cases differs.symm.trans (equal prior)
  | undecided prior complete merged fails outcome =>
    cases merged.symm.trans mergedNext
    cases fails.symm.trans (equal prior)

variable {τ : Type} {ctx : Context τ} {stop : Signal} {w after : World τ}

/-- A rebuild whose pass is on record as unchanged has returned so and left the snapshot in place,
and told nobody. -/
theorem Rebuilt.of_unchanged {result : Except Fault Outcome} {next : Round}
    (rebuilt : Rebuilt ctx stop w result after)
    (rounds : roundsOf after.journal = next :: roundsOf w.journal)
    (unchanged : next.outcome = some .unchanged) :
    result = .ok .unchanged ∧ after.tracker.snapshot = w.tracker.snapshot ∧
      ∃ news, after.journal = news ++ w.journal ∧ Uneventful news := by
  cases rebuilt with
  | @failed fault mid held hindered =>
    have same : roundsOf mid.journal = roundsOf w.journal := held.viewed
    have longer : roundsOf w.journal = next :: roundsOf w.journal := same.symm.trans rounds
    exact absurd longer.symm (List.cons_ne_self _ _)
  | @undecided collected mid kind pass fails =>
    cases (List.cons.inj rounds).1
    cases pass.pending.symm.trans unchanged
  | @changed collected mid pass different =>
    cases (List.cons.inj rounds).1
    cases unchanged
  | @unchanged collected mid pass equal =>
    obtain ⟨news, journal, uneventful⟩ := pass.uneventful
    refine ⟨rfl, pass.held.snapshot, .counted .unchanged ::
      .logged ⟨.debug, "API resources unchanged"⟩ :: news, ?_, .cons rfl (.cons rfl uneventful)⟩
    rw [List.cons_append, List.cons_append, ← journal]
    rfl

/-- Collecting after a rebuild that is unchanged does nothing more than the rebuild. -/
theorem collectAndNotify_of_unchanged {given : Option Signal}
    (ended : rebuild ctx given w = (.ok .unchanged, after)) :
    collectAndNotify ctx given w = (.ok (some .unchanged), after) :=
  collectAndNotify_of_idle ended nofun

variable [Scalar τ]

/-- In every world that a run comes to, a pass that was completed over well-typed answers which say
the same as those of the completed rebuild before it ended as unchanged. A rebuild that completes
such a pass next returns so and leaves the very snapshot in place, and collecting over it tells and
calls nobody. -/
theorem Reachable.no_spurious_change {settings : Settings τ} (reachable : Reachable settings w) :
    (∀ last next, Consecutive (roundsOf w.journal) last next → last.WellTyped → next.WellTyped →
      last.answers.Same next.answers → next.outcome = some .unchanged) ∧
    ∀ (around : Surroundings τ) outer given depth pending last earlier next,
      let ctx := Context.nested around outer depth
      let after := (rebuild ctx given w).2
      roundsOf w.journal = pending ++ last :: earlier →
      (∀ round ∈ pending, round.outcome = none) → last.outcome ≠ none →
      roundsOf after.journal = next :: roundsOf w.journal →
      last.WellTyped → next.WellTyped → last.answers.Same next.answers →
        rebuild ctx given w = (.ok .unchanged, after) ∧
        after.tracker.snapshot = w.tracker.snapshot ∧
        collectAndNotify ctx given w = (.ok (some .unchanged), after) ∧
        ∃ news, after.journal = news ++ w.journal ∧ ∀ entry ∈ news, entry.isTelling = false := by
  obtain ⟨consistent, free⟩ := reachable.consistent
  constructor
  · intro last next consecutive typed typedNext same
    obtain ⟨later, pending, earlier, rounds, undecided, _, ended⟩ := consecutive.split
    have yields := consistent.yields
    rw [rounds] at yields
    obtain ⟨placed, yieldsNext⟩ := yields.suffix
    exact (yieldsNext.unchanged_of_same undecided ended typed typedNext same).1
  · intro around outer given depth pending last earlier next ctx after before undecided ended
      rounds typed typedNext same
    have rebuilt := rebuild_spec (Context.nested_locked_calm around outer depth) given free
    have yields := (rebuilt.consistent consistent).yields
    rw [rounds, before] at yields
    obtain ⟨unchanged, _⟩ := yields.unchanged_of_same undecided ended typed typedNext same
    obtain ⟨result, snapshot, news, journal, uneventful⟩ := rebuilt.of_unchanged rounds unchanged
    have returned : rebuild ctx given w = (.ok .unchanged, after) := Prod.ext result rfl
    refine ⟨returned, snapshot, collectAndNotify_of_unchanged returned, news, journal, ?_⟩
    intro entry member
    exact Entry.not_isTelling_of_uneventful (uneventful entry member)

/-- The second of two rebuilds finds the group-versions in another order, one of them listed twice
both times, and in each the two resources of one name exchanged, with their verbs in another order
and repeated and with an empty kind and empty verbs where there were none: nothing changed. -/
theorem no_spurious_change_reordered :
    let core : GroupVersion := ⟨"", "v1"⟩
    let apps : GroupVersion := ⟨"apps", "v1"⟩
    let bare : ApiSurface.Discovered :=
      { name := .text "pods", namespaced := .bool true, kind := .null, verbs := .null }
    let listing : Listing := some [.ofTexts "pods" true "Pod" ["get", "list"], bare]
    let other : Listing :=
      some [.ofTexts "pods" true "" [], .ofTexts "pods" true "Pod" ["list", "get", "list"]]
    let around (groups : List GroupVersion) (listing : Listing) : Surroundings Rat :=
      .steady (.ok groups) (fun _ => .ok listing) (.ok [])
    let request : Request Rat :=
      { around := around [core, apps, core] listing, given := none, depth := 1
        operation := .rebuild }
    let w := (World.fresh .exact 0).after [request]
    let round (groups : List GroupVersion) (listing : Listing) (outcome : Outcome) : Round :=
      ⟨groups, groups.map fun gv => (gv, listing), some outcome⟩
    let last := round [core, apps, core] listing .changed
    let next := round [core, core, apps] other .unchanged
    let again := around [core, core, apps] other
    Reachable .exact w ∧ last.WellTyped ∧ next.WellTyped ∧ last.answers.Same next.answers ∧
      (rebuild (Context.nested again none 1) none w).1 = .ok .unchanged ∧
      (rebuild (Context.nested again none 1) none w).2.tracker.snapshot = w.tracker.snapshot ∧
      (collectAndNotify (Context.nested again none 1) none w).1 = .ok (some .unchanged) := by
  intro core apps bare listing other around request w round last next again
  have reachable : Reachable .exact w := .performed (.fresh (by decide) (by decide) 0) request
  have typedBare : bare.WellTyped := ⟨⟨_, rfl⟩, .inl rfl, .inl rfl⟩
  have typedListing : listing.WellTyped := by
    intro found member
    rcases List.mem_pair.mp member with rfl | rfl
    · exact Discovered.wellTyped_ofTexts ..
    · exact typedBare
  have typedOther : other.WellTyped := by
    intro found member
    rcases List.mem_pair.mp member with rfl | rfl <;> exact Discovered.wellTyped_ofTexts ..
  have typedRound : ∀ groups outcome {listing : Listing}, listing.WellTyped →
      (round groups listing outcome).WellTyped := by
    intro groups outcome listing typed answer member
    obtain ⟨gv, _, rfl⟩ := List.mem_map.mp member
    exact typed
  have sameListing : listing.Same other := by
    have blank : bare.Same (.ofTexts "pods" true "" []) := ⟨rfl, rfl, rfl, fun _ => Iff.rfl⟩
    have repeated : (Discovered.ofTexts "pods" true "Pod" ["get", "list"]).Same
        (.ofTexts "pods" true "Pod" ["list", "get", "list"]) := by
      refine .ofTexts fun verb => ?_
      simp only [List.mem_cons, List.not_mem_nil, or_false]
      tauto
    have exchanged : Multiset.Rel Discovered.Same (listing.found : Multiset ApiSurface.Discovered)
        (other.found.reverse : List ApiSurface.Discovered) :=
      .cons repeated (.cons blank .zero)
    rwa [Multiset.coe_reverse] at exchanged
  have perm : [core, apps, core].Perm [core, core, apps] := .cons _ (.swap ..)
  have same : last.answers.Same next.answers := .of_perm perm sameListing
  have typed : last.WellTyped := typedRound _ _ typedListing
  have typedNext : next.WellTyped := typedRound _ _ typedOther
  have before : roundsOf w.journal = [] ++ last :: [] := rfl
  have ended : (rebuild (Context.nested again none 1) none w).1.toOption = some .unchanged := by
    decide +kernel
  have grown : roundsOf (rebuild (Context.nested again none 1) none w).2.journal =
      next :: roundsOf w.journal :=
    rounds_of_steady (Context.nested_locked_calm again none 1) rfl none rfl ended
  obtain ⟨returned, snapshot, collected, _⟩ :=
    (Reachable.no_spurious_change reachable).2 again none none 1 [] last [] next before
      (List.forall_mem_nil _) (Option.some_ne_none _) grown typed typedNext same
  exact ⟨reachable, typed, typedNext, same, congrArg Prod.fst returned, snapshot,
    congrArg Prod.fst collected⟩

end ApiSurface.Tracker
