import ApiSurface.Proofs.Tracker.Pass

/-!
# How a rebuild ends

`rebuild_spec` says once what a rebuild that finds the lock free can do: it fails in its
pass, it completes its pass and cannot compare the result, or it completes its pass and
confirms or replaces the snapshot in place. In every case it gives the lock back, and
all that is known of rebuilds is read off the four cases.
-/

namespace ApiSurface.Tracker

variable {τ : Type}

namespace World

/-- The world in which a rebuild has taken the lock. -/
def begun (w : World τ) : World τ :=
  { w with
      tracker := { w.tracker with rebuilding := true }
      journal := .beganRebuild :: w.journal }

/-- The world in which some things were counted one after the other. -/
def counting (w : World τ) (counters : List Counter) : World τ :=
  counters.foldl (fun w counter => { w with journal := .counted counter :: w.journal }) w

/-- The world in which a rebuild was counted as failed. -/
def failed (w : World τ) : World τ := { w with journal := .counted .failed :: w.journal }

/-- The world in which a pass was completed. -/
def completed (w : World τ) (collected : Snapshot) : World τ :=
  { w with journal := .completedPass collected :: w.journal }

/-- The world in which a rebuild found the snapshot in place to be right. -/
def confirmed (w : World τ) : World τ :=
  { w with
      journal :=
        .counted .unchanged :: .logged ⟨.debug, "API resources unchanged"⟩ :: w.journal }

/-- The world in which a rebuild has replaced the snapshot. -/
def replaced (w : World τ) (collected : Snapshot) : World τ :=
  { w with
      tracker :=
        { w.tracker with snapshot := collected, groupVersionsGauge := collected.size }
      journal :=
        .counted .changed ::
          .logged ⟨.info, "API resources updated: " ++ collected.sizeText⟩ ::
            .installed collected :: w.journal }

/-- The world in which a rebuild has given the lock back. -/
def released (w : World τ) : World τ :=
  { w with tracker := { w.tracker with rebuilding := false } }

end World

variable {ctx : Context τ} {around : Surroundings τ} {stop : Signal} {collected : Snapshot}
variable {w mid after : World τ}

/-! ## Discovery -/

/-- A completed pass stays completed as long as only calls come after it. -/
theorem Collected.later (pass : Collected around collected w mid) (calm : Calm mid after) :
    Collected around collected w after := by
  have same : after.history = mid.history := calm.viewed
  refine ⟨pass.held.trans (.of_calm calm), ?_, ?_, ?_, ?_⟩
  · rw [same]
    exact pass.complete
  · rw [same]
    exact pass.merged
  · rw [same]
    exact pass.pending
  · rw [same]
    exact pass.served

theorem Collected.earlier (held : Held History.rounds w mid)
    (pass : Collected around collected mid after) : Collected around collected w after :=
  ⟨held.trans pass.held, pass.complete, pass.merged, pass.pending, pass.served⟩

/-- What a rebuild has put on record when its pass is completed tells of no change. -/
theorem Collected.uneventful (pass : Collected around collected w.begun mid) :
    ∃ news, (mid.completed collected).journal = news ++ w.journal ∧ Uneventful news := by
  obtain ⟨news, journal, _, uneventful⟩ := pass.held.received
  have began : Uneventful [(.beganRebuild : Entry τ)] := .cons rfl .nil
  refine ⟨.completedPass collected :: (news ++ [.beganRebuild]), ?_,
    .cons rfl (uneventful.append began)⟩
  rw [World.completed, journal, World.begun, List.cons_append, List.append_assoc,
    List.singleton_append]

/-- An operation that returns is not counted as a failure. -/
theorem Op.countingFailure_of_ok {α : Type} {counters : List Counter} {op : Op τ α} {a : α}
    (returned : op w = (.ok a, after)) : countingFailure counters op w = (.ok a, after) := by
  rw [countingFailure, bind_apply, attempt_apply, returned]
  rfl

theorem Op.each_count (counters : List Counter) (w : World τ) :
    each count counters w = (.ok (), w.counting counters) := by
  induction counters generalizing w with
  | nil => rfl
  | cons counter rest ih => exact ih _

/-- An operation that fails is counted, and fails likewise. -/
theorem Op.countingFailure_of_error {α : Type} (counters : List Counter) {op : Op τ α}
    {fault : Fault} (failed : op w = (.error fault, mid)) :
    countingFailure counters op w = (.error fault, mid.counting counters) := by
  rw [countingFailure, bind_apply, attempt_apply, failed]
  exact bind_of_ok (each_count counters mid)

/-- How discovery may end: hindered, or with a completed pass. -/
inductive Discovered (ctx : Context τ) (stop : Signal) (w : World τ) :
    Except Fault Snapshot → World τ → Prop where
  | failed {fault : Fault} {mid : World τ} (held : Held History.rounds w mid)
      (hindered : Hindered ctx stop mid) : Discovered ctx stop w (.error fault) mid.failed
  | completed {collected : Snapshot} {mid : World τ} (pass : Collected ctx.around collected w mid) :
      Discovered ctx stop w (.ok collected) (mid.completed collected)

/-- Listing the group-versions is refused, or answered and put on record. -/
theorem listGroups_spec (calm : ctx.IsCalm) (locked : w.tracker.rebuilding = true)
    (stop : Signal) :
    ∃ mid, Calm w mid ∧
      ((∃ fault, listGroups ctx w = (.error fault, mid) ∧ Hindered ctx stop mid) ∨
        ∃ listed, listGroups ctx w =
          (.ok listed, { mid with journal := .answeredGroups listed :: mid.journal }) ∧
            ∃ journal, (ctx.around.groups journal).outcome = .ok listed) := by
  obtain ⟨mid, answerCalm, asked⟩ := calm.ask locked .listedGroups rfl ctx.around.groups
  refine ⟨mid, answerCalm, ?_⟩
  rw [listGroups]
  cases outcome : (ctx.around.groups (.listedGroups :: w.journal)).outcome with
  | error fault =>
    rw [outcome] at asked
    rw [Op.bind_of_error asked]
    exact .inl ⟨fault, rfl, .groupsRefused outcome⟩
  | ok listed =>
    rw [outcome] at asked
    rw [Op.bind_of_ok asked]
    exact .inr ⟨listed, rfl, _, outcome⟩

theorem discover_spec (calm : ctx.IsCalm) (locked : w.tracker.rebuilding = true) (stop : Signal)
    (fresh : w.history.current = Round.fresh) :
    Discovered ctx stop w (discover ctx stop w).1 (discover ctx stop w).2 := by
  obtain ⟨mid, listCalm, ⟨fault, refused, hindered⟩ | ⟨listed, answered, given⟩⟩ :=
    listGroups_spec calm locked stop
  · have scanCalm : Calm mid (mid.counting [.scanErrors]) := .plain _ rfl
    rw [discover, Op.bind_of_error (Op.countingFailure_of_error [.scanErrors, .failed] refused)]
    exact .failed (.of_calm (listCalm.trans scanCalm)) (hindered.later scanCalm.quiet.toAdvances)
  -- The pass begins in this world, with the group-versions listed and nothing answered yet.
  let begun : World τ :=
    { mid with
        journal :=
          .logged ⟨.debug, "Discovered " ++ toString listed.length ++ " group-versions"⟩ ::
            .answeredGroups listed :: mid.journal }
  have same : mid.history = w.history := listCalm.viewed
  have listedHeld : Held History.rounds w begun :=
    (Held.of_calm listCalm).trans
      ((Held.noted (.answeredGroups listed) rfl rfl rfl rfl nofun rfl).trans (.plain _ rfl))
  have current : begun.history.current = { Round.fresh with listed } := by
    change { mid.history.current with listed } = _
    rw [same, fresh]
  have ran := Pass.run_spec calm (listedHeld.quiet.lock.trans locked) stop current given
  rw [discover, Op.bind_of_ok (Op.countingFailure_of_ok answered),
    Op.bind_of_ok (Op.log_apply ..)]
  cases ends : Pass.run ctx stop listed begun with
  | mk result after =>
    rw [ends] at ran
    cases ran with
    | failed held hindered =>
      rw [Op.bind_of_error (Op.countingFailure_of_error [.failed] ends)]
      exact .failed (listedHeld.trans held) hindered
    | completed pass =>
      rw [Op.bind_of_ok (Op.countingFailure_of_ok ends)]
      exact .completed ((pass.earlier listedHeld).later (Held.plain (.counted .passes) rfl))

/-! ## Installing -/

/-- A snapshot equal to the one in place leaves it there. -/
theorem install_of_equal (equal : collected.equals w.tracker.snapshot = .ok true) :
    install collected w = (.ok .unchanged, w.confirmed) := by
  rw [install, Op.bind_apply, Op.tracker]
  simp only [equal]
  rfl

/-- A snapshot that differs from the one in place replaces it. -/
theorem install_of_different (different : collected.equals w.tracker.snapshot = .ok false) :
    install collected w = (.ok .changed, w.replaced collected) := by
  rw [install, Op.bind_apply, Op.tracker]
  simp only [different]
  rfl

/-- A snapshot that cannot be compared with the one in place is not installed. -/
theorem install_of_incomparable {kind : Misuse}
    (fails : collected.equals w.tracker.snapshot = .error kind) :
    install collected w = (.error (.misuse kind), w) := by
  rw [install, Op.bind_apply, Op.tracker]
  simp only [fails]
  rfl

/-! ## Rebuilding -/

/-- How a rebuild that finds the lock free may end, and what it leaves behind. -/
inductive Rebuilt (ctx : Context τ) (stop : Signal) (w : World τ) :
    Except Fault Outcome → World τ → Prop where
  | failed {fault : Fault} {mid : World τ} (held : Held History.rounds w.begun mid)
      (hindered : Hindered ctx stop mid) : Rebuilt ctx stop w (.error fault) mid.failed.released
  | undecided {collected : Snapshot} {mid : World τ} {kind : Misuse}
      (pass : Collected ctx.around collected w.begun mid)
      (fails : collected.equals w.tracker.snapshot = .error kind) :
      Rebuilt ctx stop w (.error (.misuse kind)) (mid.completed collected).released
  | unchanged {collected : Snapshot} {mid : World τ}
      (pass : Collected ctx.around collected w.begun mid)
      (equal : collected.equals w.tracker.snapshot = .ok true) :
      Rebuilt ctx stop w (.ok .unchanged) (mid.completed collected).confirmed.released
  | changed {collected : Snapshot} {mid : World τ}
      (pass : Collected ctx.around collected w.begun mid)
      (different : collected.equals w.tracker.snapshot = .ok false) :
      Rebuilt ctx stop w (.ok .changed) ((mid.completed collected).replaced collected).released

/-- The stop signal that an operation looks at, if one is given to it or none. -/
def State.stopOr (tracker : State τ) (given : Option Signal) : Signal :=
  given.getD tracker.ownStop

theorem stopOr_apply (given : Option Signal) (w : World τ) :
    (Context.stopOr given : Op τ Signal) w = (.ok (w.tracker.stopOr given), w) := by
  cases given <;> rfl

/-- A rebuild that finds the lock free holds it while it discovers and installs, and gives it
back however that ends. -/
theorem rebuild_of_free (given : Option Signal) (free : w.tracker.rebuilding = false) :
    rebuild ctx given w =
      ((rebuildLocked ctx (w.tracker.stopOr given) w.begun).1,
        (rebuildLocked ctx (w.tracker.stopOr given) w.begun).2.released) := by
  rw [rebuild, Op.bind_of_ok (stopOr_apply given w), Op.bind_apply, Op.tracker]
  simp only [free, Bool.false_eq_true, if_false]
  exact Op.conclude_apply ..

theorem rebuild_spec (calm : ctx.IsCalm) (given : Option Signal)
    (free : w.tracker.rebuilding = false) :
    Rebuilt ctx (w.tracker.stopOr given) w (rebuild ctx given w).1 (rebuild ctx given w).2 := by
  have discovered := discover_spec (w := w.begun) calm rfl (w.tracker.stopOr given) rfl
  rw [rebuild_of_free given free, rebuildLocked]
  cases ends : discover ctx (w.tracker.stopOr given) w.begun with
  | mk result after =>
    rw [ends] at discovered
    cases discovered with
    | failed held hindered =>
      rw [Op.bind_of_error ends]
      exact .failed held hindered
    | @completed collected mid pass =>
      have inPlace : (mid.completed collected).tracker.snapshot = w.tracker.snapshot :=
        pass.held.snapshot
      rw [Op.bind_of_ok ends]
      cases compared : collected.equals w.tracker.snapshot with
      | error kind =>
        rw [install_of_incomparable (inPlace.symm ▸ compared)]
        exact .undecided pass compared
      | ok equal =>
        cases equal with
        | true =>
          rw [install_of_equal (inPlace.symm ▸ compared)]
          exact .unchanged pass compared
        | false =>
          rw [install_of_different (inPlace.symm ▸ compared)]
          exact .changed pass compared

namespace World.Consistent

/-- A consistent world is consistent when a rebuild takes the lock. -/
theorem begun (consistent : w.Consistent) : w.begun.Consistent where
  yields := consistent.yields
  gauge := consistent.gauge
  readings := consistent.readings.cons nofun

/-- Counting a failure tells nothing of what is in place. -/
theorem failed (consistent : w.Consistent) : w.failed.Consistent :=
  consistent.noted (.counted .failed) rfl nofun

theorem released (consistent : w.Consistent) : w.released.Consistent :=
  ⟨consistent.yields, consistent.gauge, consistent.readings⟩

/-- With a completed pass put on record that could not be compared, a consistent world is
consistent still: nothing was installed. -/
theorem undecided {kind : Misuse} (consistent : mid.Consistent)
    (pass : Collected around collected w mid)
    (fails : collected.equals mid.tracker.snapshot = .error kind) :
    (mid.completed collected).Consistent where
  yields := .undecided consistent.yields pass.complete pass.merged fails pass.pending
  gauge := consistent.gauge
  readings := consistent.readings.cons nofun

theorem confirmed (consistent : mid.Consistent) (pass : Collected around collected w mid)
    (equal : collected.equals mid.tracker.snapshot = .ok true) :
    (mid.completed collected).confirmed.Consistent where
  yields := .unchanged consistent.yields pass.complete pass.merged equal rfl
  gauge := consistent.gauge
  readings := by
    refine ((consistent.readings.cons ?_).cons ?_).cons ?_
    all_goals nofun

theorem replaced (consistent : mid.Consistent) (pass : Collected around collected w mid)
    (different : collected.equals mid.tracker.snapshot = .ok false) :
    ((mid.completed collected).replaced collected).Consistent where
  yields := .changed consistent.yields pass.complete pass.merged different rfl
  gauge := rfl
  readings := by
    refine (((consistent.readings.cons ?_).cons ?_).cons ?_).cons ?_
    all_goals nofun

end World.Consistent

namespace Rebuilt

variable {result : Except Fault Outcome} {outcome : Outcome}

/-- However a rebuild ends, a consistent world stays consistent. -/
theorem consistent (rebuilt : Rebuilt ctx stop w result after) (consistent : w.Consistent) :
    after.Consistent := by
  cases rebuilt with
  | failed held hindered => exact (held.consistent consistent.begun).failed.released
  | undecided pass fails =>
    have here := pass.held.consistent consistent.begun
    exact (here.undecided pass (pass.held.snapshot.symm ▸ fails)).released
  | unchanged pass equal =>
    have here := pass.held.consistent consistent.begun
    exact (here.confirmed pass (pass.held.snapshot.symm ▸ equal)).released
  | changed pass different =>
    have here := pass.held.consistent consistent.begun
    exact (here.replaced pass (pass.held.snapshot.symm ▸ different)).released

/-- A rebuild that returns has put its pass on record with the outcome it returns. -/
theorem rounds_of_ok (rebuilt : Rebuilt ctx stop w (.ok outcome) after) :
    ∃ round, roundsOf after.journal = round :: roundsOf w.journal ∧
      round.outcome = some outcome ∧ round.Complete ∧ ctx.around.Served round := by
  cases rebuilt with
  | unchanged pass equal =>
    have before : roundsOf _ = roundsOf w.begun.journal := pass.held.viewed
    exact ⟨_, congrArg (List.cons _) before, rfl, pass.complete, pass.served.ended _⟩
  | changed pass different =>
    have before : roundsOf _ = roundsOf w.begun.journal := pass.held.viewed
    exact ⟨_, congrArg (List.cons _) before, rfl, pass.complete, pass.served.ended _⟩

/-- Apart from what happened under the lock, a rebuild touches the snapshot with its gauge and
the lock alone. -/
theorem touches (rebuilt : Rebuilt ctx stop w result after) :
    ∃ mid news, Held History.rounds w.begun mid ∧ after.journal = news ++ mid.journal ∧
      after.raised = mid.raised ∧
      after.tracker =
        { mid.tracker with
            snapshot := after.tracker.snapshot
            groupVersionsGauge := after.tracker.groupVersionsGauge
            rebuilding := false } := by
  cases rebuilt with
  | failed held hindered => exact ⟨_, [.counted .failed], held, rfl, rfl, rfl⟩
  | @undecided collected mid kind pass fails =>
    exact ⟨mid, [.completedPass collected], pass.held, rfl, rfl, rfl⟩
  | @unchanged collected mid pass equal =>
    exact ⟨mid, [_, _, .completedPass collected], pass.held, rfl, rfl, rfl⟩
  | @changed collected mid pass different =>
    exact ⟨mid, [_, _, _, .completedPass collected], pass.held, rfl, rfl, rfl⟩

/-- However a rebuild ends, it is quiet. -/
theorem quiet (rebuilt : Rebuilt ctx stop w result after) (free : w.tracker.rebuilding = false) :
    Quiet w after := by
  obtain ⟨mid, news, held, journal, raised, tracker⟩ := rebuilt.touches
  have under := held.quiet
  have sinceBegun : w.begun.journal <:+ after.journal :=
    under.journal.trans (journal ▸ List.suffix_append ..)
  refine ⟨⟨(List.suffix_cons ..).trans sinceBegun, fun {signal} set => ?_, ?_, rebuilt.consistent⟩,
    ?_, ?_, ?_⟩
  · have setInMid : mid.isSet signal = true := under.raised set
    rwa [World.isSet, raised]
  · rw [tracker, free]
  · rw [tracker]
    exact under.known
  · rw [tracker]
    exact under.ready
  · rw [tracker]
    exact under.ownStop

end Rebuilt

/-- A rebuild over surroundings that always answer the same has their answers on record. -/
theorem rounds_of_steady {groups : List GroupVersion} {listing : Listing}
    {crds : Except Fault (List Value)} {outcome : Outcome} (calm : ctx.IsCalm)
    (steady : ctx.around = .steady (.ok groups) (fun _ => .ok listing) crds)
    (given : Option Signal) (free : w.tracker.rebuilding = false)
    (ended : (rebuild ctx given w).1.toOption = some outcome) :
    roundsOf (rebuild ctx given w).2.journal =
      ⟨groups, groups.map fun gv => (gv, listing), some outcome⟩ :: roundsOf w.journal := by
  have rebuilt := rebuild_spec calm given free
  cases result : (rebuild ctx given w).1 with
  | error fault =>
    rw [result] at ended
    cases ended
  | ok other =>
    rw [result] at ended rebuilt
    cases ended
    obtain ⟨⟨listed, answers, ended⟩, rounds, rfl, complete, served⟩ := rebuilt.rounds_of_ok
    have given : listed = groups ∧ answers = groups.map fun gv => (gv, listing) :=
      served.of_steady steady complete
    rw [rounds, given.1, given.2]

end ApiSurface.Tracker
