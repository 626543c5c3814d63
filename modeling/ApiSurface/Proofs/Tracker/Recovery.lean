import ApiSurface.Proofs.Tracker.Known

/-!
# Recovery by a full rescan

A full rescan lists the known definitions anew and rebuilds, whatever the limiter says.
While the surroundings answer well and no stop is seen, it catches up with them from
every state a tracker can be in but one: a snapshot put together from earlier answers
that hold something that cannot be compared. Where such a snapshot blocks the comparison
the rescan gives no outcome and the snapshot stays in place.
-/

namespace ApiSurface.Tracker

variable {τ : Type} {ctx : Context τ} {around : Surroundings τ} {stop : Signal}
variable {since : List Round} {w mid after : World τ}

/-! ## Surroundings that answer well -/

/-- Surroundings in which every listing succeeds with what it is documented to answer. -/
structure Surroundings.Healthy (around : Surroundings τ) : Prop where
  groups : ∀ journal, ∃ listed, (around.groups journal).outcome = .ok listed
  resources : ∀ key journal, ∃ listing,
    (around.resources key journal).outcome = .ok listing ∧ listing.WellTyped
  crds : ∀ journal, ∃ items,
    (around.crds journal).outcome = .ok items ∧ ∀ item ∈ items, Readable item

namespace Surroundings.Healthy

/-- In healthy surroundings a pass is hindered by a stop alone. -/
theorem stopped_of_hindered (healthy : ctx.around.Healthy) (hindered : Hindered ctx stop w) :
    w.isSet stop = true := by
  cases hindered with
  | stopped set => exact set
  | @groupsRefused journal fault refused =>
    obtain ⟨listed, answered⟩ := healthy.groups journal
    cases answered.symm.trans refused
  | @resourcesRefused key journal fault refused =>
    obtain ⟨listing, answered, _⟩ := healthy.resources key journal
    cases answered.symm.trans refused
  | @unreadable gv journal listing kind answered unreadable =>
    obtain ⟨_, wellAnswered, typed⟩ := healthy.resources gv.key journal
    cases wellAnswered.symm.trans answered
    obtain ⟨resources, scan, _⟩ := Scan.resources_of_wellTyped gv typed
    cases scan.symm.trans unreadable

/-- What healthy surroundings answer about resources is well-typed. -/
theorem wellTyped (healthy : around.Healthy) {answers : Answers} (gave : around.Gave answers) :
    answers.WellTyped := by
  intro answer member
  obtain ⟨journal, answered⟩ := gave answer member
  obtain ⟨_, wellAnswered, typed⟩ := healthy.resources answer.1.key journal
  cases wellAnswered.symm.trans answered
  exact typed

/-- What a pass over healthy surroundings put together is well-typed. -/
theorem wellTyped_collected (healthy : around.Healthy) {collected : Snapshot}
    (pass : Collected around collected w mid) : collected.WellTyped := by
  obtain ⟨s, merged, typed, _⟩ := Answers.WellTyped.merged (healthy.wellTyped pass.served.gave)
  cases merged.symm.trans pass.merged
  exact typed

end Surroundings.Healthy

/-! ## Listing the definitions anew -/

/-- In healthy surroundings the known definitions become those listed, and before that only the
surroundings act, if they do. -/
theorem refreshKnown_spec (lawful : ctx.Lawful Quiet) (healthy : ctx.around.Healthy) (w : World τ) :
    ∃ items mid, (ctx.around.crds (.listedCrds :: w.journal)).outcome = .ok items ∧
      Quiet w mid ∧ .listedCrds :: w.journal <:+ mid.journal ∧
      ((ctx.around.crds (.listedCrds :: w.journal)).actions = [] →
        mid.tracker.snapshot = w.tracker.snapshot) ∧
      refreshKnown ctx w = (.ok (), mid.relisted (items.filterMap uidOf?)) := by
  obtain ⟨items, answered, readable⟩ := healthy.crds (.listedCrds :: w.journal)
  let heard : World τ := (ctx.ask .listedCrds ctx.around.crds w).2
  have acted : Quiet { w with journal := .listedCrds :: w.journal } heard := by
    change Quiet _ (ctx.ask .listedCrds ctx.around.crds w).2
    rw [Context.ask_apply]
    exact Op.Moves.takeActions lawful.acts _ _
  have asked : ctx.ask .listedCrds ctx.around.crds w = (.ok items, heard) := by
    refine Prod.ext ?_ rfl
    rw [Context.ask_apply, answered]
  obtain ⟨mid, calm, collected⟩ := collectUids_apply readable heard
  have since : Quiet { w with journal := .listedCrds :: w.journal } mid := acted.trans calm.quiet
  refine ⟨items, mid, answered, (Quiet.plain rfl).trans since, since.journal, fun idle => ?_, ?_⟩
  · rw [calm.snapshot]
    change (ctx.ask .listedCrds ctx.around.crds w).2.tracker.snapshot = _
    rw [Context.ask_apply, idle]
    rfl
  · rw [refreshKnown, Op.bind_of_ok asked, Op.bind_of_ok collected]
    rfl

/-- The world in which a full rescan was announced. -/
def World.announced (w : World τ) : World τ :=
  { w with
      journal :=
        .logged ⟨.info, "Performing full rescan to account for missed events"⟩ :: w.journal }

/-- The world in which a full rescan has listed the known definitions, or failed to. -/
def World.refreshed (ctx : Context τ) (w : World τ) : World τ := (refreshOrReport ctx w.announced).2

/-- The known definitions are those that were listed on being asked since a journal. -/
structure World.Listed (around : Surroundings τ) (since : Journal τ) (w : World τ) : Prop where
  listed : ∃ journal items, since <:+ journal ∧ .listedCrds :: journal <:+ w.journal ∧
    (around.crds (.listedCrds :: journal)).outcome = .ok items ∧
      ∀ uid, w.tracker.known.contains uid = true ↔ uid ∈ items.filterMap uidOf?

/-- What is quiet keeps the listed definitions known. -/
theorem World.Listed.later {since : Journal τ} (listed : w.Listed ctx.around since)
    (quiet : Quiet w after) : after.Listed ctx.around since := by
  obtain ⟨journal, items, began, asked, answered, known⟩ := listed.listed
  exact ⟨journal, items, began, asked.trans quiet.journal, answered, quiet.known ▸ known⟩

/-- A full rescan in healthy surroundings comes to know the listed definitions. -/
theorem World.refreshed_spec (lawful : ctx.Lawful Quiet) (healthy : ctx.around.Healthy)
    (w : World τ) :
    (w.refreshed ctx).Listed ctx.around w.journal ∧ Advances w (w.refreshed ctx) ∧
      (w.refreshed ctx).tracker.ownStop = w.tracker.ownStop ∧
      ((∀ journal, (ctx.around.crds journal).actions = []) →
        (w.refreshed ctx).tracker.snapshot = w.tracker.snapshot) := by
  obtain ⟨items, mid, answered, quiet, asked, idle, refreshes⟩ :=
    refreshKnown_spec lawful healthy w.announced
  have refreshed : w.refreshed ctx = mid.relisted (items.filterMap uidOf?) := by
    rw [World.refreshed, refreshOrReport, Op.bind_apply, Op.attempt_apply, refreshes]
    rfl
  have replaced : Advances mid (mid.relisted (items.filterMap uidOf?)) :=
    Following.ofRelisted _
  have advances : Advances w mid := ((Quiet.plain rfl).trans quiet).toAdvances
  rw [refreshed]
  refine ⟨⟨_, items, List.suffix_cons .., asked.trans replaced.journal, answered, fun uid => ?_⟩,
    advances.trans replaced, quiet.ownStop, fun silent => idle (silent _)⟩
  exact Crd.IdentitySet.contains_iff.trans Crd.IdentitySet.mem_ofList

/-! ## Catching up -/

/-- The newest completed pass ended with an outcome, over answers that the surroundings gave, and
is none of those before some others. -/
structure World.Renewed (around : Surroundings τ) (since : List Round) (w : World τ) : Prop where
  consistent : w.Consistent
  since : since <:+ roundsOf w.journal
  newest : ∃ newest older, roundsOf w.journal = newest :: older ∧ newest.outcome ≠ none ∧
    around.Served newest

instance : Heedless (Keeps (World.Renewed around since)) where
  ofCalm calm renewed := by
    have same : roundsOf _ = roundsOf _ := congrArg History.rounds calm.viewed
    exact ⟨calm.consistent renewed.consistent, same ▸ renewed.since, same ▸ renewed.newest⟩
  ofNotice := by
    intro entry w notice renewed
    have consistent := (Quiet.notice notice).consistent renewed.consistent
    obtain rfl | ⟨name, rfl⟩ | ⟨place, rfl⟩ | rfl := Entry.isNotice_cases notice
    all_goals exact ⟨consistent, renewed.since, renewed.newest⟩

/-- The snapshot in place is equal in both directions to what the newest completed pass put
together over answers that the surroundings gave, and this came after some other passes. -/
structure World.CaughtUp (around : Surroundings τ) (since : List Round) (w : World τ) : Prop where
  since : since <:+ roundsOf w.journal
  current : ∃ newest older merged, roundsOf w.journal = newest :: older ∧ newest.Complete ∧
    around.Served newest ∧ newest.answers.merged = .ok merged ∧
      w.tracker.snapshot.equals merged = .ok true ∧ merged.equals w.tracker.snapshot = .ok true

namespace World.Renewed

/-- In healthy surroundings a renewed world holds a well-typed snapshot, which blocks nothing. -/
theorem wellTyped (renewed : w.Renewed around since) (healthy : around.Healthy) :
    w.tracker.snapshot.WellTyped := by
  obtain ⟨newest, older, rounds, ended, served⟩ := renewed.newest
  have yields := renewed.consistent.yields
  rw [rounds] at yields
  obtain ⟨_, _, _, typed, _⟩ := yields.agrees_of_ended (healthy.wellTyped served.gave) ended
  exact typed

/-- In healthy surroundings a renewed world has caught up with them. -/
theorem caughtUp (renewed : w.Renewed around since) (healthy : around.Healthy) :
    w.CaughtUp around since := by
  obtain ⟨newest, older, rounds, ended, served⟩ := renewed.newest
  have yields := renewed.consistent.yields
  rw [rounds] at yields
  obtain ⟨merged, answered, typedMerged, typed, agrees⟩ :=
    yields.agrees_of_ended (healthy.wellTyped served.gave) ended
  exact ⟨renewed.since, newest, older, merged, rounds, yields.complete, served, answered,
    typed.equals_eq_ok_true_iff.mpr ⟨typedMerged, agrees.symm⟩,
    typedMerged.equals_eq_ok_true_iff.mpr ⟨typed, agrees⟩⟩

/-- In healthy surroundings a renewed world stays so, whatever further rebuild comes. -/
theorem rebuild (here : ctx.around = around) (healthy : around.Healthy) (calm : ctx.IsCalm)
    (given : Option Signal) : (rebuild ctx given).Moves (Keeps (Renewed around since)) := by
  subst here
  intro w
  cases lock : w.tracker.rebuilding with
  | true => exact Tolerant.ofCalm (rebuild_locked_calm ctx given w lock)
  | false =>
    intro renewed
    have rebuilt := rebuild_spec calm given lock
    have consistent := rebuilt.consistent renewed.consistent
    revert rebuilt consistent
    generalize Tracker.rebuild ctx given w = ends
    obtain ⟨result, after⟩ := ends
    intro rebuilt consistent
    cases result with
    | ok outcome =>
      obtain ⟨round, later, ended, _, served⟩ := rebuilt.rounds_of_ok
      have grown : roundsOf w.journal <:+ roundsOf after.journal := later ▸ List.suffix_cons ..
      exact ⟨consistent, renewed.since.trans grown, round, _, later, by simp [ended], served⟩
    | error fault =>
      cases rebuilt with
      | failed held hindered =>
        have same : roundsOf _ = roundsOf w.begun.journal := held.viewed
        exact ⟨consistent, same.symm ▸ renewed.since, same.symm ▸ renewed.newest⟩
      | undecided pass fails =>
        have typed := healthy.wellTyped_collected pass
        exact absurd fails (typed.equals_ne_error (renewed.wellTyped healthy) _)

end World.Renewed

/-! ## One rebuild in healthy surroundings -/

/-- A pass was completed over answers that the surroundings gave and put a snapshot together. -/
structure Surroundings.Answered (around : Surroundings τ) (pass : Round) (collected : Snapshot) :
    Prop where
  complete : pass.Complete
  served : around.Served pass
  merged : pass.answers.merged = .ok collected

/-- A rebuild in healthy surroundings that saw no stop has completed its pass. If the snapshot in
place blocked the comparison with what the pass put together, the rebuild fails and the snapshot
stays, and else it ends with an outcome. -/
theorem Rebuilt.of_healthy {result : Except Fault Outcome}
    (rebuilt : Rebuilt ctx stop w result after) (healthy : ctx.around.Healthy)
    (unset : after.isSet stop = false) :
    ∃ pass collected, ctx.around.Answered pass collected ∧
      roundsOf after.journal = pass :: roundsOf w.journal ∧
      ((∃ fault, result = .error fault ∧ pass.outcome = none ∧
          after.tracker.snapshot = w.tracker.snapshot ∧ w.tracker.snapshot.Blocks collected) ∨
        ∃ outcome, result = .ok outcome ∧ outcome ≠ .skipped ∧ pass.outcome = some outcome ∧
          ¬ w.tracker.snapshot.Blocks collected) := by
  cases rebuilt with
  | @failed fault mid held hindered =>
    have set : mid.isSet stop = true := healthy.stopped_of_hindered hindered
    cases set.symm.trans unset
  | @undecided collected mid kind pass fails =>
    have rounds : roundsOf mid.journal = roundsOf w.begun.journal := pass.held.viewed
    have blocks := ((healthy.wellTyped_collected pass).equals_eq_error_iff.mp fails).2
    exact ⟨mid.history.current, collected, ⟨pass.complete, pass.served, pass.merged⟩,
      congrArg (List.cons _) rounds,
      .inl ⟨.misuse kind, rfl, pass.pending, pass.held.snapshot, blocks⟩⟩
  | @unchanged collected mid pass equal =>
    have rounds : roundsOf mid.journal = roundsOf w.begun.journal := pass.held.viewed
    refine ⟨{ mid.history.current with outcome := some .unchanged }, collected,
      ⟨pass.complete, pass.served.ended _, pass.merged⟩, congrArg (List.cons _) rounds,
      .inr ⟨.unchanged, rfl, nofun, rfl, fun blocks => ?_⟩⟩
    have fails := (healthy.wellTyped_collected pass).equals_eq_error_iff.mpr ⟨rfl, blocks⟩
    cases equal.symm.trans fails
  | @changed collected mid pass different =>
    have rounds : roundsOf mid.journal = roundsOf w.begun.journal := pass.held.viewed
    refine ⟨{ mid.history.current with outcome := some .changed }, collected,
      ⟨pass.complete, pass.served.ended _, pass.merged⟩, congrArg (List.cons _) rounds,
      .inr ⟨.changed, rfl, nofun, rfl, fun blocks => ?_⟩⟩
    have fails := (healthy.wellTyped_collected pass).equals_eq_error_iff.mpr ⟨rfl, blocks⟩
    cases different.symm.trans fails

/-! ## What comes after the rebuild -/

/-- Listing in the course of a full rescan returns, whether it succeeded or not. -/
theorem refreshOrReport_returns (ctx : Context τ) (w : World τ) :
    (refreshOrReport ctx w).1 = .ok () := by
  rw [refreshOrReport, Op.bind_apply, Op.attempt_apply]
  cases (refreshKnown ctx w).1 with
  | ok _ => rfl
  | error fault => rfl

theorem rescanReport_returns (outcome : Option Outcome) (w : World τ) :
    (rescanReport outcome w).1 = .ok () := by
  unfold rescanReport
  split <;> rfl

/-- A full rescan ends as the collection after its listing, and then but reports. -/
theorem fullRescan_spec (ctx : Context τ) (given : Option Signal) (w : World τ) :
    let collection :=
      collectAndNotify ctx (some ((w.refreshed ctx).tracker.stopOr given)) (w.refreshed ctx)
    (fullRescan ctx given w).1 = collection.1 ∧ Calm collection.2 (fullRescan ctx given w).2 := by
  intro collection
  have announced : Op.log .info "Performing full rescan to account for missed events" w =
      (.ok (), w.announced) := rfl
  have refreshed : refreshOrReport ctx w.announced = (.ok (), w.refreshed ctx) :=
    Prod.ext (refreshOrReport_returns ctx _) rfl
  rw [fullRescan, Op.bind_of_ok announced, Op.bind_of_ok refreshed,
    Op.bind_of_ok (stopOr_apply given _), Op.bind_apply]
  change _ = collection.1 ∧ Calm collection.2 _
  cases ends : collection with
  | mk result mid =>
    cases result with
    | error fault =>
      simp only [collection] at ends
      rw [ends]
      exact ⟨rfl, .refl mid⟩
    | ok outcome =>
      have reported : rescanReport outcome mid = (.ok (), (rescanReport outcome mid).2) :=
        Prod.ext (rescanReport_returns outcome mid) rfl
      simp only [collection] at ends
      rw [ends]
      dsimp only
      rw [Op.bind_of_ok reported]
      exact ⟨rfl, rescanReport_calm outcome mid⟩

/-! ## Recovery -/

/-- How a collection in healthy surroundings that saw no stop ended, with the pass it completed. -/
inductive Recollected (around : Surroundings τ) (w after : World τ) (pass : Round)
    (collected : Snapshot) : Prop where
  | blocked (blocks : w.tracker.snapshot.Blocks collected) (pending : pass.outcome = none)
      (kept : after.tracker.snapshot = w.tracker.snapshot)
      (rounds : roundsOf after.journal = pass :: roundsOf w.journal)
  | renewed (free : ¬ w.tracker.snapshot.Blocks collected)
      (ended : pass.outcome = some .changed ∨ pass.outcome = some .unchanged)
      (renewed : after.Renewed around (pass :: roundsOf w.journal))

/-- A collection in healthy surroundings completes a pass unless it sees a stop. -/
theorem collectAndNotify_of_healthy (lawful : ctx.Lawful Quiet)
    (renewing : ∀ since, ctx.Lawful (Keeps (World.Renewed ctx.around since)))
    (healthy : ctx.around.Healthy) (given : Option Signal) (consistent : w.Consistent)
    (free : w.tracker.rebuilding = false)
    (unset : (collectAndNotify ctx given w).2.isSet (w.tracker.stopOr given) = false) :
    ∃ pass collected, ctx.around.Answered pass collected ∧
      (collectAndNotify ctx given w).1 = .ok pass.outcome ∧
        Recollected ctx.around w (collectAndNotify ctx given w).2 pass collected := by
  have rebuilt := rebuild_spec lawful.calm given free
  have consistentAfter := rebuilt.consistent consistent
  have quiet := ctx.afterRebuild lawful.acts given w
  have renews := fun since => ctx.afterRebuild (renewing since).acts given w
  obtain ⟨pass, collected, answered, rounds, ends⟩ :=
    rebuilt.of_healthy healthy (quiet.unset unset)
  refine ⟨pass, collected, answered, ?_⟩
  rcases ends with ⟨fault, failed, pending, kept, blocks⟩ | ⟨outcome, ended, acted, said, unblocked⟩
  · obtain ⟨later, calm, collects⟩ := collectAndNotify_of_error (Prod.ext failed rfl)
    rw [collects, pending]
    have same : roundsOf later.journal = _ := congrArg History.rounds calm.viewed
    exact ⟨rfl, .blocked blocks pending (calm.snapshot.trans kept) (same.trans rounds)⟩
  · rw [collectAndNotify_of_ok (Prod.ext ended rfl), said]
    have renewed : (rebuild ctx given w).2.Renewed ctx.around (pass :: roundsOf w.journal) :=
      ⟨consistentAfter, rounds ▸ List.suffix_refl _, pass, _, rounds, by simp [said],
        answered.served⟩
    refine ⟨rfl, .renewed unblocked ?_ (renews _ renewed)⟩
    cases outcome with
    | changed => exact .inl said
    | unchanged => exact .inr said
    | skipped => exact absurd rfl acted

/-- A full rescan ended with an outcome and its world has caught up with the surroundings. -/
structure Recovered (around : Surroundings τ) (since : List Round)
    (result : Except Fault (Option Outcome)) (after : World τ) : Prop where
  ended : result = .ok (some .changed) ∨ result = .ok (some .unchanged)
  caughtUp : after.CaughtUp around since

namespace Recollected

variable {pass : Round} {collected : Snapshot} {result : Except Fault (Option Outcome)}

/-- Nothing about how a collection ended changes with what is calm. -/
theorem later (recollected : Recollected around w mid pass collected) (calm : Calm mid after) :
    Recollected around w after pass collected := by
  cases recollected with
  | blocked blocks pending kept rounds =>
    have same : roundsOf after.journal = roundsOf mid.journal := congrArg History.rounds calm.viewed
    exact .blocked blocks pending (calm.snapshot.trans kept) (same.trans rounds)
  | renewed unblocked ended renewed =>
    have still : Keeps (World.Renewed around (pass :: roundsOf w.journal)) mid after :=
      Tolerant.ofCalm calm
    exact .renewed unblocked ended (still renewed)

/-- The pass that was completed is on record. -/
theorem recorded (recollected : Recollected around w after pass collected) :
    pass :: roundsOf w.journal <:+ roundsOf after.journal := by
  cases recollected with
  | blocked blocks pending kept rounds => exact rounds ▸ List.suffix_refl _
  | renewed unblocked ended renewed => exact renewed.since

/-- A collection that was blocked gave no outcome and left the snapshot in place. -/
theorem kept_of_blocks (recollected : Recollected around w after pass collected)
    (blocks : w.tracker.snapshot.Blocks collected) :
    pass.outcome = none ∧ after.tracker.snapshot = w.tracker.snapshot := by
  cases recollected with
  | blocked _ pending kept => exact ⟨pending, kept⟩
  | renewed unblocked => exact absurd blocks unblocked

/-- What was collected made up for everything missed exactly if it was not blocked. -/
theorem recovered_iff (recollected : Recollected around w after pass collected)
    (healthy : around.Healthy) (ends : result = .ok pass.outcome) :
    Recovered around (pass :: roundsOf w.journal) result after ↔
      ¬ w.tracker.snapshot.Blocks collected := by
  constructor
  · intro recovered blocks
    obtain ⟨pending, _⟩ := recollected.kept_of_blocks blocks
    rw [pending] at ends
    rcases recovered.ended with changed | unchanged
    · cases changed.symm.trans ends
    · cases unchanged.symm.trans ends
  · intro unblocked
    cases recollected with
    | blocked blocks => exact absurd blocks unblocked
    | renewed _ ended renewed =>
      refine ⟨?_, renewed.caughtUp healthy⟩
      rw [ends]
      rcases ended with changed | unchanged
      · exact .inl (congrArg Except.ok changed)
      · exact .inr (congrArg Except.ok unchanged)

end Recollected

variable [Scalar τ]

/-- At every depth of nesting a renewed world stays so in healthy surroundings. -/
theorem Context.nested_renewing (healthy : around.Healthy) (given : Option Signal) (depth : Nat)
    (since : List Round) :
    (nested around given depth).Lawful (Keeps (World.Renewed around since)) :=
  nested_lawful_of_rebuild around given
    (fun depth => World.Renewed.rebuild (nested_around around given depth) healthy
      (nested_locked_calm around given depth)) depth

/-- In every world that a run comes to, whatever was answered before, a full rescan in healthy
surroundings that sees no stop comes to know the definitions listed, completes a pass and says
what its rebuild came to. It recovers exactly if the snapshot in place once the definitions were
listed, which is the one before unless the surroundings call back while they list them, does not
block the comparison with what the pass put together; if it does, the rescan gives no outcome and
the snapshot stays. The limiter has no say in this. -/
theorem Reachable.full_rescan_recovers_iff {settings : Settings τ}
    (reachable : Reachable settings w) (healthy : around.Healthy) (outer given : Option Signal)
    (depth : Nat)
    (unset : (fullRescan (Context.nested around outer depth) given w).2.isSet
      (w.tracker.stopOr given) = false) :
    let ctx := Context.nested around outer depth
    let listed := w.refreshed ctx
    let result := (fullRescan ctx given w).1
    let after := (fullRescan ctx given w).2
    after.Listed around w.journal ∧
    ((∀ journal, (around.crds journal).actions = []) →
      listed.tracker.snapshot = w.tracker.snapshot) ∧
    ∃ pass collected, around.Answered pass collected ∧
      pass :: roundsOf listed.journal <:+ roundsOf after.journal ∧ result = .ok pass.outcome ∧
      (Recovered around (pass :: roundsOf listed.journal) result after ↔
        ¬ listed.tracker.snapshot.Blocks collected) ∧
      (listed.tracker.snapshot.Blocks collected →
        result = .ok none ∧ after.tracker.snapshot = listed.tracker.snapshot) := by
  intro ctx listed result after
  have here : ctx.around = around := Context.nested_around around outer depth
  have lawful : ctx.Lawful Quiet := Context.nested_lawful around outer depth
  have renewing : ∀ since, ctx.Lawful (Keeps (World.Renewed ctx.around since)) :=
    here.symm ▸ Context.nested_renewing healthy outer depth
  have healthyHere : ctx.around.Healthy := here.symm ▸ healthy
  obtain ⟨consistent, free⟩ := reachable.consistent
  obtain ⟨listedAll, advances, ownStop, idle⟩ := World.refreshed_spec lawful healthyHere w
  have sameStop : listed.tracker.stopOr given = w.tracker.stopOr given :=
    congrArg given.getD ownStop
  obtain ⟨sameResult, report⟩ := fullRescan_spec ctx given w
  obtain ⟨pass, collected, answered, outcome, recollected⟩ :=
    collectAndNotify_of_healthy lawful renewing healthyHere (some (listed.tracker.stopOr given))
      (advances.consistent consistent) (advances.lock.trans free)
      (report.quiet.unset (sameStop.symm ▸ unset))
  have quiet : Quiet listed after := (lawful.collects _ listed).trans report.quiet
  have ends : result = .ok pass.outcome := sameResult.trans outcome
  rw [here] at answered recollected idle
  have reported : Recollected around listed after pass collected := recollected.later report
  refine ⟨here ▸ listedAll.later quiet, idle, pass, collected, answered, reported.recorded, ends,
    reported.recovered_iff healthy ends, fun blocks => ?_⟩
  obtain ⟨pending, kept⟩ := reported.kept_of_blocks blocks
  exact ⟨pending ▸ ends, kept⟩

/-- After a rebuild that was refused, a full rescan finds the one resource there is, and comes to
know the one definition. -/
theorem full_rescan_recovers_after_refusal :
    let core : GroupVersion := ⟨"", "v1"⟩
    let listing : Listing := some [.ofTexts "pods" true "Pod" ["get", "list"]]
    let definition : Value := .record [("metadata", .record [("uid", .text "first")])]
    let refused : Request Rat :=
      { around := .steady (.error (.refused (.int 503) .null)) (fun _ => .ok listing) (.ok [])
        given := none, depth := 1, operation := .rebuild }
    let around : Surroundings Rat := .steady (.ok [core]) (fun _ => .ok listing) (.ok [definition])
    let w := (World.fresh .exact 0).after [refused]
    let ctx := Context.nested around none 1
    let after := (fullRescan ctx none w).2
    Reachable .exact w ∧ around.Healthy ∧ after.isSet (w.tracker.stopOr none) = false ∧
      after.Listed around w.journal ∧
        ∃ since, Recovered around since (fullRescan ctx none w).1 after := by
  intro core listing definition refused around w ctx after
  have reachable : Reachable .exact w := .performed (.fresh (by decide) (by decide) 0) refused
  have healthy : around.Healthy := by
    refine ⟨fun _ => ⟨_, rfl⟩, fun _ _ => ⟨listing, rfl, fun found inListing => ?_⟩,
      fun _ => ⟨[definition], rfl, fun item listed kind misused => ?_⟩⟩
    · cases List.mem_singleton.mp inListing
      exact Discovered.wellTyped_ofTexts ..
    · cases List.mem_singleton.mp listed
      cases misused
  have unset : after.isSet (w.tracker.stopOr none) = false := rfl
  obtain ⟨listed, stays, pass, collected, _, _, _, recovers, _⟩ :=
    Reachable.full_rescan_recovers_iff reachable healthy none none 1 unset
  have placed : (w.refreshed ctx).tracker.snapshot = Snapshot.empty := stays fun _ => rfl
  refine ⟨reachable, healthy, unset, listed, _, recovers.mpr ?_⟩
  rw [placed]
  exact Snapshot.wellTyped_empty.not_blocks

/-- After a listing whose one resource has a list for its kind, a full rescan in healthy
surroundings, with the lock free and no stop set, gives no outcome and the snapshot in place
cannot be compared with what was discovered. -/
theorem full_rescan_blocked :
    let core : GroupVersion := ⟨"", "v1"⟩
    let listing (kind : Value) : Listing :=
      some [{ name := .text "pods", namespaced := .bool true, kind, verbs := .list [.text "get"] }]
    let around (kind : Value) : Surroundings Rat :=
      .steady (.ok [core]) (fun _ => .ok (listing kind)) (.ok [])
    let odd : Request Rat :=
      { around := around (.list [.text "Pod"]), given := none, depth := 1, operation := .rebuild }
    let w := (World.fresh .exact 0).after [odd]
    let ctx := Context.nested (around (.text "Pod")) none 1
    let after := (fullRescan ctx none w).2
    Reachable .exact w ∧ (around (.text "Pod")).Healthy ∧ w.tracker.rebuilding = false ∧
      after.isSet (w.tracker.stopOr none) = false ∧ (fullRescan ctx none w).1 = .ok none ∧
        ∃ collected, Answers.merged [(core, listing (.text "Pod"))] = .ok collected ∧
          collected.equals after.tracker.snapshot = .error .wrongType := by
  intro core listing around odd w ctx after
  have healthy : (around (.text "Pod")).Healthy := by
    refine ⟨fun _ => ⟨_, rfl⟩, fun _ _ => ⟨listing (.text "Pod"), rfl, fun found inListing => ?_⟩,
      fun _ => ⟨[], rfl, nofun⟩⟩
    cases List.mem_singleton.mp inListing
    exact ⟨⟨_, rfl⟩, .inr ⟨_, rfl⟩, .inr ⟨["get"], rfl⟩⟩
  exact ⟨.performed (.fresh (by decide) (by decide) 0) odd, healthy, rfl, rfl, rfl, _, rfl, rfl⟩

end ApiSurface.Tracker
