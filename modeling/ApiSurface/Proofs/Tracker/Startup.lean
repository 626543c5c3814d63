import ApiSurface.Health
import ApiSurface.Proofs.Tracker.Atomicity
import ApiSurface.Proofs.Tracker.Known
import ApiSurface.Proofs.Tracker.PassOrder
import ApiSurface.Proofs.Tracker.StepwiseRuns

/-!
# Startup is all or nothing

A start has two phases that may fail. If the listing of the definitions or its processing
does, nothing comes after it; if the first rebuild does, its failure is that of the start.
Either way the tracker is as unready as it was, no loop was started and no stream opened.
Else the tracker is ready and its loops are started, once each (`start_all_or_nothing`).

A ready tracker stays ready, and readiness is what both the snapshot's readers and the
readiness probe go by.
-/

namespace ApiSurface

/-! ## The readiness probe -/

/-- The path of the readiness probe, with a query string or without. -/
def Health.readyz : Option Text → Text
  | none => "/readyz"
  | some query => Text.ofString "/readyz" ++ CodePoint.char '?' :: query

/-- A query string makes no difference to the probe. -/
theorem Health.routeOf_readyz (query : Option Text) : routeOf (readyz query) = .readiness := by
  have path : (readyz query).takeWhile (· != .char '?') = Text.ofString "/readyz" := by
    cases query with
    | none => rfl
    | some query =>
      have noMark : ∀ point ∈ Text.ofString "/readyz", (point != .char '?') = true := by decide
      rw [readyz, List.takeWhile_append_of_pos noMark]
      rfl
  rw [routeOf, path]
  rfl

/-- The probe is answered with 200 where the tracker is ready and with 503 where it is not. -/
theorem Health.code_readyz (ready : Bool) (query : Option Text) :
    (answer ready (readyz query)).status.code = if ready then 200 else 503 := by
  rw [answer, routeOf_readyz]
  cases ready <;> rfl

namespace Tracker

variable {τ : Type}

/-! ## What is launched and what is discovered -/

/-- The start of a loop or the opening of a stream. -/
def Entry.isLaunch : Entry τ → Bool
  | startedLoop _ => true
  | openedStream _ => true
  | _ => false

/-- The number of loops started and streams opened. -/
def launchesIn (journal : Journal τ) : Nat := journal.countP Entry.isLaunch

/-- A call for discovery: for the group-versions, or for the resources of one. -/
def Entry.isDiscovery : Entry τ → Bool
  | listedGroups => true
  | requestedResources _ => true
  | _ => false

/-- The number of calls for discovery. -/
def discoveriesIn (journal : Journal τ) : Nat := journal.countP Entry.isDiscovery

/-- Nothing was launched between these worlds, and the tracker is as ready as it was. -/
structure Unlaunched (w w' : World τ) : Prop where
  launches : launchesIn w'.journal = launchesIn w.journal
  loops : w'.tracker.loops ⊆ w.tracker.loops
  ready : w'.tracker.ready = w.tracker.ready

instance : IsPreorder (World τ) Unlaunched where
  refl _ := ⟨rfl, List.Subset.refl _, rfl⟩
  trans _ _ _ first second :=
    ⟨second.launches.trans first.launches, List.Subset.trans second.loops first.loops,
      second.ready.trans first.ready⟩

/-- The snapshot stayed and nothing was asked for discovery between these worlds. -/
structure Undisturbed (w w' : World τ) : Prop where
  snapshot : w'.tracker.snapshot = w.tracker.snapshot
  discoveries : discoveriesIn w'.journal = discoveriesIn w.journal

instance : IsPreorder (World τ) Undisturbed where
  refl _ := ⟨rfl, rfl⟩
  trans _ _ _ first second :=
    ⟨second.snapshot.trans first.snapshot, second.discoveries.trans first.discoveries⟩

/-- Nothing was asked for discovery between these worlds, and of the tracker only who wants to be told
and which loops run may have changed. -/
structure Untouched (w w' : World τ) : Prop where
  tracker : w'.tracker =
    { w.tracker with subscribers := w'.tracker.subscribers, loops := w'.tracker.loops }
  discoveries : discoveriesIn w'.journal = discoveriesIn w.journal

instance : IsPreorder (World τ) Untouched where
  refl _ := ⟨rfl, rfl⟩
  trans _ _ _ first second :=
    ⟨by rw [second.tracker, first.tracker], second.discoveries.trans first.discoveries⟩

theorem Untouched.undisturbed {w w' : World τ} (untouched : Untouched w w') : Undisturbed w w' :=
  ⟨by rw [untouched.tracker], untouched.discoveries⟩

/-- Nothing was done between these worlds but to write log entries. -/
def Reported (w w' : World τ) : Prop := ∃ logs : List LogEntry, w' = w.wrote (logs.map .logged)

instance : IsPreorder (World τ) Reported where
  refl _ := ⟨[], rfl⟩
  trans := by
    rintro w w' w'' ⟨logs, rfl⟩ ⟨more, rfl⟩
    exact ⟨more ++ logs, by simp [World.wrote]⟩

theorem Reported.untouched {w w' : World τ} (reported : Reported w w') : Untouched w w' := by
  obtain ⟨logs, rfl⟩ := reported
  refine ⟨rfl, ?_⟩
  have none : (logs.map (Entry.logged (τ := τ))).countP Entry.isDiscovery = 0 := by
    rw [List.countP_eq_zero]
    intro entry member
    obtain ⟨log, -, rfl⟩ := List.mem_map.mp member
    exact Bool.false_ne_true
  rw [discoveriesIn, World.wrote, List.countP_append, none, Nat.zero_add]
  rfl

section Steps

variable [Scalar τ] {heeded : Option Signal} {kind : Kind} {w w' : World τ}

/-- Neither a call back nor a listing launches anything. -/
theorem Step.unlaunched (step : Step heeded kind w w') (among : kind = .call ∨ kind = .learn) :
    Unlaunched w w' := by
  have noted : ∀ {entry : Entry τ} {journal : Journal τ}, entry.isLaunch = false →
      launchesIn (entry :: journal) = launchesIn journal := fun unlaunched =>
    List.countP_cons_of_neg (by simp [unlaunched])
  have asked : Unlaunched w w.asked := by
    refine ⟨noted rfl, ?_, ?_⟩
    · rw [w.asked_tracker]
      exact List.Subset.refl _
    · rw [w.asked_tracker]
  cases step with
  | @remarked _ entry remark =>
    refine ⟨noted ?_, List.Subset.refl _, rfl⟩
    unfold Entry.isLaunch
    split
    · cases remark
    · cases remark
    · rfl
  | unlooped => exact ⟨rfl, List.nil_subset _, rfl⟩
  | attempted | dropped => exact ⟨(noted rfl).trans asked.launches, asked.loops, asked.ready⟩
  | attemptedInVain =>
    exact ⟨(noted rfl).trans ((noted rfl).trans asked.launches), asked.loops, asked.ready⟩
  | skipped | confirmed | relisted =>
    exact ⟨(noted rfl).trans (noted rfl), List.Subset.refl _, rfl⟩
  | replaced =>
    exact ⟨(noted rfl).trans ((noted rfl).trans (noted rfl)), List.Subset.refl _, rfl⟩
  | read | joined | signalled | began | requested | decoded | applied =>
    exact ⟨noted rfl, List.Subset.refl _, rfl⟩
  | elapsed | released | gauged => exact ⟨rfl, List.Subset.refl _, rfl⟩
  | waited | watching | streamCounted | opened | registered | adopted | signalTaken | becameReady
  | looped | startedLoop => simp at among

/-- No step revokes readiness. -/
theorem Step.ready_kept (step : Step heeded kind w w') (ready : w.tracker.ready = true) :
    w'.tracker.ready = true := by
  cases step with
  | attempted | attemptedInVain | dropped =>
    change w.asked.tracker.ready = true
    rw [w.asked_tracker]
    exact ready
  | becameReady => rfl
  | _ => exact ready

end Steps

/-! ## Listing the definitions -/

section Listing

variable {ctx : Context τ} {w after : World τ}

/-- Processing what was listed does nothing but write log entries. -/
theorem collectUids_reported (items : List Value) :
    (collectUids items : Op τ (List Text)).Moves Reported := by
  induction items with
  | nil => exact .pure []
  | cons item rest ih =>
    rw [collectUids]
    split
    · exact .bind ih fun _ => .pure _
    · exact .bind (fun _ => ⟨[_], rfl⟩) fun _ => ih
    · exact .raise _

/-- In which way a listed object cannot be read, if it cannot. -/
def misuseOf? (item : Value) : Option Misuse :=
  match Crd.Info.ofValue item with
  | .error (.misuse kind) => some kind
  | _ => none

/-- Processing fails exactly as the first object does that cannot be read. -/
theorem collectUids_fails_iff (items : List Value) (fault : Fault) (w : World τ) :
    (collectUids items w).1 = .error fault ↔
      ∃ kind, items.findSome? misuseOf? = some kind ∧ fault = .misuse kind := by
  induction items generalizing w with
  | nil => simp [collectUids, Op.pure_apply]
  | cons item rest ih =>
    rw [collectUids, List.findSome?_cons, misuseOf?]
    cases info : Crd.Info.ofValue item with
    | ok read =>
      dsimp only
      rw [← ih w, Op.bind_apply]
      cases collectUids rest w with
      | mk result after => cases result <;> simp [Op.pure_apply]
    | error unread =>
      cases unread with
      | withoutUid => exact ih _
      | misuse kind => simp [Op.raise, eq_comm]

/-- Listing the definitions fails if it is refused or if what was listed cannot be processed. -/
theorem refreshKnown_fails_iff {cause : Fault} :
    (refreshKnown ctx w).1 = .error cause ↔
      (ctx.around.crds (.listedCrds :: w.journal)).outcome = .error cause ∨
        ∃ items kind, (ctx.around.crds (.listedCrds :: w.journal)).outcome = .ok items ∧
          items.findSome? misuseOf? = some kind ∧ cause = .misuse kind := by
  have asked : ctx.ask .listedCrds ctx.around.crds w =
      ((ctx.around.crds (.listedCrds :: w.journal)).outcome,
        (ctx.ask .listedCrds ctx.around.crds w).2) := by
    rw [Context.ask_apply]
  rw [refreshKnown]
  cases answer : (ctx.around.crds (.listedCrds :: w.journal)).outcome with
  | error fault =>
    rw [answer] at asked
    simp [Op.bind_of_error asked]
  | ok items =>
    rw [answer] at asked
    have processing := collectUids_fails_iff items cause (ctx.ask .listedCrds ctx.around.crds w).2
    rw [Op.bind_of_ok asked, Op.bind_apply]
    cases collected : collectUids items (ctx.ask .listedCrds ctx.around.crds w).2 with
    | mk result mid =>
      rw [collected] at processing
      cases result with
      | error fault => simpa using processing
      | ok uids => simpa [replaceKnown_apply] using processing

/-- Once the surroundings have answered, listing the definitions writes log entries, and then fails
or makes what was listed known. -/
theorem refreshKnown_ends (ctx : Context τ) (w : World τ) :
    ∃ mid, Reported (ctx.ask .listedCrds ctx.around.crds w).2 mid ∧
      ((∃ cause, refreshKnown ctx w = (.error cause, mid)) ∨
        ∃ items, (ctx.around.crds (.listedCrds :: w.journal)).outcome = .ok items ∧
          refreshKnown ctx w = (.ok (), mid.relisted (items.filterMap uidOf?))) := by
  have answered : (ctx.ask .listedCrds ctx.around.crds w).1 =
      (ctx.around.crds (.listedCrds :: w.journal)).outcome := by
    rw [Context.ask_apply]
  rw [refreshKnown]
  cases asked : ctx.ask .listedCrds ctx.around.crds w with
  | mk answer heard =>
    rw [asked] at answered
    cases answer with
    | error fault =>
      rw [Op.bind_of_error asked]
      exact ⟨heard, refl_of _ _, .inl ⟨fault, rfl⟩⟩
    | ok items =>
      have processed := collectUids_reported items heard
      rw [Op.bind_of_ok asked]
      cases collected : collectUids items heard with
      | mk result mid =>
        rw [collected] at processed
        refine ⟨mid, processed, ?_⟩
        cases result with
        | error fault =>
          rw [Op.bind_of_error collected]
          exact .inl ⟨fault, rfl⟩
        | ok uids =>
          rw [Op.bind_of_ok collected, replaceKnown_apply,
            collectUids_of_ok (congrArg Prod.fst collected)]
          exact .inr ⟨items, answered.symm, rfl⟩

variable [Scalar τ]

omit [Scalar τ] in
theorem Untouched.noted {entry : Entry τ} (silent : entry.isDiscovery = false) (w : World τ) :
    Untouched w { w with journal := entry :: w.journal } :=
  ⟨rfl, List.countP_cons_of_neg (by simp [silent])⟩

omit [Scalar τ] in
theorem record_untouched {entry : Entry τ} (silent : entry.isDiscovery = false) :
    (Op.record entry).Moves Untouched := Untouched.noted silent

omit [Scalar τ] in
theorem join_untouched (timeout : Seconds τ) (text : String) (loop : Loop) :
    (join ctx timeout text loop).Moves Untouched := by
  refine .bind (record_untouched rfl) fun _ => ?_
  split
  · exact record_untouched rfl
  · exact .pure ()

omit [Scalar τ] in
theorem interruptWatch_untouched : (interruptWatch : Op τ Unit).Moves Untouched := by
  refine .bind .tracker fun tracker => ?_
  split
  · exact record_untouched rfl
  · exact .pure ()

theorem stop_untouched (timeout : Seconds τ) : (stop ctx timeout).Moves Untouched := by
  refine .bind (fun w => ⟨rfl, rfl⟩) fun _ => .bind interruptWatch_untouched fun _ => ?_
  refine .bind .tracker fun _ => .bind (.each fun loop _ => join_untouched _ _ loop) fun _ => ?_
  exact fun w => ⟨rfl, rfl⟩

/-- Of all that is asked of the tracker, only rebuilds ask for discovery. -/
theorem effectOf_untouched {action : Action τ} (idle : action.asksRebuild = false) :
    (effectOf ctx action).Moves Untouched := by
  cases action with
  | raiseStop => exact .bind (.stopOr _) fun _ => .bind (fun w => ⟨rfl, rfl⟩) fun _ => .pure _
  | elapse time => exact .bind (fun w => ⟨rfl, rfl⟩) fun _ => .pure _
  | subscribe name => exact .bind (fun w => ⟨rfl, rfl⟩) fun _ => .pure _
  | readSnapshot =>
    refine .bind (.bind .tracker fun tracker => ?_) fun _ => .pure _
    split
    · exact .pure _
    · exact .raise _
  | stopTracker => exact .bind (stop_untouched _) fun _ => .pure _
  | rebuild | trigger => cases idle

/-- A call back that asks for no rebuild touches nothing. -/
theorem perform_untouched {action : Action τ} (idle : action.asksRebuild = false) (w : World τ) :
    Untouched w (perform ctx action w) := by
  have effect : Untouched w (effectOf ctx action w).2 := effectOf_untouched idle w
  cases call : action.isCall with
  | true =>
    rw [perform_call ctx call]
    exact trans_of _ effect (.noted rfl _)
  | false =>
    rw [perform_silent ctx call]
    exact effect

variable (around : Surroundings τ) (outer : Option Signal) (depth : Nat)

theorem Context.nested_untouched {action : Action τ} (idle : action.asksRebuild = false)
    (w : World τ) : Untouched w ((Context.nested around outer depth).act action w) := by
  cases depth with
  | zero => exact ⟨rfl, rfl⟩
  | succ depth => exact perform_untouched idle w

/-- Asking for the definitions touches nothing if the surroundings ask for no rebuild meanwhile. -/
theorem ask_crds_untouched
    (idle : ∀ action ∈ (around.crds (.listedCrds :: w.journal)).actions,
      action.asksRebuild = false) :
    Untouched w ((Context.nested around outer depth).ask .listedCrds around.crds w).2 := by
  have asked : Untouched w { w with journal := .listedCrds :: w.journal } := ⟨rfl, rfl⟩
  rw [Context.ask_apply]
  refine trans_of _ asked (Context.acted_along (R := Untouched) (fun action member => ?_) _)
  exact Context.nested_untouched around outer depth (idle action member)

end Listing

/-! ## The first rebuild -/

section Rebuild

variable {ctx : Context τ} {stop : Signal} {given : Option Signal} {w after : World τ}

/-- A rebuild that nobody is told of fails exactly as the rebuild does. -/
theorem rebuildDirectly_of_error {fault : Fault}
    (failed : rebuildDirectly ctx given w = (.error fault, after)) :
    rebuild ctx given w = (.error fault, after) := by
  cases ends : rebuild ctx given w with
  | mk result mid =>
    cases result with
    | error other =>
      rw [rebuildDirectly, Op.bind_of_error ends] at failed
      cases failed
      rfl
    | ok outcome =>
      obtain ⟨_, directly, _⟩ := rebuildDirectly_of_ok ends
      rw [directly] at failed
      cases failed

/-- A rebuild that nobody is told of leaves the snapshot as it was if it fails. -/
theorem rebuildDirectly_failed (calm : ctx.IsCalm) (free : w.tracker.rebuilding = false)
    {fault : Fault} (failed : rebuildDirectly ctx given w = (.error fault, after)) :
    after.tracker.snapshot = w.tracker.snapshot := by
  have rebuilt := rebuild_spec calm given free
  rw [rebuildDirectly_of_error failed] at rebuilt
  obtain ⟨news, _, tracker⟩ := rebuilt.received_of_error free
  rw [tracker, State.receiveAll_eq]

/-- With the stop set, scanning touches nothing, and fails if there is anything to scan. -/
theorem Pass.scanAll_of_set (ctx : Context τ) (set : w.isSet stop = true)
    (groupVersions : List GroupVersion) (pass : Pass) :
    ∃ ended, scanAll ctx stop groupVersions pass w = (.ok ended, w) ∧
      (pass.failure = none → ended.failure = none ∨
        ended.failure = some Fault.stopDuringCollection) ∧
      ∀ fault, pass.failure = some fault → ended.failure = some fault := by
  induction groupVersions generalizing pass with
  | nil => exact ⟨pass, rfl, .inl, fun _ => id⟩
  | cons gv rest ih =>
    have scanned : scan ctx stop pass gv w = (.ok (pass.fail Fault.stopDuringCollection), w) := by
      rw [scan, Op.bind_of_ok (Context.stopSet_apply stop w), set]
      rfl
    obtain ⟨ended, all, _, kept⟩ := ih (pass.fail Fault.stopDuringCollection)
    refine ⟨ended, (Op.bind_of_ok scanned).trans all, fun going => ?_, fun fault failure => ?_⟩
    · exact .inr (kept _ (by simp [fail, going]))
    · exact kept fault (by simp [fail, failure])

/-- A pass that begins with the stop set is cancelled. -/
theorem Pass.run_of_set (set : w.isSet stop = true) (groupVersions : List GroupVersion) :
    run ctx stop groupVersions w = (.error Fault.stopDuringCollection, w) := by
  obtain ⟨ended, scanned, failed, _⟩ := scanAll_of_set ctx set groupVersions start
  rw [run, Op.bind_of_ok scanned, finish]
  rcases failed rfl with going | stopped
  · rw [going]
    dsimp only
    rw [Op.bind_of_ok (Context.stopSet_apply stop w), set]
    rfl
  · rw [stopped]
    rfl

/-- A rebuild that begins with its stop set is cancelled, once the group-versions are listed. -/
theorem rebuild_of_set (calm : ctx.IsCalm) (free : w.tracker.rebuilding = false)
    (set : w.isSet stop = true) {listed : List GroupVersion}
    (answered : (ctx.around.groups (.listedGroups :: .beganRebuild :: w.journal)).outcome =
      .ok listed) :
    (rebuild ctx (some stop) w).1 = .error Fault.stopDuringCollection := by
  obtain ⟨mid, askCalm, asked⟩ :=
    calm.ask (w := w.begun) rfl .listedGroups rfl ctx.around.groups
  have listing : listGroups ctx w.begun =
      (.ok listed, { mid with journal := .answeredGroups listed :: mid.journal }) := by
    rw [listGroups, Op.bind_of_ok (asked.trans (congrArg (Prod.mk · mid) answered))]
    rfl
  let begun : World τ :=
    { mid with
        journal :=
          .logged ⟨.debug, "Discovered " ++ toString listed.length ++ " group-versions"⟩ ::
            .answeredGroups listed :: mid.journal }
  have still : begun.isSet stop = true := askCalm.quiet.raised (w := w.begun) set
  have cancelled : Pass.run ctx stop listed begun = (.error Fault.stopDuringCollection, begun) :=
    Pass.run_of_set still listed
  have discovered : (discover ctx stop w.begun).1 = .error Fault.stopDuringCollection := by
    rw [discover, Op.bind_of_ok (Op.countingFailure_of_ok listing),
      Op.bind_of_ok (Op.log_apply ..),
      Op.bind_of_error (Op.countingFailure_of_error [.failed] cancelled)]
  rw [rebuild_of_free (some stop) free]
  change (rebuildLocked ctx stop w.begun).1 = _
  cases ends : discover ctx stop w.begun with
  | mk result after =>
    rw [ends] at discovered
    cases discovered
    rw [rebuildLocked, Op.bind_of_error ends]

/-- Installing sets no signal. -/
theorem install_raised (collected : Snapshot) (w : World τ) :
    (install collected w).2.raised = w.raised := by
  cases compared : collected.equals w.tracker.snapshot with
  | error kind => rw [install_of_incomparable compared]
  | ok equal =>
    cases equal with
    | true => rw [install_of_equal compared]; rfl
    | false => rw [install_of_different compared]; rfl

/-- A rebuild that finds the lock free and returns never saw its stop set. -/
theorem rebuildDirectly_unset (free : w.tracker.rebuilding = false) {outcome : Outcome}
    (ended : rebuildDirectly ctx (some stop) w = (.ok outcome, after)) :
    after.isSet stop = false := by
  obtain ⟨other, mid, rebuilds, told⟩ := Op.bind_eq_ok ended
  have same : after.raised = mid.raised := by
    split at told <;> cases told <;> rfl
  have rebuilds' := rebuilds
  rw [rebuild_of_free (some stop) free] at rebuilds'
  obtain ⟨returned, left⟩ := Prod.mk.inj rebuilds'
  obtain ⟨collected, found, discovered, installed⟩ := Op.bind_eq_ok (Prod.ext returned rfl)
  have raised : mid.raised = found.raised := by
    rw [← left, ← install_raised collected found, installed]
    rfl
  rw [World.isSet, same, raised]
  exact discover_unset discovered

end Rebuild

/-! ## Readiness over runs -/

section Runs

variable [Scalar τ] {w : World τ}

/-- What is asked of a tracker whose lock is free leaves the lock free, and is done step by step. -/
theorem World.after_steps (free : w.tracker.rebuilding = false) (requests : List (Request τ)) :
    (w.after requests).tracker.rebuilding = false ∧
      Steps none Set.univ w (w.after requests) := by
  induction requests generalizing w with
  | nil => exact ⟨free, .refl⟩
  | cons request rest ih =>
    obtain ⟨around, outer, depth, operation⟩ := request
    have lawful := Context.nested_lawful around outer depth
    have stepwise : (Context.nested around outer depth).Stepwise none Set.univ :=
      Context.nested_stepwise around depth (Set.mem_univ _) nofun
    have performed := stepwise.effect lawful operation (fun kind _ => Set.mem_univ kind)
      (fun _ => Set.mem_univ _) free
    have advanced : Advances w _ := (lawful.mono Quiet.toAdvances).effect operation w
    obtain ⟨freeAfter, steps⟩ := ih (advanced.lock.trans free)
    exact ⟨freeAfter, (performed nofun).trans steps⟩

/-- A run never revokes readiness. -/
theorem World.ready_after (free : w.tracker.rebuilding = false) (ready : w.tracker.ready = true)
    (requests : List (Request τ)) : (w.after requests).tracker.ready = true :=
  (w.after_steps free requests).2.keeps (fun w => w.tracker.ready = true)
    (fun _ step => step.ready_kept) ready

end Runs

/-! ## Starting -/

/-- A tracker that is not ready, with a free lock and nothing launched since an earlier world. -/
structure Unstarted (w w' : World τ) : Prop extends Unlaunched w w' where
  unready : w'.tracker.ready = false
  free : w'.tracker.rebuilding = false

section Start

variable [Scalar τ] (around : Surroundings τ) (outer given : Option Signal) (depth : Nat)
  {w listed : World τ}

omit [Scalar τ] in
/-- A start fails if the definitions cannot be listed. -/
theorem start_of_unlisted {ctx : Context τ} {cause : Fault}
    (failed : refreshKnown ctx (w.adopted given) = (.error cause, listed)) :
    start ctx given w = (.error (.startFailed cause), listed) := by
  rw [start_apply, failed]

omit [Scalar τ] in
/-- Once they are listed, it fails as the first rebuild does. -/
theorem start_of_unbuilt {ctx : Context τ} {fault : Fault} {after : World τ}
    (done : refreshKnown ctx (w.adopted given) = (.ok (), listed))
    (failed : rebuildDirectly ctx (some (w.adopted given).tracker.ownStop) listed =
      (.error fault, after)) :
    start ctx given w = (.error fault, after) := by
  rw [start_apply, done]
  exact Op.bind_of_error failed

omit [Scalar τ] in
/-- Once that is done, it calls the tracker ready and starts the loops. -/
theorem start_of_built {ctx : Context τ} {outcome : Outcome} {rebuilt : World τ}
    (done : refreshKnown ctx (w.adopted given) = (.ok (), listed))
    (ended : rebuildDirectly ctx (some (w.adopted given).tracker.ownStop) listed =
      (.ok outcome, rebuilt)) :
    start ctx given w = (.ok (), rebuilt.readied.looping) := by
  rw [start_apply, done]
  exact (Op.bind_of_ok ended).trans (ready_apply rebuilt)

/-- What is done by steps of calling and learning launches nothing. -/
theorem Proceeds.unlaunched {w w' : World τ}
    (proceeds : Proceeds none {kind | kind = .call ∨ kind = .learn} w w') : Unlaunched w w' :=
  (proceeds nofun).along fun among step => step.unlaunched among

theorem Context.nested_unlaunching :
    (Context.nested around outer depth).Stepwise none {kind | kind = .call ∨ kind = .learn} :=
  Context.nested_stepwise around depth (.inl rfl) nofun

/-- Listing the definitions at startup leaves the tracker unstarted, however it ends. -/
theorem refreshKnown_unstarted (unready : w.tracker.ready = false)
    (free : w.tracker.rebuilding = false) :
    Unstarted w (refreshKnown (Context.nested around outer depth) (w.adopted given)).2 := by
  have adopted : Unlaunched w (w.adopted given) := by
    cases given <;> exact ⟨rfl, List.Subset.refl _, rfl⟩
  have lock : (w.adopted given).tracker.rebuilding = w.tracker.rebuilding := by cases given <;> rfl
  have listing : Unlaunched w _ := trans_of _ adopted
    ((Context.nested_unlaunching around outer depth).refreshKnown (.inr rfl) _).unlaunched
  have advances : Advances (w.adopted given) _ :=
    (Context.nested_advances around outer depth).refreshKnown _
  exact ⟨listing, listing.ready.trans unready, advances.lock.trans (lock.trans free)⟩

/-- So does the first rebuild. -/
theorem rebuildDirectly_unstarted (unstarted : Unstarted w listed) (stop : Signal) :
    Unstarted w
      (rebuildDirectly (Context.nested around outer depth) (some stop) listed).2 := by
  have proceeds := (Context.nested_unlaunching around outer depth).rebuildDirectly
    (HeedsGiven.none (some stop)) listed
  have rebuilding := proceeds.unlaunched
  have quiet : Quiet listed _ := (Context.nested_lawful around outer depth).rebuilds (some stop) _
  exact ⟨trans_of _ unstarted.toUnlaunched rebuilding, quiet.ready.trans unstarted.unready,
    quiet.lock.trans unstarted.free⟩

/-- Between the surroundings' answer and what is made of it only log entries are written. So if that
fails, what was known before is so still; and nothing is disturbed unless the surroundings do it. -/
theorem refreshKnown_at_start (w : World τ) :
    let ctx := Context.nested around outer depth
    let listing := refreshKnown ctx (w.adopted given)
    let idle := ∀ action ∈ (around.crds (.listedCrds :: w.journal)).actions,
      action.asksRebuild = false
    (∀ cause, listing.1 = .error cause →
      Reported (ctx.ask .listedCrds around.crds (w.adopted given)).2 listing.2 ∧
      listing.2.tracker.known = w.tracker.known ∧ (idle → Undisturbed w listing.2)) ∧
    (listing.1 = .ok () → idle → listing.2.tracker.snapshot = w.tracker.snapshot) := by
  intro ctx listing idle
  obtain ⟨mid, reported, ends⟩ := refreshKnown_ends ctx (w.adopted given)
  rw [Context.nested_around around outer depth] at reported
  have undisturbed : idle → Undisturbed w mid := by
    intro idle
    have adopted : Undisturbed w (w.adopted given) := by cases given <;> exact ⟨rfl, rfl⟩
    have question : Undisturbed (w.adopted given)
        (ctx.ask .listedCrds around.crds (w.adopted given)).2 := by
      refine (ask_crds_untouched around outer depth ?_).undisturbed
      cases given <;> exact idle
    exact trans_of _ adopted (trans_of _ question reported.untouched.undisturbed)
  have known : mid.tracker.known = w.tracker.known := by
    have quiet : Quiet (w.adopted given) (ctx.ask .listedCrds around.crds (w.adopted given)).2 :=
      (Context.nested_lawful around outer depth).ask .listedCrds rfl around.crds _
    obtain ⟨logs, rfl⟩ := reported
    refine quiet.known.trans ?_
    cases given <;> rfl
  rcases ends with ⟨cause, ends⟩ | ⟨items, _, ends⟩
  · have left : listing.2 = mid := congrArg Prod.snd ends
    rw [left]
    refine ⟨fun _ _ => ⟨reported, known, undisturbed⟩, fun done => ?_⟩
    cases done.symm.trans (congrArg Prod.fst ends)
  · have left : listing.2 = mid.relisted (items.filterMap uidOf?) := congrArg Prod.snd ends
    rw [left]
    refine ⟨fun cause failed => ?_, fun _ idle => (undisturbed idle).snapshot⟩
    cases failed.symm.trans (congrArg Prod.fst ends)

/-- Startup is all or nothing. If listing the definitions fails or processing them does, so does the
start, with that for its cause: nothing comes after what the surroundings did while they were
asked, so that the known definitions stay, and snapshot and discovery as well if the surroundings
asked for no rebuild of their own. If the first rebuild fails, the start fails likewise, and the
snapshot stays; that is so where the stop is set once the group-versions are answered. In both
cases the tracker is unstarted. Else the tracker is ready, its stop is not set, and exactly the
three loops were started. Whatever is asked of it, before or after, a tracker that is ready stays
ready; the snapshot is refused exactly to who asks an unready one; and the readiness probe, with
any query string, says 200 exactly where the snapshot can be had, and else 503. -/
theorem start_all_or_nothing (unready : w.tracker.ready = false)
    (free : w.tracker.rebuilding = false) :
    let ctx := Context.nested around outer depth
    let asked := (ctx.ask .listedCrds around.crds (w.adopted given)).2
    let stop := (w.adopted given).tracker.ownStop
    let listing := refreshKnown ctx (w.adopted given)
    let rebuilding := rebuildDirectly ctx (some stop) listing.2
    let after := (start ctx given w).2
    let idle := ∀ action ∈ (around.crds (.listedCrds :: w.journal)).actions,
      action.asksRebuild = false
    (∀ cause, listing.1 = .error cause ↔
      (around.crds (.listedCrds :: w.journal)).outcome = .error cause ∨
        ∃ items kind, (around.crds (.listedCrds :: w.journal)).outcome = .ok items ∧
          items.findSome? misuseOf? = some kind ∧ cause = .misuse kind) ∧
    (∀ cause, listing.1 = .error cause →
      (start ctx given w).1 = .error (.startFailed cause) ∧ Unstarted w after ∧
      Reported asked after ∧ after.tracker.known = w.tracker.known ∧
      (idle → Undisturbed w after)) ∧
    (∀ fault, listing.1 = .ok () → rebuilding.1 = .error fault →
      (start ctx given w).1 = .error fault ∧ Unstarted w after ∧
      after.tracker.snapshot = listing.2.tracker.snapshot ∧
      (idle → after.tracker.snapshot = w.tracker.snapshot)) ∧
    (∀ groups, listing.1 = .ok () → listing.2.isSet stop = true →
      (around.groups (.listedGroups :: .beganRebuild :: listing.2.journal)).outcome = .ok groups →
        rebuilding.1 = .error Fault.stopDuringCollection) ∧
    (∀ outcome, listing.1 = .ok () → rebuilding.1 = .ok outcome →
      (start ctx given w).1 = .ok () ∧ after.tracker.ready = true ∧
      after.tracker.loops = Loop.all ∧ after.isSet stop = false ∧
      ∃ message earlier, launchesIn earlier = launchesIn w.journal ∧
        after.journal = .startedLoop .fullRescan :: .startedLoop .collection ::
          .startedLoop .watch :: .logged message :: earlier) ∧
    (∀ requests more, (w.after requests).tracker.ready = true →
      (w.after (requests ++ more)).tracker.ready = true) ∧
    (∀ later : World τ,
      ((getSnapshot later).1 = .error .notStarted ↔ later.tracker.ready = false) ∧
      ((∃ s, (getSnapshot later).1 = .ok s) ↔ later.tracker.ready = true) ∧
      ∀ query, (Health.answer later.tracker.ready (Health.readyz query)).status.code =
        if (getSnapshot later).1.isOk then 200 else 503) := by
  intro ctx asked stop listing rebuilding after idle
  have listed : Unstarted w listing.2 :=
    refreshKnown_unstarted around outer given depth unready free
  have rebuilt : Unstarted w rebuilding.2 :=
    rebuildDirectly_unstarted around outer depth listed stop
  have calm : ctx.IsCalm := Context.nested_locked_calm around outer depth
  have isAround : ctx.around = around := Context.nested_around around outer depth
  obtain ⟨vain, still⟩ := refreshKnown_at_start around outer given depth w
  refine ⟨fun cause => ?_, fun cause failed => ?_, fun fault done failed => ?_,
    fun groups done set answered => ?_, fun outcome done ended => ?_,
    fun requests more ready => ?_, fun later => ⟨?_, ?_, ?_⟩⟩
  · have journal : (w.adopted given).journal = w.journal := by cases given <;> rfl
    rw [refreshKnown_fails_iff, isAround, journal]
  · have unlisted := start_of_unlisted given (Prod.ext failed rfl : listing = (_, listing.2))
    have left : after = listing.2 := by
      change (start ctx given w).2 = listing.2
      rw [unlisted]
    rw [left]
    exact ⟨congrArg Prod.fst unlisted, listed, vain cause failed⟩
  · have unbuilt := start_of_unbuilt given (Prod.ext done rfl : listing = (_, listing.2))
      (Prod.ext failed rfl : rebuilding = (_, rebuilding.2))
    have left : after = rebuilding.2 := congrArg Prod.snd unbuilt
    have snapshot := rebuildDirectly_failed calm listed.free
      (Prod.ext failed rfl : rebuilding = (.error fault, rebuilding.2))
    rw [left]
    exact ⟨congrArg Prod.fst unbuilt, rebuilt, snapshot, fun idle => snapshot.trans (still done idle)⟩
  · have cancelled : (rebuild ctx (some stop) listing.2).1 = .error Fault.stopDuringCollection :=
      rebuild_of_set calm listed.free set (isAround ▸ answered)
    exact congrArg Prod.fst (Op.bind_of_error (Prod.ext cancelled rfl))
  · have built := start_of_built given (Prod.ext done rfl : listing = (_, listing.2))
      (Prod.ext ended rfl : rebuilding = (_, rebuilding.2))
    have left : after = rebuilding.2.readied.looping := congrArg Prod.snd built
    have unset : rebuilding.2.isSet stop = false :=
      rebuildDirectly_unset listed.free (Prod.ext ended rfl)
    rw [left]
    exact ⟨congrArg Prod.fst built, rfl, rfl, unset, _, rebuilding.2.journal, rebuilt.launches, rfl⟩
  · have prior := w.after_steps free requests
    rw [World.after, List.foldl_append]
    exact World.ready_after prior.1 ready more
  · cases ready : later.tracker.ready with
    | true => simp [getSnapshot_of_ready ready]
    | false => simp [getSnapshot_of_not_ready ready]
  · cases ready : later.tracker.ready with
    | true => simp [getSnapshot_of_ready ready]
    | false => simp [getSnapshot_of_not_ready ready]
  · intro query
    rw [Health.code_readyz]
    cases ready : later.tracker.ready with
    | true => simp [getSnapshot_of_ready ready, Except.isOk, Except.toBool]
    | false => simp [getSnapshot_of_not_ready ready, Except.isOk, Except.toBool]

end Start

/-- A new tracker in surroundings that refuse the definitions, that refuse the group-versions, and
that refuse nothing. -/
theorem start_all_or_nothing_fresh :
    let w : World Rat := World.fresh .exact 0
    let starting (groups : Except Fault (List GroupVersion)) (crds : Except Fault (List Value)) :=
      start (Context.nested (.steady groups (fun _ => .ok none) crds) none 1) none w
    let unlisted := starting (.ok []) (.error .noAttempts)
    let unbuilt := starting (.error .noAttempts) (.ok [])
    let built := starting (.ok [⟨"", "v1"⟩]) (.ok [])
    w.tracker.ready = false ∧ w.tracker.rebuilding = false ∧
    (unlisted.1 = .error (.startFailed .noAttempts) ∧ Unstarted w unlisted.2) ∧
    (unbuilt.1 = .error .noAttempts ∧ Unstarted w unbuilt.2) ∧
    (built.1 = .ok () ∧ built.2.tracker.loops = Loop.all ∧
      (Health.answer built.2.tracker.ready (Health.readyz (some "verbose"))).status.code = 200) := by
  intro w starting unlisted unbuilt built
  obtain ⟨_, noListing, _⟩ := start_all_or_nothing
    (.steady (.ok []) (fun _ => .ok none) (.error .noAttempts)) none none 1 (w := w) rfl rfl
  obtain ⟨_, _, noRebuild, _⟩ := start_all_or_nothing
    (.steady (.error .noAttempts) (fun _ => .ok none) (.ok [])) none none 1 (w := w) rfl rfl
  obtain ⟨_, _, _, _, ready, _, reading⟩ := start_all_or_nothing
    (.steady (.ok [⟨"", "v1"⟩]) (fun _ => .ok none) (.ok [])) none none 1 (w := w) rfl rfl
  have first := noListing _ rfl
  have second := noRebuild _ rfl rfl
  have third := ready .changed rfl rfl
  exact ⟨rfl, rfl, ⟨first.1, first.2.1⟩, ⟨second.1, second.2.1⟩, third.1, third.2.2.1,
    (reading built.2).2.2 _⟩

end Tracker

end ApiSurface
