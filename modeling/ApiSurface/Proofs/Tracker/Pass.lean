import ApiSurface.Proofs.Tracker.Lock

/-!
# What a discovery pass does

A pass that has not failed has put together exactly what was answered to it so far, and
a pass fails only if the surroundings refused an answer, a listing could not be scanned
or a stop was seen. Both are kept by every scan and so hold of whole passes, of any
length and whatever calls back into the tracker come in between.
-/

namespace ApiSurface.Tracker

variable {τ : Type} {ctx : Context τ} {stop : Signal} {w w' : World τ}

/-- What a pass may fail for. -/
inductive Hindered (ctx : Context τ) (stop : Signal) (w : World τ) : Prop where
  | groupsRefused {journal : Journal τ} {fault : Fault}
      (refused : (ctx.around.groups journal).outcome = .error fault)
  | resourcesRefused {key : Text} {journal : Journal τ} {fault : Fault}
      (refused : (ctx.around.resources key journal).outcome = .error fault)
  | unreadable {gv : GroupVersion} {journal : Journal τ} {listing : Listing} {kind : Misuse}
      (answered : (ctx.around.resources gv.key journal).outcome = .ok listing)
      (unreadable : Scan.resources gv listing = .error kind)
  | stopped (set : w.isSet stop = true)

/-- Surroundings that always answer the same and never act. -/
def Surroundings.steady (groups : Except Fault (List GroupVersion))
    (resources : Text → Except Fault Listing) (crds : Except Fault (List Value)) :
    Surroundings τ where
  groups _ := { actions := [], outcome := groups }
  resources key _ := { actions := [], outcome := resources key }
  crds _ := { actions := [], outcome := crds }
  stream _ := { refusal := none, items := [], ending := none }
  duringWait _ := []
  wakes set _ := set
  longestWait := none
  stuck _ := false

/-- Every one of these answers was given by the surroundings at some time. -/
def Surroundings.Gave (around : Surroundings τ) (answers : Answers) : Prop :=
  ∀ answer ∈ answers, ∃ journal, (around.resources answer.1.key journal).outcome = .ok answer.2

/-- What a pass found listed and what was answered to it was all given by the surroundings. -/
structure Surroundings.Served (around : Surroundings τ) (round : Round) : Prop where
  listed : ∃ journal, (around.groups journal).outcome = .ok round.listed
  gave : around.Gave round.answers

/-- What a completed pass was given by surroundings that always answer the same. -/
theorem Surroundings.Served.of_steady {groups : List GroupVersion} {listing : Listing}
    {crds : Except Fault (List Value)} {around : Surroundings τ} {round : Round}
    (steady : around = .steady (.ok groups) (fun _ => .ok listing) crds)
    (served : around.Served round) (complete : round.Complete) :
    round.listed = groups ∧ round.answers = groups.map fun gv => (gv, listing) := by
  subst steady
  obtain ⟨_, listed⟩ := served.listed
  have listedGroups : groups = round.listed := Except.ok.inj listed
  have answered : ∀ answer ∈ round.answers, answer = (answer.1, listing) := by
    intro answer member
    obtain ⟨_, given⟩ := served.gave answer member
    have given : listing = answer.2 := Except.ok.inj given
    rw [given]
  refine ⟨listedGroups.symm, ?_⟩
  calc round.answers
      = round.answers.map fun answer => (answer.1, listing) :=
        (List.map_id _).symm.trans (List.map_congr_left answered)
    _ = round.answers.groupVersions.map fun gv => (gv, listing) := by
      rw [Answers.groupVersions, List.map_map]
      rfl
    _ = groups.map fun gv => (gv, listing) := by rw [complete, listedGroups]

/-- What was given to a pass does not depend on how it ended. -/
theorem Surroundings.Served.ended {around : Surroundings τ} {round : Round}
    (served : around.Served round) (outcome : Option Outcome) :
    around.Served { round with outcome } := ⟨served.listed, served.gave⟩

/-- What hindered a pass still shows later. -/
theorem Hindered.later (hindered : Hindered ctx stop w) (advances : Advances w w') :
    Hindered ctx stop w' := by
  cases hindered with
  | groupsRefused refused => exact .groupsRefused refused
  | resourcesRefused refused => exact .resourcesRefused refused
  | unreadable answered unreadable => exact .unreadable answered unreadable
  | stopped set => exact .stopped (advances.raised set)

/-- Calls back into the tracker are calm while the lock is held. -/
def Context.IsCalm (ctx : Context τ) : Prop := ∀ action w, Locked Calm w (ctx.act action w)

/-- Asking a plain question under the lock: the answer is that of the surroundings, and only
calls back come before it. -/
theorem Context.IsCalm.ask {α : Type} (calm : ctx.IsCalm) (locked : w.tracker.rebuilding = true)
    (question : Entry τ) (plain : question.isPlain = true) (answer : Journal τ → Reply τ α) :
    ∃ mid, Calm w mid ∧
      ctx.ask question answer w = ((answer (question :: w.journal)).outcome, mid) := by
  refine ⟨(ctx.ask question answer w).2, ?_, ?_⟩
  · exact Op.Moves.ask (R := Locked Calm) calm (Op.Moves.record_held plain).locked w locked
  · rw [Context.ask_apply]

namespace Pass

/-! ## One request -/

/-- How the request for the resources of a group-version may end. -/
inductive Requested (ctx : Context τ) (stop : Signal) (gv : GroupVersion) (w : World τ) :
    Except Fault (List Resource) → World τ → Prop where
  | failed {fault : Fault} {after : World τ} (held : Held History.rounds w after)
      (hindered : Hindered ctx stop after) : Requested ctx stop gv w (.error fault) after
  | scanned {mid : World τ} {journal : Journal τ} {listing : Listing} {resources : List Resource}
      (calm : Calm w mid) (given : (ctx.around.resources gv.key journal).outcome = .ok listing)
      (scan : Scan.resources gv listing = .ok resources) :
      Requested ctx stop gv w (.ok resources)
        { mid with journal := .answeredResources gv listing :: mid.journal }

/-- Putting an answer about resources on record leaves the completed passes as they are. -/
theorem held_answered (gv : GroupVersion) (listing : Listing) :
    Held History.rounds w { w with journal := .answeredResources gv listing :: w.journal } :=
  Held.noted _ rfl rfl rfl rfl nofun rfl

theorem request_spec (calm : ctx.IsCalm) (locked : w.tracker.rebuilding = true) (stop : Signal)
    (gv : GroupVersion) :
    Requested ctx stop gv w (request ctx gv w).1 (request ctx gv w).2 := by
  obtain ⟨mid, answerCalm, asked⟩ :=
    calm.ask locked (.requestedResources gv.key) rfl (ctx.around.resources gv.key)
  rw [request]
  cases outcome :
      (ctx.around.resources gv.key (.requestedResources gv.key :: w.journal)).outcome with
  | error fault =>
    rw [outcome] at asked
    rw [Op.bind_of_error asked]
    exact .failed (.of_calm answerCalm) (.resourcesRefused outcome)
  | ok listing =>
    rw [outcome] at asked
    rw [Op.bind_of_ok asked, Op.bind_of_ok (Op.record_apply ..)]
    cases scan : Scan.resources gv listing with
    | ok resources => exact .scanned answerCalm outcome scan
    | error kind =>
      exact .failed (Held.trans (.of_calm answerCalm) (held_answered gv listing))
        (.unreadable outcome scan)

/-! ## One scan -/

/-- A pass over listed group-versions that has not failed has put together what was answered
about those it asked about so far; a pass that failed was hindered. -/
structure Tracks (ctx : Context τ) (stop : Signal) (listed asked : List GroupVersion) (pass : Pass)
    (w : World τ) : Prop where
  answered : pass.failure = none →
    ∃ answers : Answers, w.history.current = { listed, answers, outcome := none } ∧
      answers.groupVersions = asked ∧ answers.merged = .ok pass.results ∧ ctx.around.Gave answers
  hindered : pass.failure ≠ none → Hindered ctx stop w

variable {listed asked : List GroupVersion} {pass : Pass}

/-- A pass that was hindered and is marked as failed tracks what was asked. -/
theorem Tracks.of_failed (hindered : Hindered ctx stop w) (failed : pass.failure ≠ none) :
    Tracks ctx stop listed asked pass w :=
  ⟨fun none => absurd none failed, fun _ => hindered⟩

/-- A request answered and scanned adds its resources to the pass. -/
theorem Tracks.add {gv : GroupVersion} {mid : World τ} {journal : Journal τ} {listing : Listing}
    {resources : List Resource} (tracks : Tracks ctx stop listed asked pass w)
    (going : pass.failure = none) (calm : Calm w mid)
    (given : (ctx.around.resources gv.key journal).outcome = .ok listing)
    (scan : Scan.resources gv listing = .ok resources) :
    Tracks ctx stop listed (asked ++ [gv]) (pass.add gv.key resources)
      { mid with journal := .answeredResources gv listing :: mid.journal } := by
  refine ⟨fun _ => ?_, fun failed => absurd going failed⟩
  obtain ⟨answers, current, groupVersions, merged, gave⟩ := tracks.answered going
  have same : mid.history = w.history := calm.viewed
  refine ⟨answers ++ [(gv, listing)], ?_, ?_, Answers.merged_concat merged scan, ?_⟩
  · change (mid.history.note (Entry.answeredResources gv listing : Entry τ)).current = _
    rw [same, History.note, current]
  · rw [Answers.groupVersions, List.map_append, ← Answers.groupVersions, groupVersions]
    rfl
  · intro answer member
    rcases List.mem_append.mp member with before | here
    · exact gave answer before
    · cases List.mem_singleton.mp here
      exact ⟨journal, given⟩

theorem attemptScan_spec (calm : ctx.IsCalm) (locked : w.tracker.rebuilding = true)
    (tracks : Tracks ctx stop listed asked pass w) (going : pass.failure = none)
    (gv : GroupVersion) :
    ∃ next after, attemptScan ctx pass gv w = (.ok next, after) ∧ Held History.rounds w after ∧
      Tracks ctx stop listed (asked ++ [gv]) next after := by
  have requested := request_spec calm locked stop gv
  rw [attemptScan, Op.bind_apply, Op.attempt_apply]
  cases ends : request ctx gv w with
  | mk result after =>
    rw [ends] at requested
    cases requested with
    | scanned answerCalm given scan =>
      exact ⟨_, _, rfl, Held.trans (.of_calm answerCalm) (held_answered ..),
        tracks.add going answerCalm given scan⟩
    | failed held hindered =>
      have reported : Held History.rounds after _ :=
        (Held.plain (.counted .scanErrors) rfl).trans
          (.plain (.logged ⟨.error, "Failed to discover API resources for " ++ gv.key⟩) rfl)
      exact ⟨_, _, rfl, held.trans reported,
        .of_failed (hindered.later reported.quiet.toAdvances) (Option.some_ne_none _)⟩

/-- A scan keeps a pass in step with what was answered to it. -/
theorem scan_spec (calm : ctx.IsCalm) (locked : w.tracker.rebuilding = true)
    (tracks : Tracks ctx stop listed asked pass w) (gv : GroupVersion) :
    ∃ next after, scan ctx stop pass gv w = (.ok next, after) ∧ Held History.rounds w after ∧
      Tracks ctx stop listed (asked ++ [gv]) next after := by
  rw [scan, Op.bind_of_ok (Context.stopSet_apply stop w)]
  by_cases set : w.isSet stop = true
  · rw [if_pos set]
    exact ⟨_, _, rfl, .refl w, .of_failed (.stopped set) (Option.some_ne_none _)⟩
  rw [if_neg set]
  by_cases failed : pass.failure.isSome = true
  · rw [if_pos failed]
    have notNone : pass.failure ≠ none := Option.isSome_iff_ne_none.mp failed
    exact ⟨_, _, rfl, .refl w, .of_failed (tracks.hindered notNone) notNone⟩
  · rw [if_neg failed]
    exact attemptScan_spec calm locked tracks (Option.not_isSome_iff_eq_none.mp failed) gv

/-! ## Whole passes -/

/-- Scans in turn keep a pass in step with what was answered to it. -/
theorem scanAll_spec (calm : ctx.IsCalm) (locked : w.tracker.rebuilding = true)
    (tracks : Tracks ctx stop listed asked pass w) (groupVersions : List GroupVersion) :
    ∃ last after, scanAll ctx stop groupVersions pass w = (.ok last, after) ∧
      Held History.rounds w after ∧
      Tracks ctx stop listed (asked ++ groupVersions) last after := by
  induction groupVersions generalizing w asked pass with
  | nil =>
    rw [List.append_nil]
    exact ⟨pass, w, rfl, .refl w, tracks⟩
  | cons gv rest ih =>
    obtain ⟨next, mid, scanned, held, tracksNext⟩ := scan_spec calm locked tracks gv
    obtain ⟨last, after, scannedRest, heldRest, tracksLast⟩ :=
      ih (held.quiet.lock.trans locked) tracksNext
    rw [List.append_assoc, List.singleton_append] at tracksLast
    refine ⟨last, after, ?_, held.trans heldRest, tracksLast⟩
    rw [scanAll, Op.bind_of_ok scanned, scannedRest]

end Pass

/-- A pass was completed: the surroundings listed group-versions and answered about all of them, a
snapshot was put together from the answers, and the completed passes before it are as they were. -/
structure Collected (around : Surroundings τ) (collected : Snapshot) (w w' : World τ) : Prop where
  held : Held History.rounds w w'
  complete : w'.history.current.Complete
  merged : w'.history.current.answers.merged = .ok collected
  pending : w'.history.current.outcome = none
  served : around.Served w'.history.current

/-- How a pass may end: hindered, or completed. -/
inductive Pass.Ran (ctx : Context τ) (stop : Signal) (w : World τ) :
    Except Fault Snapshot → World τ → Prop where
  | failed {fault : Fault} {after : World τ} (held : Held History.rounds w after)
      (hindered : Hindered ctx stop after) : Pass.Ran ctx stop w (.error fault) after
  | completed {collected : Snapshot} {after : World τ}
      (pass : Collected ctx.around collected w after) :
      Pass.Ran ctx stop w (.ok collected) after

theorem Pass.run_spec (calm : ctx.IsCalm) (locked : w.tracker.rebuilding = true) (stop : Signal)
    {listed : List GroupVersion} (begun : w.history.current = { Round.fresh with listed })
    (given : ∃ journal, (ctx.around.groups journal).outcome = .ok listed) :
    Pass.Ran ctx stop w (Pass.run ctx stop listed w).1 (Pass.run ctx stop listed w).2 := by
  have tracksStart : Tracks ctx stop listed [] Pass.start w :=
    ⟨fun _ => ⟨[], begun, rfl, rfl, nofun⟩, fun failed => absurd rfl failed⟩
  obtain ⟨last, after, scanned, held, tracks⟩ := scanAll_spec calm locked tracksStart listed
  rw [List.nil_append] at tracks
  rw [Pass.run, Op.bind_of_ok scanned, finish]
  cases failure : last.failure with
  | some fault => exact .failed held (tracks.hindered (by simp [failure]))
  | none =>
    dsimp only
    rw [Op.bind_of_ok (Context.stopSet_apply stop after)]
    by_cases set : after.isSet stop = true
    · rw [if_pos set]
      exact .failed held (.stopped set)
    · rw [if_neg set]
      obtain ⟨answers, current, groupVersions, merged, gave⟩ := tracks.answered failure
      have complete : after.history.current.Complete := by
        rw [current]
        exact groupVersions
      have mergedHere : after.history.current.answers.merged = .ok last.results := by
        rw [current]
        exact merged
      have served : ctx.around.Served after.history.current := by
        rw [current]
        exact ⟨given, gave⟩
      exact .completed ⟨held, complete, mergedHere, congrArg Round.outcome current, served⟩

end ApiSurface.Tracker
