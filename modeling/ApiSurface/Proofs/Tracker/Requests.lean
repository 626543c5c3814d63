import ApiSurface.Proofs.Tracker.PassOrder
import ApiSurface.Proofs.Tracker.Stepping

/-!
# What a pass requests

While a rebuild holds the lock, calls back into the tracker request nothing (`Unasked`), so what is
requested during a pass is what the pass itself requests. A completed pass has requested every
group-version that was listed, once for each time it is listed and in that order, and the keys of
what it put together are theirs (`discover_asks`).
-/

namespace ApiSurface.Tracker

variable {τ α β : Type} {ctx : Context τ} {stop : Signal} {w w' w'' mid after : World τ}

/-! ## Nothing requested -/

/-- Between these worlds the resources of some keys were requested in turn and of no others, and the
lock is as it was. -/
structure Asked (keys : List Text) (w w' : World τ) : Prop where
  requests : requestsIn w'.journal = keys.reverse ++ requestsIn w.journal
  lock : w'.tracker.rebuilding = w.tracker.rebuilding

/-- Between these worlds nothing was requested, and the lock is as it was. -/
abbrev Unasked : World τ → World τ → Prop := Asked []

theorem Asked.trans {keys later : List Text} (first : Asked keys w w')
    (second : Asked later w' w'') : Asked (keys ++ later) w w'' := by
  refine ⟨?_, second.lock.trans first.lock⟩
  rw [second.requests, first.requests, List.reverse_append, List.append_assoc]

theorem Asked.later {keys : List Text} (asked : Asked keys w w') (unasked : Unasked w' w'') :
    Asked keys w w'' := by
  have both := asked.trans unasked
  rwa [List.append_nil] at both

namespace Unasked

theorem refl (w : World τ) : Unasked w w := ⟨rfl, rfl⟩

instance : IsPreorder (World τ) Unasked where
  refl := refl
  trans _ _ _ := Asked.trans

instance : IsPreorder (World τ) (Locked Unasked) where
  refl w _ := refl w
  trans _ _ _ first second locked :=
    (first locked).trans (second ((first locked).lock.trans locked))

end Unasked

namespace Op.Moves

/-- Writing an entry that is no request. -/
theorem record_unasked {entry : Entry τ} (silent : entry.requested? = none) :
    (Op.record entry).Moves Unasked := fun _ => ⟨List.filterMap_cons_none silent, rfl⟩

/-- Changing a tracker in something else than its lock. -/
theorem update_unasked {f : State τ → State τ}
    (unlocked : ∀ tracker, (f tracker).rebuilding = tracker.rebuilding) :
    (Op.update f).Moves Unasked := fun w => ⟨rfl, unlocked w.tracker⟩

end Op.Moves

theorem rebuild_locked_unasked (ctx : Context τ) (given : Option Signal) :
    (rebuild ctx given).Moves (Locked Unasked) := by
  intro w locked
  rw [rebuild_of_locked ctx given locked]
  exact ⟨rfl, rfl⟩

theorem rebuildDirectly_locked_unasked (ctx : Context τ) (given : Option Signal) :
    (rebuildDirectly ctx given).Moves (Locked Unasked) := by
  intro w locked
  rw [rebuildDirectly_of_locked ctx given locked]
  exact rebuild_locked_unasked ctx given w locked

theorem collectAndNotify_locked_unasked (ctx : Context τ) (given : Option Signal) :
    (collectAndNotify ctx given).Moves (Locked Unasked) := by
  intro w locked
  have unasked := rebuild_locked_unasked ctx given w locked
  rw [rebuild_of_locked ctx given locked] at unasked
  rw [collectAndNotify, Op.bind_apply, Op.attempt_apply, rebuild_of_locked ctx given locked]
  exact unasked

theorem join_unasked (ctx : Context τ) (timeout : Seconds τ) (text : String) (loop : Loop) :
    (join ctx timeout text loop).Moves Unasked := by
  refine .bind (.record_unasked rfl) fun _ => ?_
  split
  · exact .record_unasked rfl
  · exact .pure ()

theorem interruptWatch_unasked : (interruptWatch : Op τ Unit).Moves Unasked := by
  refine .bind .tracker fun tracker => ?_
  split
  · exact .record_unasked rfl
  · exact .pure ()

theorem getSnapshot_unasked : (getSnapshot : Op τ Snapshot).Moves Unasked := by
  refine .bind .tracker fun tracker => ?_
  split
  · exact .pure _
  · exact .raise _

variable [Scalar τ]

theorem stop_unasked (ctx : Context τ) (timeout : Seconds τ) :
    (Tracker.stop ctx timeout).Moves Unasked := by
  refine .bind (fun w => ⟨rfl, rfl⟩) fun _ => .bind interruptWatch_unasked fun _ => ?_
  refine .bind .tracker fun tracker => .bind ?_ fun _ => .update_unasked fun _ => rfl
  exact .each fun loop _ => join_unasked ctx timeout timeout.text loop

theorem askLimiter_unasked : (askLimiter : Op τ Bool).Moves Unasked := by
  intro w
  rw [askLimiter_apply]
  refine ⟨rfl, ?_⟩
  cases w.tracker.limiter.admits w.clock <;> rfl

theorem trigger_locked_unasked (ctx : Context τ) (given : Option Signal) :
    (trigger ctx given).Moves (Locked Unasked) := by
  refine .bind askLimiter_unasked.locked fun admitted => ?_
  cases admitted with
  | true => exact .bind (collectAndNotify_locked_unasked ctx given) fun _ => .pure _
  | false => exact .bind (Op.Moves.record_unasked rfl).locked fun _ => .pure _

/-- Under the lock, what an action does requests nothing. -/
theorem effectOf_locked_unasked (ctx : Context τ) (action : Action τ) :
    (effectOf ctx action).Moves (Locked Unasked) := by
  cases action with
  | stopTracker => exact .bind (stop_unasked ctx _).locked fun _ => .pure _
  | rebuild => exact .bind (rebuildDirectly_locked_unasked ctx none) fun _ => .pure _
  | trigger =>
    exact .bind (.stopOr _) fun stop =>
      .bind (trigger_locked_unasked ctx (some stop)) fun _ => .pure _
  | readSnapshot => exact .bind getSnapshot_unasked.locked fun _ => .pure _
  | subscribe name => exact .bind (fun w _ => ⟨rfl, rfl⟩) fun _ => .pure _
  | raiseStop => exact .bind (.stopOr _) fun stop => .bind (fun w _ => ⟨rfl, rfl⟩) fun _ => .pure _
  | elapse time => exact .bind (fun w _ => ⟨rfl, rfl⟩) fun _ => .pure _

theorem perform_locked_unasked (ctx : Context τ) (action : Action τ) (w : World τ) :
    Locked Unasked w (perform ctx action w) := by
  cases call : action.isCall with
  | true =>
    rw [perform_call ctx call]
    exact fun locked => (effectOf_locked_unasked ctx action w locked).trans ⟨rfl, rfl⟩
  | false =>
    rw [perform_silent ctx call]
    exact effectOf_locked_unasked ctx action w

/-- At every depth of nesting, calls back under the lock request nothing. -/
theorem Context.nested_locked_unasked (around : Surroundings τ) (given : Option Signal)
    (depth : Nat) (action : Action τ) (w : World τ) :
    Locked Unasked w ((Context.nested around given depth).act action w) := by
  cases depth with
  | zero => exact fun _ => ⟨rfl, rfl⟩
  | succ depth => exact perform_locked_unasked _ action w

/-! ## One pass -/

omit [Scalar τ]

/-- Calls back under the lock request nothing. -/
def Context.IsUnasking (ctx : Context τ) : Prop := ∀ action w, Locked Unasked w (ctx.act action w)

/-- A question under the lock requests what it asks for and nothing else. -/
theorem Context.IsUnasking.ask (unasking : ctx.IsUnasking) (locked : w.tracker.rebuilding = true)
    (question : Entry τ) (answer : Journal τ → Reply τ α) :
    Asked question.requested?.toList w (ctx.ask question answer w).2 := by
  have noted : Asked question.requested?.toList w { w with journal := question :: w.journal } := by
    refine ⟨?_, rfl⟩
    rw [requestsIn, List.filterMap_cons]
    cases question.requested? <;> rfl
  have acted : ∀ (actions : List (Action τ)) (start : World τ), Locked Unasked start
      (actions.foldl (fun w action => ctx.act action w) start) := fun actions =>
    Context.acted_along fun action _ => unasking action
  rw [Context.ask_apply]
  exact noted.later (acted (answer (question :: w.journal)).actions _ locked)

namespace Pass

/-- From one point of a pass to another, some group-versions were scanned: if the pass goes on, they
were requested, and nothing else, and their keys were added to it. -/
structure Scanned (groupVersions : List GroupVersion) (pass next : Pass) (w after : World τ) :
    Prop where
  lock : after.tracker.rebuilding = w.tracker.rebuilding
  going : next.failure = none → pass.failure = none
  asked : next.failure = none → Asked (groupVersions.map GroupVersion.key) w after
  keys : next.failure = none → ∀ key, key ∈ next.results.keys ↔
    key ∈ pass.results.keys ∨ ∃ gv ∈ groupVersions, gv.key = key

variable {pass next last : Pass} {first rest : List GroupVersion}

theorem Scanned.trans (scanned : Scanned first pass next w mid)
    (scannedRest : Scanned rest next last mid after) :
    Scanned (first ++ rest) pass last w after where
  lock := scannedRest.lock.trans scanned.lock
  going := scanned.going ∘ scannedRest.going
  asked ends := by
    rw [List.map_append]
    exact (scanned.asked (scannedRest.going ends)).trans (scannedRest.asked ends)
  keys ends key := by
    rw [scannedRest.keys ends, scanned.keys (scannedRest.going ends), or_assoc]
    simp only [List.mem_append, or_and_right, exists_or]

/-- A pass that has failed says nothing of what was scanned. -/
theorem Scanned.of_failed (lock : after.tracker.rebuilding = w.tracker.rebuilding)
    (failed : next.failure ≠ none) : Scanned first pass next w after :=
  ⟨lock, fun none => absurd none failed, fun none => absurd none failed,
    fun none => absurd none failed⟩

theorem request_asks (unasking : ctx.IsUnasking) (locked : w.tracker.rebuilding = true)
    (gv : GroupVersion) : Asked [gv.key] w (request ctx gv w).2 := by
  have asked := unasking.ask locked (.requestedResources gv.key) (ctx.around.resources gv.key)
  rw [request, Op.bind_apply]
  cases ends : ctx.ask (.requestedResources gv.key) (ctx.around.resources gv.key) w with
  | mk result after =>
    rw [ends] at asked
    cases result with
    | error fault => exact asked
    | ok listing =>
      refine asked.later (Op.Moves.bind (.record_unasked rfl) (fun _ => ?_) after)
      split
      · exact .pure _
      · exact .raise _

theorem attemptScan_scanned (unasking : ctx.IsUnasking) (locked : w.tracker.rebuilding = true)
    (going : pass.failure = none) (gv : GroupVersion) :
    ∃ next after, attemptScan ctx pass gv w = (.ok next, after) ∧
      Scanned [gv] pass next w after := by
  have asked := request_asks unasking locked gv
  rw [attemptScan, Op.bind_apply, Op.attempt_apply]
  cases ends : request ctx gv w with
  | mk result after =>
    rw [ends] at asked
    cases result with
    | ok resources =>
      refine ⟨_, _, rfl, asked.lock, fun _ => going, fun _ => asked, fun _ key => ?_⟩
      rw [add, Snapshot.mem_keys_add]
      simp [eq_comm]
    | error fault => exact ⟨_, _, rfl, .of_failed asked.lock (Option.some_ne_none _)⟩

theorem scan_scanned (unasking : ctx.IsUnasking) (locked : w.tracker.rebuilding = true)
    (pass : Pass) (gv : GroupVersion) :
    ∃ next after, scan ctx stop pass gv w = (.ok next, after) ∧ Scanned [gv] pass next w after := by
  rw [scan, Op.bind_of_ok (Context.stopSet_apply stop w)]
  by_cases set : w.isSet stop = true
  · rw [if_pos set]
    exact ⟨_, _, rfl, .of_failed rfl (Option.some_ne_none _)⟩
  rw [if_neg set]
  by_cases failed : pass.failure.isSome = true
  · rw [if_pos failed]
    exact ⟨_, _, rfl, .of_failed rfl (Option.isSome_iff_ne_none.mp failed)⟩
  · rw [if_neg failed]
    exact attemptScan_scanned unasking locked (Option.not_isSome_iff_eq_none.mp failed) gv

theorem scanAll_scanned (unasking : ctx.IsUnasking) (locked : w.tracker.rebuilding = true)
    (stop : Signal) (pass : Pass) (groupVersions : List GroupVersion) :
    ∃ last after, scanAll ctx stop groupVersions pass w = (.ok last, after) ∧
      Scanned groupVersions pass last w after := by
  induction groupVersions generalizing w pass with
  | nil => exact ⟨pass, w, rfl, rfl, id, fun _ => Unasked.refl w, fun _ key => by simp⟩
  | cons gv rest ih =>
    obtain ⟨next, mid, scanned, here⟩ := scan_scanned unasking locked pass gv
    obtain ⟨last, after, scannedRest, later⟩ := ih (here.lock.trans locked) next
    refine ⟨last, after, ?_, here.trans later⟩
    rw [scanAll, Op.bind_of_ok scanned, scannedRest]

/-- A pass that returns has requested all group-versions, and its keys are theirs. -/
theorem run_asks (unasking : ctx.IsUnasking) (locked : w.tracker.rebuilding = true)
    {listed : List GroupVersion} {collected : Snapshot}
    (returned : run ctx stop listed w = (.ok collected, after)) :
    Asked (listed.map GroupVersion.key) w after ∧
      ∀ key, key ∈ collected.keys ↔ ∃ gv ∈ listed, gv.key = key := by
  obtain ⟨last, mid, scanned, all⟩ := scanAll_scanned unasking locked stop start listed
  rw [run, Op.bind_of_ok scanned, finish] at returned
  cases failure : last.failure with
  | some fault =>
    rw [failure] at returned
    cases (Prod.mk.inj returned).1
  | none =>
    rw [failure] at returned
    dsimp only at returned
    rw [Op.bind_of_ok (Context.stopSet_apply stop mid)] at returned
    cases set : mid.isSet stop with
    | true =>
      rw [set] at returned
      cases (Prod.mk.inj returned).1
    | false =>
      rw [set] at returned
      cases returned
      refine ⟨all.asked failure, fun key => ?_⟩
      rw [all.keys failure]
      simp [start, Snapshot.keys, Snapshot.empty]

end Pass

/-! ## Discovery -/

/-- Listing the group-versions requests no resources. -/
theorem listGroups_asks (unasking : ctx.IsUnasking) (locked : w.tracker.rebuilding = true)
    {listed : List GroupVersion} (returned : listGroups ctx w = (.ok listed, after)) :
    Unasked w after ∧ (ctx.around.groups (.listedGroups :: w.journal)).outcome = .ok listed := by
  have asked := unasking.ask locked .listedGroups ctx.around.groups
  obtain ⟨answered, mid, answers, recorded⟩ := Op.bind_eq_ok returned
  rw [answers] at asked
  cases recorded
  refine ⟨asked.trans (Op.Moves.record_unasked rfl mid), ?_⟩
  rw [Context.ask_apply] at answers
  exact (Prod.mk.inj answers).1

/-- Discovery that returns has requested every group-version listed, and its keys are theirs. -/
theorem discover_asks (unasking : ctx.IsUnasking) (locked : w.tracker.rebuilding = true)
    {collected : Snapshot} (returned : discover ctx stop w = (.ok collected, after)) :
    ∃ listed, (ctx.around.groups (.listedGroups :: w.journal)).outcome = .ok listed ∧
      Asked (listed.map GroupVersion.key) w after ∧
      ∀ key, key ∈ collected.keys ↔ ∃ gv ∈ listed, gv.key = key := by
  obtain ⟨listed, begun, counted, returned⟩ := Op.bind_eq_ok returned
  obtain ⟨unasked, given⟩ := listGroups_asks unasking locked (Op.countingFailure_eq_ok counted)
  obtain ⟨_, logged, logs, returned⟩ := Op.bind_eq_ok returned
  obtain ⟨found, mid, passes, returned⟩ := Op.bind_eq_ok returned
  have loggedUnasked : Unasked begun logged := by
    cases logs
    exact ⟨rfl, rfl⟩
  have before := unasked.trans loggedUnasked
  obtain ⟨asked, keys⟩ := Pass.run_asks unasking (before.lock.trans locked)
    (Op.countingFailure_eq_ok passes)
  have requested : Asked (listed.map GroupVersion.key) w mid := before.trans asked
  cases returned
  exact ⟨listed, given, requested.later ⟨rfl, rfl⟩, keys⟩

end ApiSurface.Tracker
