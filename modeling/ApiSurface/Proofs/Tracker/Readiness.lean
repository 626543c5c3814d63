import ApiSurface.Proofs.Tracker.StepwiseRuns

/-!
# Readiness

A tracker that calls itself ready has data: a discovery pass was completed, and what it put
together is the snapshot in place. So it is wherever a tracker is started while no rebuild is
under way. A start that finds one under way does not wait for it, and then the tracker calls
itself ready whether there is data or not.
-/

namespace ApiSurface

/-- No comparison with the empty snapshot fails. -/
theorem Snapshot.equals_empty_ne_error (s : Snapshot) (kind : Misuse) :
    s.equals Snapshot.empty ≠ .error kind := by
  intro fails
  rw [equals] at fails
  split at fails
  · have keys := sameKeys_iff.mp ‹_›
    cases entries : s.entries with
    | nil =>
      rw [entries] at fails
      cases fails
    | cons entry rest =>
      have member : entry.1 ∈ s.keys := by simp [Snapshot.keys, entries]
      cases (keys entry.1).mp member
  · cases fails

namespace Tracker

/-- A snapshot is what a completed pass put together, up to equality. -/
def Backed (rounds : List Round) (s : Snapshot) : Prop :=
  ∃ round ∈ rounds, ∃ collected, round.answers.merged = .ok collected ∧
    (s = collected ∨ collected.equals s = .ok true)

/-- Once a pass was completed, the snapshot in place is backed by one. -/
theorem Yields.backed {rounds : List Round} {s : Snapshot} (yields : Yields rounds s)
    (completed : rounds ≠ []) : Backed rounds s := by
  induction yields with
  | nothing => exact absurd rfl completed
  | changed prior complete merged differs ended =>
    exact ⟨_, List.mem_cons_self, _, merged, .inl rfl⟩
  | unchanged prior complete merged agrees ended =>
    exact ⟨_, List.mem_cons_self, _, merged, .inr agrees⟩
  | undecided prior complete merged fails ended ih =>
    cases prior with
    | nothing => exact absurd fails (Snapshot.equals_empty_ne_error _ _)
    | changed | unchanged | undecided =>
      obtain ⟨round, member, rest⟩ := ih (List.cons_ne_nil _ _)
      exact ⟨round, List.mem_cons_of_mem _ member, rest⟩

variable {τ : Type}

/-- The snapshot in place is backed by a completed pass. -/
def World.HasData (w : World τ) : Prop := Backed (roundsOf w.journal) w.tracker.snapshot

/-- Completed passes stay on record. -/
theorem roundsOf_ne_nil {earlier later : Journal τ} (before : earlier <:+ later)
    (completed : roundsOf earlier ≠ []) : roundsOf later ≠ [] := by
  obtain ⟨news, rfl⟩ := before
  induction news with
  | nil => exact completed
  | cons entry news ih =>
    have settled : ∀ outcome, ((historyOf (news ++ earlier)).settle outcome).rounds ≠ [] := by
      intro outcome none
      have same := congrArg List.length none
      rw [History.settle, List.length_modifyHead] at same
      exact ih (List.length_eq_zero_iff.mp same)
    change ((historyOf (news ++ earlier)).note entry).rounds ≠ []
    unfold History.note
    split
    · exact ih
    · exact ih
    · exact ih
    · exact List.cons_ne_nil _ _
    · exact settled _
    · exact settled _
    · exact ih

/-- A pass was completed if the tracker is ready, and had been whenever its snapshot was read. -/
structure World.Founded (w : World τ) : Prop where
  ready : w.tracker.ready = true → roundsOf w.journal ≠ []
  readings : ∀ s earlier, .reading s :: earlier <:+ w.journal → roundsOf earlier ≠ []

/-- News without a reading, and without the tracker becoming ready. -/
theorem World.Founded.noted {w w' : World τ} (founded : w.Founded) (news : Journal τ)
    (journal : w'.journal = news ++ w.journal) (unread : ∀ s, .reading s ∉ news)
    (ready : w'.tracker.ready = w.tracker.ready) : w'.Founded where
  ready isReady :=
    roundsOf_ne_nil (journal ▸ List.suffix_append ..) (founded.ready (ready ▸ isReady))
  readings s earlier within := by
    rcases cons_suffix_append (journal ▸ within) with there | ⟨since, _, among⟩
    · exact founded.readings s earlier there
    · exact absurd (among.subset List.mem_cons_self) (unread s)

variable [Scalar τ]

/-- Every step keeps it so. -/
theorem Step.founded {heeded : Option Signal} {kind : Kind} {w w' : World τ}
    (step : Step heeded kind w w') (founded : w.Founded) : w'.Founded := by
  have asked : w.asked.tracker.ready = w.tracker.ready := by rw [w.asked_tracker]
  cases step with
  | becameReady completed => exact ⟨fun _ => completed, founded.readings⟩
  | read ready =>
    refine ⟨fun _ => founded.ready ready, fun s earlier within => ?_⟩
    rcases List.suffix_cons_iff.mp within with here | before
    · obtain ⟨_, rfl⟩ := List.cons.inj here
      exact founded.ready ready
    · exact founded.readings s earlier before
  | @remarked _ entry remark =>
    refine founded.noted [entry] rfl (fun s member => ?_) rfl
    cases List.mem_singleton.mp member
    cases remark
  | @waited _ entry wait =>
    refine founded.noted [entry] rfl (fun s member => ?_) rfl
    cases List.mem_singleton.mp member
    cases wait
  | attempted | dropped => exact founded.noted [_, _] rfl (by simp [Entry.reading]) asked
  | attemptedInVain => exact founded.noted [_, _, _] rfl (by simp [Entry.reading]) asked
  | replaced => exact founded.noted [_, _, _] rfl (by simp [Entry.reading]) rfl
  | skipped | confirmed | relisted => exact founded.noted [_, _] rfl (by simp [Entry.reading]) rfl
  | joined | signalled | began | requested | decoded | applied | opened | registered
  | startedLoop => exact founded.noted [_] rfl (by simp [Entry.reading]) rfl
  | @streamCounted w =>
    by_cases before : 0 < w.tracker.streams
    · exact founded.noted [.counted .reconnects] (if_pos before) (by simp [Entry.reading]) rfl
    · exact founded.noted [] (if_neg before) nofun rfl
  | _ => exact founded.noted [] rfl nofun rfl

/-- So it is in every world that a run comes to. -/
theorem Reachable.founded {settings : Settings τ} {w : World τ} (reachable : Reachable settings w) :
    w.Founded := by
  obtain ⟨clock, steps⟩ := reachable.steps
  refine steps.keeps World.Founded (fun _ => Step.founded) ⟨nofun, fun s earlier within => ?_⟩
  cases List.suffix_nil.mp within

/-! ## Starting -/

omit [Scalar τ]

/-- Where the lock is held it stays held, and neither snapshot nor completed passes change. -/
def World.Waits (w w' : World τ) : Prop :=
  w.tracker.rebuilding = true → w'.tracker.rebuilding = true ∧
    w'.tracker.snapshot = w.tracker.snapshot ∧ roundsOf w'.journal = roundsOf w.journal

instance : IsPreorder (World τ) World.Waits where
  refl _ locked := ⟨locked, rfl, rfl⟩
  trans := by
    intro w w' w'' first second locked
    obtain ⟨locked, snapshot, rounds⟩ := first locked
    obtain ⟨locked, snapshot', rounds'⟩ := second locked
    exact ⟨locked, snapshot'.trans snapshot, rounds'.trans rounds⟩

/-- What is calm under the lock. -/
theorem World.Waits.of_calm {w w' : World τ} (calm : Locked Calm w w') : w.Waits w' := by
  intro locked
  have held := calm locked
  exact ⟨held.quiet.lock.trans locked, held.snapshot, congrArg History.rounds held.viewed⟩

section Start

variable {ctx : Context τ} {given : Option Signal} {w : World τ}

/-- Listing the known definitions changes nothing else under the lock, if no call back does. -/
theorem refreshKnown_waits (calm : ∀ action w, Locked Calm w (ctx.act action w)) :
    (refreshKnown ctx).Moves World.Waits := by
  have asked : (ctx.ask .listedCrds ctx.around.crds).Moves (Locked Calm) :=
    .ask calm (Op.Moves.record_held rfl).locked
  exact .bind (asked.mono .of_calm) fun items =>
    .bind ((collectUids_calm items).locked.mono .of_calm) fun uids w locked => ⟨locked, rfl, rfl⟩

/-- A start that returns makes the tracker ready. If it found the lock free it completed a pass;
else it did nothing about snapshot and passes. -/
theorem start_rounds (lawful : ctx.Lawful Advances)
    (calm : ∀ action w, Locked Calm w (ctx.act action w))
    (returned : (start ctx given w).1 = .ok ()) :
    (start ctx given w).2.tracker.ready = true ∧
      (w.tracker.rebuilding = false → roundsOf (start ctx given w).2.journal ≠ []) ∧
        w.Waits (start ctx given w).2 := by
  obtain ⟨listed, outcome, rebuilt, lists, rebuilds, starts⟩ := start_eq_ok returned
  have lock : (w.adopted given).tracker.rebuilding = w.tracker.rebuilding := by cases given <;> rfl
  have listing : Advances (w.adopted given) listed := by
    have moved : Advances (w.adopted given) (refreshKnown ctx (w.adopted given)).2 :=
      lawful.refreshKnown _
    rwa [lists] at moved
  rw [starts]
  refine ⟨rfl, fun free => ?_, fun locked => ?_⟩
  · obtain ⟨round, _, rounds⟩ :=
      rebuildDirectly_rounds lawful.calm (listing.lock.trans (lock.trans free)) rebuilds
    exact rounds.symm ▸ List.cons_ne_nil _ _
  · have adopted : w.Waits (w.adopted given) := by
      intro locked
      cases given <;> exact ⟨locked, rfl, rfl⟩
    have refreshed : (w.adopted given).Waits listed := by
      have moved : (w.adopted given).Waits (refreshKnown ctx (w.adopted given)).2 :=
        refreshKnown_waits calm _
      rwa [lists] at moved
    have rebuiltDirectly : listed.Waits rebuilt := by
      have moved : listed.Waits (rebuildDirectly ctx _ listed).2 :=
        .of_calm (rebuildDirectly_locked_calm ctx (some (w.adopted given).tracker.ownStop) listed)
      rwa [rebuilds] at moved
    have looped : rebuilt.Waits rebuilt.readied.looping := fun locked => ⟨locked, rfl, rfl⟩
    exact trans_of _ adopted (trans_of _ refreshed (trans_of _ rebuiltDirectly looped)) locked

end Start

variable [Scalar τ]

/-- A tracker started in a consistent world is ready with data exactly if no rebuild was under way,
or there was data already. -/
theorem start_hasData_iff (around : Surroundings τ) (outer given : Option Signal) (depth : Nat)
    {w : World τ} (consistent : w.Consistent)
    (returned : (start (Context.nested around outer depth) given w).1 = .ok ()) :
    (start (Context.nested around outer depth) given w).2.HasData ↔
      w.tracker.rebuilding = false ∨ w.HasData := by
  have lawful := Context.nested_advances around outer depth
  obtain ⟨_, completes, waits⟩ :=
    start_rounds lawful (Context.nested_locked_calm around outer depth) returned
  have after := (lawful.start given w).consistent consistent
  cases lock : w.tracker.rebuilding with
  | false => exact ⟨fun _ => .inl rfl, fun _ => after.yields.backed (completes lock)⟩
  | true =>
    obtain ⟨_, snapshot, rounds⟩ := waits lock
    rw [World.HasData, World.HasData, snapshot, rounds]
    simp

/-- In every world that a run comes to a ready tracker has data, whoever gets a snapshot from it
gets one that a completed pass put together, up to equality, and so did whoever read it within an
operation. Wherever a tracker is started, at rest or within a rebuild, and the start returns, the
tracker is ready, and it has data exactly if no rebuild was under way or it had data before. -/
theorem Reachable.ready_has_data {settings : Settings τ} {w : World τ}
    (reachable : Reachable settings w) :
    (w.tracker.ready = true → w.HasData) ∧
    (∀ s after, getSnapshot w = (.ok s, after) → Backed (roundsOf w.journal) s) ∧
    (∀ s earlier, .reading s :: earlier <:+ w.journal → Backed (roundsOf earlier) s) ∧
    ∀ around outer given depth (mid : World τ), mid.Consistent →
      (start (Context.nested around outer depth) given mid).1 = .ok () →
        (start (Context.nested around outer depth) given mid).2.tracker.ready = true ∧
          ((start (Context.nested around outer depth) given mid).2.HasData ↔
            mid.tracker.rebuilding = false ∨ mid.HasData) := by
  obtain ⟨consistent, _⟩ := reachable.consistent
  have founded := reachable.founded
  have hasData : w.tracker.ready = true → w.HasData := fun ready =>
    consistent.yields.backed (founded.ready ready)
  refine ⟨hasData, fun s after read => ?_, fun s earlier within => ?_,
    fun around outer given depth mid consistent returned => ⟨?_, ?_⟩⟩
  · cases ready : w.tracker.ready with
    | false =>
      rw [getSnapshot_of_not_ready ready] at read
      cases read
    | true =>
      rw [getSnapshot_of_ready ready] at read
      cases read
      exact hasData ready
  · exact (consistent.readings s earlier within).backed (founded.readings s earlier within)
  · exact (start_rounds (Context.nested_advances around outer depth)
      (Context.nested_locked_calm around outer depth) returned).1
  · exact start_hasData_iff around outer given depth consistent returned

/-- A tracker that was started hands out what its first pass put together. -/
theorem ready_has_data_after_start :
    let core : GroupVersion := ⟨"", "v1"⟩
    let listing : Listing := some [.ofTexts "pods" true "Pod" ["get", "list"]]
    let request : Request Rat :=
      { around := .steady (.ok [core]) (fun _ => .ok listing) (.ok []), given := none, depth := 1
        operation := .start }
    let w := (request.perform (World.fresh .exact 0)).2
    Reachable .exact w ∧ w.tracker.ready = true ∧ w.HasData ∧
      w.tracker.snapshot.keys = [core.key] := by
  intro core listing request w
  have reachable : Reachable .exact w := .performed (.fresh (by decide) (by decide) 0) request
  have ready : w.tracker.ready = true := rfl
  exact ⟨reachable, ready, (Reachable.ready_has_data reachable).1 ready, rfl⟩

/-- A tracker started while its first rebuild is under way calls itself ready, and hands out an
empty snapshot although no pass was completed. Nothing is set by hand: another rebuild has taken
the lock, as in `World.begun`, and the flag is raised by `start` itself. -/
theorem ready_without_data :
    let around : Surroundings Rat := .steady (.ok [⟨"", "v1"⟩]) (fun _ => .ok none) (.ok [])
    let w := (World.fresh .exact 0).begun
    let after := (start (Context.nested around none 1) none w).2
    w.Consistent ∧ (start (Context.nested around none 1) none w).1 = .ok () ∧
      after.tracker.ready = true ∧ roundsOf after.journal = [] ∧
        (getSnapshot after).1 = .ok Snapshot.empty := by
  intro around w after
  have consistent : (World.fresh .exact (0 : Rat)).Consistent :=
    (Reachable.fresh (by decide) (by decide) 0).consistent.1
  exact ⟨consistent.begun, rfl, rfl, rfl, rfl⟩

end Tracker

end ApiSurface
