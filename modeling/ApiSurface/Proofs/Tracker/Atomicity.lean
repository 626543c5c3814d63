import ApiSurface.Proofs.Tracker.Rebuild

/-!
# Failed and skipped rebuilds

A rebuild that fails, for whatever reason and however late, leaves the tracker as it
was and gives the lock back. What the surroundings themselves did to the tracker while
they were asked is theirs: it is what the journal says of their calls. A rebuild that
finds the lock taken asks for nothing and leaves the lock to its holder.
-/

namespace ApiSurface.Tracker

variable {τ : Type}

/-- Whether an entry is a call back into the tracker, or the limiter's answer to one. -/
def Entry.isCall : Entry τ → Bool
  | acted _ _ => true
  | asked _ _ => true
  | _ => false

/-- Without calls nothing is received. -/
theorem State.receiveAll_of_no_call {news : Journal τ} (none : ∀ entry ∈ news, entry.isCall = false)
    (tracker : State τ) : tracker.receiveAll news = tracker := by
  induction news with
  | nil => rfl
  | cons entry earlier ih =>
    have here := none entry List.mem_cons_self
    have before := ih fun other member => none other (List.mem_cons_of_mem _ member)
    change (tracker.receiveAll earlier).receive entry = tracker
    rw [before]
    unfold receive
    split
    case h_4 => rfl
    all_goals cases here

/-- What is received does not depend on the lock, and leaves it alone. -/
theorem State.receiveAll_locked (tracker : State τ) (held : Bool) (news : Journal τ) :
    State.receiveAll { tracker with rebuilding := held } news =
      { tracker.receiveAll news with rebuilding := held } := by
  induction news with
  | nil => rfl
  | cons entry earlier ih =>
    change (State.receiveAll { tracker with rebuilding := held } earlier).receive entry =
      { (tracker.receiveAll earlier).receive entry with rebuilding := held }
    rw [ih]
    unfold receive
    split <;> rfl

/-- A pass under the lock, with the lock given back at its end, does to the tracker what the
calls did and nothing else. -/
theorem Held.released {β : Type} {view : History → β} {w mid : World τ}
    (held : Held view w.begun mid) (free : w.tracker.rebuilding = false) :
    ∃ news, mid.journal = news ++ w.journal ∧
      mid.released.tracker = w.tracker.receiveAll news := by
  obtain ⟨news, journal, tracker, _⟩ := held.received
  refine ⟨news ++ [.beganRebuild], ?_, ?_⟩
  · rw [journal, World.begun, List.append_assoc, List.singleton_append]
  · have kept :
        w.tracker.receiveAll news = { w.tracker.receiveAll news with rebuilding := false } := by
      rw [w.tracker.receiveAll_eq news, free]
    rw [State.receiveAll_append]
    change { mid.tracker with rebuilding := false } = w.tracker.receiveAll news
    rw [tracker, World.begun, State.receiveAll_locked, kept]

/-- A failed rebuild does to the tracker what the calls did that came back while it lasted, and
nothing else. -/
theorem Rebuilt.received_of_error {ctx : Context τ} {stop : Signal} {w after : World τ}
    {fault : Fault} (rebuilt : Rebuilt ctx stop w (.error fault) after)
    (free : w.tracker.rebuilding = false) :
    ∃ news, after.journal = news ++ w.journal ∧ after.tracker = w.tracker.receiveAll news := by
  cases rebuilt with
  | failed held hindered =>
    obtain ⟨news, journal, tracker⟩ := held.released free
    exact ⟨.counted .failed :: news, congrArg (List.cons _) journal, tracker⟩
  | @undecided collected mid kind pass fails =>
    obtain ⟨news, journal, tracker⟩ := pass.held.released free
    exact ⟨.completedPass collected :: news, congrArg (List.cons _) journal, tracker⟩

variable [Scalar τ]

/-- Rebuilding is atomic in failure. A rebuild that fails leaves the snapshot, the known
definitions, the readiness and the gauge as they were and the lock free; of the rest of the
tracker it leaves as it was whatever the surroundings did not change themselves by calling back,
and all of it if they made no call. A rebuild that finds the lock taken is skipped with nothing
but a log entry and a count. -/
theorem rebuild_fails_atomically (around : Surroundings τ) (outer given : Option Signal)
    (depth : Nat) (w : World τ) :
    (∀ fault after, rebuild (Context.nested around outer depth) given w = (.error fault, after) →
      after.tracker.snapshot = w.tracker.snapshot ∧
      after.tracker.known = w.tracker.known ∧
      after.tracker.ready = w.tracker.ready ∧
      after.tracker.groupVersionsGauge = w.tracker.groupVersionsGauge ∧
      after.tracker.rebuilding = false ∧
      ∃ news, after.journal = news ++ w.journal ∧ after.tracker = w.tracker.receiveAll news ∧
        ((∀ entry ∈ news, entry.isCall = false) → after.tracker = w.tracker)) ∧
    (w.tracker.rebuilding = true →
      rebuild (Context.nested around outer depth) given w =
        (.ok .skipped,
          { w with
              journal :=
                .counted .skipped ::
                  .logged ⟨.debug, "API resource collection already in progress; skipping"⟩ ::
                    w.journal })) := by
  refine ⟨fun fault after failed => ?_, fun locked => rebuild_of_locked _ given locked⟩
  have free : w.tracker.rebuilding = false := by
    rw [Bool.eq_false_iff]
    intro locked
    rw [rebuild_of_locked _ given locked] at failed
    cases failed
  have rebuilt := rebuild_spec (Context.nested_locked_calm around outer depth) given free
  rw [failed] at rebuilt
  obtain ⟨news, journal, tracker⟩ := rebuilt.received_of_error free
  have kept := tracker.trans (w.tracker.receiveAll_eq news)
  refine ⟨?_, ?_, ?_, ?_, ?_, news, journal, tracker, fun none => ?_⟩
  · rw [kept]
  · rw [kept]
  · rw [kept]
  · rw [kept]
  · rw [kept, free]
  · rw [tracker, State.receiveAll_of_no_call none]

/-- The second of two listings is refused after the first was scanned, and the new tracker is as it
was; with the lock taken, the rebuild is skipped. -/
theorem rebuild_refused_keeps_tracker :
    let core : GroupVersion := ⟨"", "v1"⟩
    let apps : GroupVersion := ⟨"apps", "v1"⟩
    let around : Surroundings Rat :=
      .steady (.ok [core, apps])
        (fun key => if key = core.key then .ok none else .error .noAttempts) (.ok [])
    let w := World.fresh .exact 0
    (∃ after, rebuild (Context.nested around none 1) none w = (.error .noAttempts, after) ∧
      after.tracker.snapshot = Snapshot.empty ∧ after.tracker.rebuilding = false) ∧
    w.begun.tracker.rebuilding = true ∧
      (rebuild (Context.nested around none 1) none w.begun).1 = .ok .skipped := by
  intro core apps around w
  have failed : rebuild (Context.nested around none 1) none w = (.error .noAttempts, _) :=
    Prod.ext rfl rfl
  obtain ⟨snapshot, _, _, _, lock, _⟩ :=
    (rebuild_fails_atomically around none none 1 w).1 _ _ failed
  have skipped := (rebuild_fails_atomically around none none 1 w.begun).2 rfl
  exact ⟨⟨_, failed, snapshot, lock⟩, rfl, congrArg Prod.fst skipped⟩

end ApiSurface.Tracker
