import ApiSurface.Proofs.Tracker.Operations

/-!
# Streams that were opened

Only a watch counts streams, reconnects and errors of streams, and only an event that is
handled is applied: rebuilds and whatever calls back do leave all of this alone. So every
stream but the first is a reconnect.
-/

namespace ApiSurface.Tracker

variable {τ : Type} {ctx : Context τ} {given : Option Signal} {w w' w'' : World τ}

/-- The event that was applied, if an entry says that one was. -/
def Entry.applied? : Entry τ → Option CrdEvent
  | applied event => some event
  | _ => none

/-- The events that were applied, the newest first. -/
def appliedIn (journal : Journal τ) : List CrdEvent := journal.filterMap Entry.applied?

/-- Between these worlds no stream was counted, opened or went wrong, and no event was applied. -/
structure Unstreamed (w w' : World τ) : Prop where
  errors : countOf .watchErrors w'.journal = countOf .watchErrors w.journal
  reconnects : countOf .reconnects w'.journal = countOf .reconnects w.journal
  openings : openingsIn w'.journal = openingsIn w.journal
  streams : w'.tracker.streams = w.tracker.streams
  applied : appliedIn w'.journal = appliedIn w.journal

theorem Unstreamed.trans (first : Unstreamed w w') (second : Unstreamed w' w'') :
    Unstreamed w w'' where
  errors := second.errors.trans first.errors
  reconnects := second.reconnects.trans first.reconnects
  openings := second.openings.trans first.openings
  streams := second.streams.trans first.streams
  applied := second.applied.trans first.applied

/-- Entries that tell of no change say of no event that it was applied. -/
theorem Uneventful.appliedIn {news : Journal τ} (uneventful : Uneventful news)
    (earlier : Journal τ) : appliedIn (news ++ earlier) = appliedIn earlier := by
  have none : news.filterMap Entry.applied? = [] := by
    refine List.filterMap_eq_nil_iff.mpr fun entry member => ?_
    have here := uneventful entry member
    cases entry with
    | applied => cases here
    | _ => rfl
  rw [Tracker.appliedIn, List.filterMap_append, none]
  rfl

/-- Under the lock no stream is touched and no event applied. -/
theorem Held.unstreamed {β : Type} {view : History → β} (held : Held view w w') :
    Unstreamed w w' where
  errors := congrArg Ledger.watchErrors held.booked
  reconnects := congrArg Ledger.reconnects held.booked
  openings := congrArg Ledger.openings held.booked
  streams := by rw [held.tracker_eq]
  applied := by
    obtain ⟨news, journal, _, uneventful⟩ := held.received
    rw [journal]
    exact uneventful.appliedIn w.journal

instance : Aloof (Unstreamed : World τ → World τ → Prop) where
  refl _ := ⟨rfl, rfl, rfl, rfl, rfl⟩
  trans _ _ _ := .trans
  ofCalm := Held.unstreamed
  ofNotice := by
    intro entry w notice
    obtain rfl | ⟨name, rfl⟩ | ⟨place, rfl⟩ | rfl := Entry.isNotice_cases notice
    all_goals exact ⟨rfl, rfl, rfl, rfl, rfl⟩
  ofHeld := Held.unstreamed
  ofBegun := ⟨rfl, rfl, rfl, rfl, rfl⟩
  ofFailed := ⟨rfl, rfl, rfl, rfl, rfl⟩
  ofUndecided _ := ⟨rfl, rfl, rfl, rfl, rfl⟩
  ofUnchanged _ := ⟨rfl, rfl, rfl, rfl, rfl⟩
  ofChanged _ := ⟨rfl, rfl, rfl, rfl, rfl⟩

/-- As many streams were counted as were opened, and each but the first was a reconnect. -/
structure World.Connected (w : World τ) : Prop where
  streams : w.tracker.streams = openingsIn w.journal
  reconnects : countOf .reconnects w.journal = openingsIn w.journal - 1

namespace World.Connected

theorem kept (connected : w.Connected) (unstreamed : Unstreamed w w') : w'.Connected where
  streams := by rw [unstreamed.streams, unstreamed.openings, connected.streams]
  reconnects := by rw [unstreamed.reconnects, unstreamed.openings, connected.reconnects]

/-- A stream is counted as a reconnect, if it is not the first, and opened. -/
theorem opened (connected : w.Connected) : w.streamCounted.opened.Connected := by
  obtain ⟨streams, reconnects⟩ := connected
  have openings : openingsIn w.streamCounted.opened.journal = openingsIn w.journal + 1 := by
    unfold World.streamCounted World.opened
    dsimp only
    split <;> simp [openingsIn_cons, Entry.isOpening]
  have counted : countOf .reconnects w.streamCounted.opened.journal =
      countOf .reconnects w.journal + if 0 < w.tracker.streams then 1 else 0 := by
    unfold World.streamCounted World.opened
    dsimp only
    split <;> simp [countOf_cons, Entry.isCount]
  refine ⟨?_, ?_⟩
  · rw [openings, ← streams]
    rfl
  · rw [counted, openings, reconnects, streams]
    split <;> omega

end World.Connected

section Runs

variable [Scalar τ]

/-- Handling an event applies it, whatever comes of it. -/
theorem Context.Lawful.applied (lawful : ctx.Lawful Unstreamed) (event : CrdEvent)
    (given : Option Signal) (w : World τ) :
    appliedIn (Tracker.handleEvent ctx event given w).2.journal = event :: appliedIn w.journal ∧
      countOf .watchErrors (Tracker.handleEvent ctx event given w).2.journal =
        countOf .watchErrors w.journal := by
  rcases lawful.afterReceived event given w with ⟨_, ends⟩ | ⟨_, after⟩
  · rw [ends]
    exact ⟨rfl, rfl⟩
  · exact ⟨after.applied, after.errors⟩

instance : Following (Keeps (World.Connected (τ := τ))) where
  ofCalm calm connected := connected.kept calm.unstreamed
  ofReplayed _ connected := ⟨connected.streams, connected.reconnects⟩
  ofLearned _ connected := ⟨connected.streams, connected.reconnects⟩
  ofTuned tuned connected := ⟨tuned.streams.trans connected.streams, connected.reconnects⟩
  ofSignal connected := ⟨connected.streams, connected.reconnects⟩
  ofRegistered _ connected := ⟨connected.streams, connected.reconnects⟩
  ofRelisted _ connected := ⟨connected.streams, connected.reconnects⟩
  ofOpened connected := connected.opened
  ofStreamFailed connected := ⟨connected.streams, connected.reconnects⟩

/-- In every world that a run comes to, each stream but the first was a reconnect. -/
theorem Reachable.connected {settings : Settings τ} (reachable : Reachable settings w) :
    w.Connected :=
  reachable.keeps (fun _ => ⟨rfl, rfl⟩) fun unstreamed connected =>
    connected.kept unstreamed

end Runs

end ApiSurface.Tracker
