import ApiSurface.Proofs.Tracker.History
import ApiSurface.Proofs.Tracker.Ledger
import ApiSurface.Proofs.Tracker.Moves
import ApiSurface.Tracker.Lifecycle

/-!
# Consistent worlds

In a consistent world the snapshot in place is the one that the history of rebuilds
leaves there, and so was every snapshot that was read from inside a running operation.
`Advances` is what every operation does to the world and `Quiet` what calls back into
the tracker do; both keep a consistent world consistent.
-/

namespace ApiSurface.Tracker

variable {τ : Type}

/-- A snapshot that was read, put on record. -/
def Entry.reading (s : Snapshot) : Entry τ := .acted .readSnapshot (.ok (.snapshot s))

/-- Whoever read the snapshot was given what the history of rebuilds had left behind by then. -/
def ReadingsSound (journal : Journal τ) : Prop :=
  ∀ s earlier, .reading s :: earlier <:+ journal → Yields (roundsOf earlier) s

/-- One more entry that is no reading keeps the readings sound. -/
theorem ReadingsSound.cons {journal : Journal τ} (sound : ReadingsSound journal) {entry : Entry τ}
    (unread : ∀ s, entry ≠ .reading s) : ReadingsSound (entry :: journal) := by
  intro s earlier within
  rcases List.suffix_cons_iff.mp within with here | before
  · exact absurd (List.cons.inj here).1.symm (unread s)
  · exact sound s earlier before

/-- The tracker holds what the history of rebuilds left behind, and so did whatever was read. -/
structure World.Consistent (w : World τ) : Prop where
  yields : Yields (roundsOf w.journal) w.tracker.snapshot
  gauge : w.tracker.groupVersionsGauge = w.tracker.snapshot.size
  readings : ReadingsSound w.journal

/-- An entry that tells of a change of the tracker made outside a pass, of who is told of it, or of
a failure of someone who was told. -/
def Entry.isEventful : Entry τ → Bool
  | counted .subscriberErrors => true
  | installed _ => true
  | subscribed => true
  | notified _ => true
  | told _ => true
  | untold => true
  | replacedKnown _ => true
  | applied _ => true
  | _ => false

/-- An entry that says nothing of rebuilds, tells of no change, is no call back into the tracker
and does not go into the ledger. -/
def Entry.isPlain : Entry τ → Bool
  | answeredGroups _ => false
  | answeredResources _ _ => false
  | completedPass _ => false
  | acted _ _ => false
  | asked _ _ => false
  | entry => !entry.isEventful && !entry.isBooked

/-- A plain entry tells of no change and does not go into the ledger. -/
theorem Entry.uneventful_unbooked_of_plain {entry : Entry τ} (plain : entry.isPlain = true) :
    entry.isEventful = false ∧ entry.isBooked = false := by
  unfold isPlain at plain
  split at plain
  case h_6 => simpa using plain
  all_goals cases plain

/-- A plain entry tells of no change. -/
theorem Entry.uneventful_of_plain {entry : Entry τ} (plain : entry.isPlain = true) :
    entry.isEventful = false := (uneventful_unbooked_of_plain plain).1

/-- Whatever is logged with another severity is no attempt to rebuild. -/
theorem Entry.logged_plain {entry : LogEntry} (severity : entry.severity ≠ .debug) :
    (Entry.logged entry : Entry τ).isPlain = true := by
  have other : (entry == ⟨.debug, "API resource collection already in progress; skipping"⟩) =
      false := by
    refine beq_false_of_ne ?_
    rintro rfl
    exact severity rfl
  simp [isPlain, isEventful, isBooked, isAttempt, other]

/-- A plain entry leaves the history as it is. -/
theorem History.note_of_plain {entry : Entry τ} (plain : entry.isPlain = true) (history : History) :
    history.note entry = history := by
  cases entry with
  | counted counter =>
    cases counter with
    | changed | unchanged => cases plain
    | _ => rfl
  | beganRebuild | answeredGroups | answeredResources | completedPass => cases plain
  | _ => rfl

theorem Entry.ne_reading_of_plain {entry : Entry τ} (plain : entry.isPlain = true) (s : Snapshot) :
    entry ≠ .reading s := by
  rintro rfl
  cases plain

namespace World.Consistent

variable {w : World τ}

/-- A consistent world stays consistent under an entry that keeps the completed passes as they
are and is no reading. -/
theorem noted (consistent : w.Consistent) (entry : Entry τ)
    (rounds : roundsOf (entry :: w.journal) = roundsOf w.journal)
    (unread : ∀ s, entry ≠ .reading s) :
    World.Consistent { w with journal := entry :: w.journal } where
  yields := rounds.symm ▸ consistent.yields
  gauge := consistent.gauge
  readings := consistent.readings.cons unread

/-- Reading the snapshot in place keeps a consistent world consistent. -/
theorem noted_reading (consistent : w.Consistent) :
    World.Consistent { w with journal := .reading w.tracker.snapshot :: w.journal } where
  yields := consistent.yields
  gauge := consistent.gauge
  readings s earlier within := by
    rcases List.suffix_cons_iff.mp within with here | before
    · obtain ⟨same, rfl⟩ := List.cons.inj here
      cases same
      exact consistent.yields
    · exact consistent.readings s earlier before

end World.Consistent

/-! ## New trackers -/

/-- The world around a tracker that was just made. -/
def World.fresh (settings : Settings τ) (clock : τ) : World τ where
  tracker :=
    { settings
      snapshot := Snapshot.empty
      known := Crd.IdentitySet.empty
      subscribers := []
      limiter := { interval := settings.rateLimit, last := none }
      rebuilding := false
      ready := false
      ownStop := 0
      loops := []
      watching := false
      streams := 0
      crdsGauge := 0
      groupVersionsGauge := 0 }
  raised := []
  nextSignal := 1
  clock := clock
  journal := []

/-- The default settings, with times that are exact. -/
def Settings.exact : Settings Rat where
  rateLimit := .whole 5
  collectionInterval := .whole 30
  fullRescanInterval := .whole 900
  workers := 16
  watchTimeout := .whole 300

/-- Where settings are accepted, the tracker made with them is the fresh one. -/
theorem World.create_eq_ok_iff [Scalar τ] {settings : Settings τ} {clock : τ} {w : World τ} :
    World.create settings clock = .ok w ↔
      1 ≤ settings.workers ∧ settings.rateLimit.isNegative = false ∧
        w = World.fresh settings clock := by
  unfold World.create State.create Limiter.create
  by_cases workers : settings.workers < 1
  · simp [workers, Bind.bind, Except.bind, Int.not_le.mpr workers]
  · cases negative : settings.rateLimit.isNegative
    · simp [workers, Bind.bind, Except.bind, Int.not_lt.mp workers, World.fresh, eq_comm]
    · simp [workers, Bind.bind, Except.bind]

/-- A tracker that was just made holds the empty snapshot, and nothing was rebuilt or read. -/
theorem World.consistent_fresh (settings : Settings τ) (clock : τ) :
    (World.fresh settings clock).Consistent where
  yields := .nothing
  gauge := rfl
  readings s earlier within := by cases List.suffix_nil.mp within

/-! ## What every operation does -/

/-- The journal and the stop signals set only grow, the lock is as before, and a consistent
world stays consistent. -/
structure Advances (w w' : World τ) : Prop where
  journal : w.journal <:+ w'.journal
  raised : ∀ {signal}, w.isSet signal = true → w'.isSet signal = true
  lock : w'.tracker.rebuilding = w.tracker.rebuilding
  consistent : w.Consistent → w'.Consistent

namespace Advances

variable {w w' w'' : World τ}

theorem refl (w : World τ) : Advances w w :=
  ⟨List.suffix_refl _, id, rfl, id⟩

theorem trans (first : Advances w w') (second : Advances w' w'') : Advances w w'' where
  journal := first.journal.trans second.journal
  raised := second.raised ∘ first.raised
  lock := second.lock.trans first.lock
  consistent := second.consistent ∘ first.consistent

instance : IsPreorder (World τ) Advances where
  refl := refl
  trans _ _ _ := trans

/-- A signal that is not set was not set before. -/
theorem unset (advances : Advances w w') {signal : Signal} (unset : w'.isSet signal = false) :
    w.isSet signal = false := by
  cases before : w.isSet signal with
  | false => rfl
  | true => exact absurd (advances.raised before) (by simp [unset])

/-- An entry that keeps the completed passes as they are and is no reading. -/
theorem noted (entry : Entry τ) (rounds : roundsOf (entry :: w.journal) = roundsOf w.journal)
    (unread : ∀ s, entry ≠ .reading s) :
    Advances w { w with journal := entry :: w.journal } where
  journal := List.suffix_cons ..
  raised := id
  lock := rfl
  consistent consistent := consistent.noted entry rounds unread

/-- A change of what neither the lock nor the snapshot is about. -/
theorem updated {tracker : State τ} (snapshot : tracker.snapshot = w.tracker.snapshot)
    (gauge : tracker.groupVersionsGauge = w.tracker.groupVersionsGauge)
    (lock : tracker.rebuilding = w.tracker.rebuilding) :
    Advances w { w with tracker := tracker } where
  journal := List.suffix_refl _
  raised := id
  lock := lock
  consistent consistent :=
    { yields := snapshot.symm ▸ consistent.yields
      gauge := by rw [gauge, snapshot, consistent.gauge]
      readings := consistent.readings }

/-- Time passes. -/
theorem elapsed (time : τ) : Advances w { w with clock := time } :=
  ⟨List.suffix_refl _, id, rfl, fun consistent =>
    ⟨consistent.yields, consistent.gauge, consistent.readings⟩⟩

/-- A stop signal is set. -/
theorem signalled (signal : Signal) : Advances w (w.set signal) where
  journal := List.suffix_cons ..
  raised := by
    intro other set
    rw [World.isSet, List.contains_iff_mem] at set ⊢
    unfold World.set
    split
    · exact set
    · exact List.mem_append_left _ set
  lock := rfl
  consistent consistent :=
    { yields := consistent.yields
      gauge := consistent.gauge
      readings := (consistent.noted (.signalled signal) rfl nofun).readings }

end Advances

/-! ## What calls back into the tracker do -/

/-- What calls back into the tracker leave alone besides: the known definitions, whether the
tracker is ready, and which stop signal is its own. -/
structure Quiet (w w' : World τ) : Prop extends Advances w w' where
  known : w'.tracker.known = w.tracker.known
  ready : w'.tracker.ready = w.tracker.ready
  ownStop : w'.tracker.ownStop = w.tracker.ownStop

namespace Quiet

variable {w w' w'' : World τ}

theorem refl (w : World τ) : Quiet w w := ⟨.refl w, rfl, rfl, rfl⟩

theorem trans (first : Quiet w w') (second : Quiet w' w'') : Quiet w w'' where
  toAdvances := first.toAdvances.trans second.toAdvances
  known := second.known.trans first.known
  ready := second.ready.trans first.ready
  ownStop := second.ownStop.trans first.ownStop

instance : IsPreorder (World τ) Quiet where
  refl := refl
  trans _ _ _ := trans

/-- A plain entry. -/
theorem plain {entry : Entry τ} (plain : entry.isPlain = true) :
    Quiet w { w with journal := entry :: w.journal } where
  toAdvances :=
    .noted _ (congrArg History.rounds (History.note_of_plain plain _))
      (Entry.ne_reading_of_plain plain)
  known := rfl
  ready := rfl
  ownStop := rfl

end Quiet

end ApiSurface.Tracker
