import ApiSurface.Proofs.Tracker.Calls
import ApiSurface.Tracker.Watch

/-!
# What one event does

An event is put on record, and an addition makes its definition known. Then there are
three cases: the addition of a known definition is a replay and ends there, a change of a
definition that is being torn down is held back, and every other event asks the limiter
for a rebuild.
-/

namespace ApiSurface

/-- The identities known once an event was noted: an addition adds its own. -/
def Crd.IdentitySet.noted (known : Crd.IdentitySet) (event : CrdEvent) : Crd.IdentitySet :=
  if event.change = .added then known.insert event.crd.uid else known

/-- Adding what is known changes nothing. -/
theorem Crd.IdentitySet.insert_of_contains {known : Crd.IdentitySet} {uid : Text}
    (contains : known.contains uid = true) : known.insert uid = known :=
  dif_pos (contains_iff.mp contains)

/-- What an event leaves known. -/
theorem Crd.IdentitySet.contains_noted {known : Crd.IdentitySet} {event : CrdEvent}
    {uid : Text} :
    (known.noted event).contains uid = true ↔
      known.contains uid = true ∨ event.change = .added ∧ uid = event.crd.uid := by
  rw [Crd.IdentitySet.noted]
  split
  next added => simp [Crd.IdentitySet.contains_iff, Crd.IdentitySet.mem_insert, added]
  next other => simp [other]

/-- An event that is held back: anything but the deletion of a definition being torn down. -/
def CrdEvent.HeldBack (event : CrdEvent) : Prop :=
  event.crd.terminating = true ∧ event.change ≠ .deleted

instance (event : CrdEvent) : Decidable event.HeldBack := instDecidableAnd

namespace Tracker

variable {τ : Type}

/-- An event that repeats what is known: the addition of a known definition. -/
def State.Repeats (tracker : State τ) (event : CrdEvent) : Prop :=
  event.change = .added ∧ tracker.known.contains event.crd.uid = true

instance (tracker : State τ) (event : CrdEvent) : Decidable (tracker.Repeats event) :=
  instDecidableAnd

namespace World

/-- The world in which an event was applied to what is known. -/
def applied (w : World τ) (event : CrdEvent) : World τ :=
  { w with
      tracker := { w.tracker with known := w.tracker.known.noted event }
      journal := .applied event :: w.journal }

/-- The world in which an event was announced. -/
def heard (w : World τ) (event : CrdEvent) : World τ :=
  { w with
      journal :=
        .logged ⟨.debug, "CRD watch event " ++ event.change.name ++ " for " ++ event.crd.name ++
          " (uid=" ++ event.crd.uid ++ ")"⟩ :: w.journal }

/-- The world in which an event was announced and applied to what is known. -/
def received (w : World τ) (event : CrdEvent) : World τ := (w.heard event).applied event

/-- The world in which the gauge of known definitions is right. -/
def gauged (w : World τ) : World τ :=
  { w with tracker := { w.tracker with crdsGauge := w.tracker.known.size } }

/-- The world in which an event was held back. -/
def heldBack (w : World τ) (event : CrdEvent) : World τ :=
  { w with
      journal :=
        .logged ⟨.info,
          "Skipping API resource collection for terminating CRD " ++ event.crd.name⟩ :: w.journal }

end World

/-- A repeated addition leaves what is known as it is. -/
theorem State.Repeats.known_noted {tracker : State τ} {event : CrdEvent}
    (repeats : tracker.Repeats event) : tracker.known.noted event = tracker.known := by
  rw [Crd.IdentitySet.noted, if_pos repeats.1,
    Crd.IdentitySet.insert_of_contains repeats.2]

/-- Noting the identity of an event that is on record: told is whether it repeats what is known. -/
theorem noteIdentity_apply (event : CrdEvent) (w : World τ) :
    noteIdentity event { w with journal := .applied event :: w.journal } =
      (.ok (!decide (w.tracker.Repeats event)), w.applied event) := by
  unfold noteIdentity World.applied Crd.IdentitySet.noted
  by_cases added : event.change = .added
  · rw [if_pos added, Op.bind_apply, Op.tracker]
    cases contains : w.tracker.known.contains event.crd.uid
    · simp [State.Repeats, added, contains, Op.bind_apply, Op.update_apply, Op.pure_apply]
    · simp [State.Repeats, added, contains, Op.pure_apply,
        Crd.IdentitySet.insert_of_contains contains]
  · simp [State.Repeats, added, Op.pure_apply]

variable [Scalar τ] {ctx : Context τ} {given : Option Signal} {event : CrdEvent} {w : World τ}

/-- An event that repeats what is known asks for nothing. -/
theorem handleEvent_of_repeats (repeats : w.tracker.Repeats event) :
    handleEvent ctx event given w = (.ok false, w.received event) := by
  have noted := noteIdentity_apply event (w.heard event)
  have again : (w.heard event).tracker.Repeats event := repeats
  rw [decide_eq_true again] at noted
  exact Op.bind_of_ok noted

/-- An event that is news is answered. -/
theorem handleEvent_of_news (news : ¬ w.tracker.Repeats event) :
    handleEvent ctx event given w = answerEvent ctx event given (w.received event) := by
  have noted := noteIdentity_apply event (w.heard event)
  have stillNews : ¬ (w.heard event).tracker.Repeats event := news
  rw [decide_eq_false stillNews] at noted
  exact Op.bind_of_ok noted

/-- An event that is held back makes the gauge right and asks for nothing. -/
theorem answerEvent_of_heldBack (held : event.HeldBack) :
    answerEvent ctx event given w = (.ok false, w.gauged.heldBack event) := by
  have condition : (event.crd.terminating && event.change != .deleted) = true := by
    simpa [CrdEvent.HeldBack] using held
  rw [answerEvent, Op.bind_of_ok (Op.update_apply ..), if_pos condition]
  rfl

/-- An event that is not held back makes the gauge right and asks the limiter. -/
theorem answerEvent_of_change (change : ¬ event.HeldBack) :
    answerEvent ctx event given w =
      (trigger ctx (some (w.tracker.stopOr given)) >>= fun _ => pure true) w.gauged := by
  have condition : ¬ (event.crd.terminating && event.change != .deleted) = true := by
    simpa [CrdEvent.HeldBack] using change
  rw [answerEvent, Op.bind_of_ok (Op.update_apply ..), if_neg condition]
  exact Op.bind_of_ok (stopOr_apply given w.gauged)

end Tracker

end ApiSurface
