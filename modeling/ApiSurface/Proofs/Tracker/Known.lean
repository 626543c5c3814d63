import Mathlib.Tactic.Tauto
import ApiSurface.Proofs.Tracker.Operations

/-!
# What is known

The journal says which definitions were listed last and which were added since, and these
are the ones that are known: a listing that succeeds replaces all that was known, an
addition adds its own definition, and nothing else makes a difference.
-/

namespace ApiSurface.Tracker

variable {τ : Type} {ctx : Context τ} {w after : World τ}

/-! ## Listing the definitions -/

/-- An object listed as a definition that can be read, or that is left out for want of an
identity. -/
def Readable (item : Value) : Prop := ∀ kind, Crd.Info.ofValue item ≠ .error (.misuse kind)

/-- The UID of a listed object, if it has one. -/
def uidOf? (item : Value) : Option Text :=
  match Crd.Info.ofValue item with
  | .ok info => some info.uid
  | .error _ => none

/-- From readable objects the UIDs are collected in order, and nothing is done but to warn of
those without. -/
theorem collectUids_apply {items : List Value} (readable : ∀ item ∈ items, Readable item)
    (w : World τ) :
    ∃ after, Calm w after ∧ collectUids items w = (.ok (items.filterMap uidOf?), after) := by
  induction items generalizing w with
  | nil => exact ⟨w, .refl w, rfl⟩
  | cons item rest ih =>
    have readableRest : ∀ other ∈ rest, Readable other := fun other member =>
      readable other (List.mem_cons_of_mem _ member)
    have here := readable item List.mem_cons_self
    rw [collectUids]
    cases info : Crd.Info.ofValue item with
    | ok read =>
      obtain ⟨after, calm, collected⟩ := ih readableRest w
      refine ⟨after, calm, ?_⟩
      dsimp only
      rw [Op.bind_of_ok collected, List.filterMap_cons, uidOf?, info]
      rfl
    | error fault =>
      cases fault with
      | misuse kind => exact absurd info (here kind)
      | withoutUid =>
        obtain ⟨after, calm, collected⟩ :=
          ih readableRest
            { w with journal := .logged ⟨.warning, "Skipping listed CRD without uid"⟩ :: w.journal }
        refine ⟨after, (Held.plain _ rfl).trans calm, ?_⟩
        dsimp only
        rw [Op.bind_of_ok (Op.log_apply ..), collected, List.filterMap_cons, uidOf?, info]

/-- UIDs that could be collected are those of the listed objects. -/
theorem collectUids_of_ok {items : List Value} {uids : List Text}
    (collected : (collectUids items w).1 = .ok uids) : uids = items.filterMap uidOf? := by
  induction items generalizing uids w with
  | nil =>
    cases collected
    rfl
  | cons item rest ih =>
    rw [collectUids] at collected
    rw [List.filterMap_cons, uidOf?]
    cases info : Crd.Info.ofValue item with
    | error fault =>
      rw [info] at collected
      cases fault with
      | misuse kind => cases collected
      | withoutUid => exact ih collected
    | ok read =>
      rw [info] at collected
      dsimp only at collected ⊢
      cases ends : collectUids rest w with
      | mk result after =>
        cases result with
        | error fault =>
          rw [Op.bind_of_error ends] at collected
          cases collected
        | ok more =>
          have others : more = rest.filterMap uidOf? := ih (congrArg Prod.fst ends)
          rw [Op.bind_of_ok ends, others] at collected
          exact (Except.ok.inj collected).symm

/-! ## What the journal says -/

/-- The UIDs listed last, none if there was no listing yet. -/
def listedIn : Journal τ → List Text
  | [] => []
  | .replacedKnown uids :: _ => uids
  | _ :: earlier => listedIn earlier

/-- The UIDs carried by additions that were applied since the last listing, the newest first. -/
def addedIn : Journal τ → List Text
  | [] => []
  | .replacedKnown _ :: _ => []
  | .applied event :: earlier =>
    if event.change = .added then event.crd.uid :: addedIn earlier else addedIn earlier
  | _ :: earlier => addedIn earlier

/-- What is known is what was listed last and what was added since. -/
def World.Informed (w : World τ) : Prop :=
  ∀ uid, w.tracker.known.contains uid = true ↔ uid ∈ listedIn w.journal ∨ uid ∈ addedIn w.journal

/-- Between these worlds nothing was learned about definitions. -/
structure NothingLearned (w w' : World τ) : Prop where
  known : w'.tracker.known = w.tracker.known
  listed : listedIn w'.journal = listedIn w.journal
  added : addedIn w'.journal = addedIn w.journal

namespace NothingLearned

variable {w' w'' : World τ}

theorem refl (w : World τ) : NothingLearned w w := ⟨rfl, rfl, rfl⟩

theorem trans (first : NothingLearned w w') (second : NothingLearned w' w'') :
    NothingLearned w w'' where
  known := second.known.trans first.known
  listed := second.listed.trans first.listed
  added := second.added.trans first.added

/-- Where nothing is learned, what is known stays what was listed and added. -/
theorem informed (nothing : NothingLearned w w') (informed : w.Informed) : w'.Informed := by
  intro uid
  rw [nothing.known, nothing.listed, nothing.added]
  exact informed uid

end NothingLearned

/-- News that tell of no change bring neither listings nor additions. -/
theorem Uneventful.learned {news : Journal τ} (uneventful : Uneventful news)
    (earlier : Journal τ) :
    listedIn (news ++ earlier) = listedIn earlier ∧
      addedIn (news ++ earlier) = addedIn earlier := by
  induction news with
  | nil => exact ⟨rfl, rfl⟩
  | cons entry rest ih =>
    have here : entry.isEventful = false := uneventful entry List.mem_cons_self
    have before := ih fun other member => uneventful other (List.mem_cons_of_mem _ member)
    cases entry with
    | replacedKnown | applied => cases here
    | _ => exact before

/-- Nothing is learned under the lock. -/
theorem Held.nothingLearned {β : Type} {view : History → β} (held : Held view w after) :
    NothingLearned w after := by
  obtain ⟨news, journal, _, uneventful⟩ := held.received
  obtain ⟨listed, added⟩ := uneventful.learned w.journal
  exact ⟨held.quiet.known, journal ▸ listed, journal ▸ added⟩

instance : Aloof (NothingLearned : World τ → World τ → Prop) where
  refl := .refl
  trans _ _ _ := .trans
  ofCalm := Held.nothingLearned
  ofNotice := by
    intro entry w notice
    obtain rfl | ⟨name, rfl⟩ | ⟨place, rfl⟩ | rfl := Entry.isNotice_cases notice
    all_goals exact ⟨rfl, rfl, rfl⟩
  ofHeld := Held.nothingLearned
  ofBegun := ⟨rfl, rfl, rfl⟩
  ofFailed := ⟨rfl, rfl, rfl⟩
  ofUndecided _ := ⟨rfl, rfl, rfl⟩
  ofUnchanged _ := ⟨rfl, rfl, rfl⟩
  ofChanged _ := ⟨rfl, rfl, rfl⟩

/-- Opening a stream learns nothing about definitions. -/
theorem NothingLearned.opened (w : World τ) : NothingLearned w w.streamCounted.opened := by
  have counted : NothingLearned w w.streamCounted := by
    unfold World.streamCounted
    refine ⟨rfl, ?_, ?_⟩ <;> dsimp only <;> split <;> rfl
  exact counted.trans ⟨rfl, rfl, rfl⟩

/-- An event that is applied to what is known leaves the world informed. -/
theorem World.Informed.applied (informed : w.Informed) (event : CrdEvent) :
    (w.applied event).Informed := by
  intro uid
  change (w.tracker.known.noted event).contains uid = true ↔
    uid ∈ listedIn w.journal ∨ uid ∈ (if event.change = .added then
      event.crd.uid :: addedIn w.journal else addedIn w.journal)
  rw [Crd.IdentitySet.contains_noted, informed uid]
  by_cases added : event.change = .added
  · simp only [added, if_true, true_and, List.mem_cons]
    tauto
  · simp [added]

section Runs

variable [Scalar τ]

instance : Following (Keeps (World.Informed (τ := τ))) where
  ofCalm calm := calm.nothingLearned.informed
  ofReplayed _ informed := informed.applied _
  ofLearned _ informed := informed.applied _
  ofTuned tuned informed := by
    intro uid
    rw [tuned.known]
    exact informed uid
  ofSignal := id
  ofRegistered _ := id
  ofRelisted uids _ uid := by
    change (Crd.IdentitySet.ofList uids).contains uid = true ↔ uid ∈ uids ∨ uid ∈ []
    rw [Crd.IdentitySet.contains_iff, Crd.IdentitySet.mem_ofList]
    simp
  ofOpened {w} := (NothingLearned.opened w).informed
  ofStreamFailed {w} := NothingLearned.informed (w := w) ⟨rfl, rfl, rfl⟩

omit [Scalar τ] in
/-- A new tracker knows nothing, and nothing was listed or added. -/
theorem World.informed_fresh (settings : Settings τ) (clock : τ) :
    (World.fresh settings clock).Informed := by
  intro uid
  simp [World.fresh, Crd.IdentitySet.contains_iff, Crd.IdentitySet.empty, listedIn, addedIn]

/-- In every world that a run comes to, what is known is what was listed last and what was added
since. -/
theorem Reachable.informed {settings : Settings τ} (reachable : Reachable settings w) :
    w.Informed :=
  reachable.keeps (World.informed_fresh settings) NothingLearned.informed

end Runs

end ApiSurface.Tracker
