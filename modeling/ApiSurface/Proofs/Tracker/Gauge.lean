import Mathlib.Data.List.Dedup
import ApiSurface.Proofs.Tracker.Known

/-!
# The gauge of known definitions

The gauge is written in two places: a listing sets it to how many UIDs were listed, an
event that is news to how many are known by then. So it is the number of known
definitions from the first news on, and until then it is that number as long as no two
of the listed definitions share a UID.
-/

namespace ApiSurface.Tracker

variable {τ : Type} {ctx : Context τ} {w w' w'' : World τ}

/-- Whether an event that was news was applied since the definitions were listed last: one that
adds nothing, or that adds what was neither listed nor added before. -/
def NewsIn : Journal τ → Prop
  | [] => False
  | .replacedKnown _ :: _ => False
  | .applied event :: earlier =>
    NewsIn earlier ∨
      ¬ (event.change = .added ∧
        (event.crd.uid ∈ listedIn earlier ∨ event.crd.uid ∈ addedIn earlier))
  | _ :: earlier => NewsIn earlier

/-- As long as there is no news, what is added was listed. -/
theorem addedIn_subset {journal : Journal τ} (stale : ¬ NewsIn journal) :
    addedIn journal ⊆ listedIn journal := by
  induction journal with
  | nil => exact List.Subset.refl _
  | cons entry earlier ih =>
    cases entry with
    | replacedKnown uids => exact List.nil_subset _
    | applied event =>
      obtain ⟨staleBefore, repeats⟩ := not_or.mp stale
      obtain ⟨added, known⟩ := not_not.mp repeats
      have listed : event.crd.uid ∈ listedIn earlier := known.elim id fun before =>
        ih staleBefore before
      rw [addedIn, if_pos added]
      exact List.cons_subset.mpr ⟨listed, ih staleBefore⟩
    | _ => exact ih stale

/-! ## What calls back leave alone -/

/-- Between these worlds nothing was learned about definitions, and the gauge was not touched. -/
structure NothingGauged (w w' : World τ) : Prop extends NothingLearned w w' where
  gauge : w'.tracker.crdsGauge = w.tracker.crdsGauge
  news : NewsIn w'.journal ↔ NewsIn w.journal

theorem NothingGauged.trans (first : NothingGauged w w') (second : NothingGauged w' w'') :
    NothingGauged w w'' where
  toNothingLearned := first.toNothingLearned.trans second.toNothingLearned
  gauge := second.gauge.trans first.gauge
  news := second.news.trans first.news

/-- Entries that tell of no change are no news. -/
theorem Uneventful.newsIn {news : Journal τ} (uneventful : Uneventful news)
    (earlier : Journal τ) : NewsIn (news ++ earlier) ↔ NewsIn earlier := by
  induction news with
  | nil => exact Iff.rfl
  | cons entry rest ih =>
    have here : entry.isEventful = false := uneventful entry List.mem_cons_self
    have before := ih fun other member => uneventful other (List.mem_cons_of_mem _ member)
    cases entry with
    | replacedKnown | applied => cases here
    | _ => exact before

/-- The gauge is not touched under the lock. -/
theorem Held.nothingGauged {β : Type} {view : History → β} (held : Held view w w') :
    NothingGauged w w' where
  toNothingLearned := held.nothingLearned
  gauge := by
    obtain ⟨news, _, tracker, _⟩ := held.received
    rw [tracker, State.receiveAll_eq]
  news := by
    obtain ⟨news, journal, _, uneventful⟩ := held.received
    rw [journal]
    exact uneventful.newsIn w.journal

instance : Aloof (NothingGauged : World τ → World τ → Prop) where
  refl _ := ⟨.refl _, rfl, Iff.rfl⟩
  trans _ _ _ := .trans
  ofCalm := Held.nothingGauged
  ofNotice := by
    intro entry w notice
    refine ⟨Heedless.ofNotice notice, rfl, ?_⟩
    obtain rfl | ⟨name, rfl⟩ | ⟨place, rfl⟩ | rfl := Entry.isNotice_cases notice <;> exact Iff.rfl
  ofHeld := Held.nothingGauged
  ofBegun := ⟨Untroubled.ofBegun, rfl, Iff.rfl⟩
  ofFailed := ⟨Untroubled.ofFailed, rfl, Iff.rfl⟩
  ofUndecided collected := ⟨Untroubled.ofUndecided collected, rfl, Iff.rfl⟩
  ofUnchanged collected := ⟨Untroubled.ofUnchanged collected, rfl, Iff.rfl⟩
  ofChanged collected := ⟨Untroubled.ofChanged collected, rfl, Iff.rfl⟩

/-! ## The gauge -/

/-- The number of known definitions is that of the distinct UIDs that were listed and added. -/
theorem World.Informed.size_known (informed : w.Informed) :
    w.tracker.known.size = (listedIn w.journal ++ addedIn w.journal).dedup.length := by
  refine ((List.perm_ext_iff_of_nodup w.tracker.known.nodup (List.nodup_dedup _)).mpr
    fun uid => ?_).length_eq
  rw [List.mem_dedup, List.mem_append, ← informed uid, Crd.IdentitySet.contains_iff]

/-- An informed world repeats an event exactly if it adds what was listed or added before. -/
theorem World.Informed.repeats_iff {event : CrdEvent} (informed : w.Informed) :
    w.tracker.Repeats event ↔ event.change = .added ∧
      (event.crd.uid ∈ listedIn w.journal ∨ event.crd.uid ∈ addedIn w.journal) :=
  and_congr_right fun _ => informed _

/-- The world is informed, and its gauge shows how many definitions are known, or, before the first
news, how many were listed. -/
structure World.Gauged (w : World τ) : Prop where
  informed : w.Informed
  known : NewsIn w.journal → w.tracker.crdsGauge = w.tracker.known.size
  listed : ¬ NewsIn w.journal → w.tracker.crdsGauge = (listedIn w.journal).length

namespace World.Gauged

/-- Where the gauge is not touched, it shows what it showed. -/
theorem kept (gauged : w.Gauged) (nothing : NothingGauged w w') : w'.Gauged where
  informed := nothing.informed gauged.informed
  known news := by
    rw [nothing.gauge, nothing.known]
    exact gauged.known (nothing.news.mp news)
  listed stale := by
    rw [nothing.gauge, nothing.listed]
    exact gauged.listed (mt nothing.news.mpr stale)

/-- A repeated addition is no news. -/
theorem replayed {event : CrdEvent} (gauged : w.Gauged) (repeats : w.tracker.Repeats event) :
    (w.applied event).Gauged where
  informed := gauged.informed.applied event
  known news := by
    have before : NewsIn w.journal :=
      news.resolve_right (not_not.mpr (gauged.informed.repeats_iff.mp repeats))
    change _ = (w.tracker.known.noted event).size
    rw [repeats.known_noted]
    exact gauged.known before
  listed stale := gauged.listed (mt Or.inl stale)

/-- After news the gauge shows what is known. -/
theorem learned {event : CrdEvent} (gauged : w.Gauged) (news : ¬ w.tracker.Repeats event) :
    (w.applied event).gauged.Gauged where
  informed := gauged.informed.applied event
  known _ := rfl
  listed stale := absurd (.inr (mt gauged.informed.repeats_iff.mpr news)) stale

/-- The gauge shows the number of known definitions exactly if there was news or no UID was listed
twice. -/
theorem mirrors_iff (gauged : w.Gauged) :
    w.tracker.crdsGauge = w.tracker.known.size ↔
      NewsIn w.journal ∨ (listedIn w.journal).Nodup := by
  by_cases news : NewsIn w.journal
  · simp [news, gauged.known news]
  -- Before the first news everything that was added had been listed, so additions do not count.
  have size : w.tracker.known.size = (listedIn w.journal).dedup.length := by
    rw [gauged.informed.size_known,
      ← List.Subset.dedup_append_right (addedIn_subset news)]
    exact (List.perm_append_comm.dedup).length_eq
  rw [gauged.listed news, size, eq_comm, (List.dedup_sublist _).length_eq, List.dedup_eq_self]
  exact (or_iff_right news).symm

end World.Gauged

section Runs

variable [Scalar τ]

instance : Following (Keeps (World.Gauged (τ := τ))) where
  ofCalm calm gauged := gauged.kept calm.nothingGauged
  ofReplayed repeats gauged := gauged.replayed repeats
  ofLearned news gauged := gauged.learned news
  ofTuned {w tracker} tuned gauged :=
    gauged.kept ⟨⟨tuned.known, rfl, rfl⟩, tuned.crdsGauge, Iff.rfl⟩
  ofSignal gauged := gauged.kept ⟨⟨rfl, rfl, rfl⟩, rfl, Iff.rfl⟩
  ofRegistered _ gauged := gauged.kept ⟨⟨rfl, rfl, rfl⟩, rfl, Iff.rfl⟩
  ofRelisted {w} uids gauged := by
    have informed : Keeps World.Informed w (w.relisted uids) := Following.ofRelisted uids
    exact ⟨informed gauged.informed, False.elim, fun _ => rfl⟩
  ofOpened {w} gauged := by
    refine gauged.kept ⟨.opened w, ?_, ?_⟩
    · rfl
    · unfold World.streamCounted World.opened
      dsimp only
      split <;> exact Iff.rfl
  ofStreamFailed gauged := gauged.kept ⟨⟨rfl, rfl, rfl⟩, rfl, Iff.rfl⟩

theorem Reachable.gauged {settings : Settings τ} (reachable : Reachable settings w) : w.Gauged := by
  have fresh : ∀ clock, (World.fresh settings clock).Gauged := fun clock =>
    ⟨World.informed_fresh settings clock, False.elim, fun _ => rfl⟩
  exact reachable.keeps fresh fun nothing gauged => gauged.kept nothing

/-- In every world that a run comes to, the known definitions are as many as distinct UIDs were
listed last and added since. The gauge shows that number once an event was news, and the number of
UIDs that were listed until then; so it is right exactly from the first news on or if no UID was
listed twice. -/
theorem Reachable.crds_gauged {settings : Settings τ} (reachable : Reachable settings w) :
    w.tracker.known.size = (listedIn w.journal ++ addedIn w.journal).dedup.length ∧
    (NewsIn w.journal → w.tracker.crdsGauge = w.tracker.known.size) ∧
    (¬ NewsIn w.journal → w.tracker.crdsGauge = (listedIn w.journal).length) ∧
    (w.tracker.crdsGauge = w.tracker.known.size ↔
      NewsIn w.journal ∨ (listedIn w.journal).Nodup) :=
  have gauged := reachable.gauged
  ⟨gauged.informed.size_known, gauged.known, gauged.listed, gauged.mirrors_iff⟩

/-- Two definitions are listed and a third is added: the gauge shows three. -/
theorem crds_gauged_after_addition :
    let definition (uid : Text) : Value := .record [("metadata", .record [("uid", .text uid)])]
    let around : Surroundings Rat :=
      .steady (.ok []) (fun _ => .ok none) (.ok [definition "first", definition "second"])
    let listing : Request Rat := { around, given := none, depth := 1, operation := .refreshKnown }
    let addition : Request Rat :=
      { listing with
          operation := .event (.record [("type", .text "ADDED"), ("object", definition "third")]) }
    let w := (World.fresh .exact 0).after [listing, addition]
    Reachable .exact w ∧ NewsIn w.journal ∧ w.tracker.crdsGauge = 3 ∧
      w.tracker.crdsGauge = w.tracker.known.size := by
  intro definition around listing addition w
  have reachable : Reachable .exact w :=
    .performed (.performed (.fresh (by decide) (by decide) 0) listing) addition
  have news : NewsIn w.journal := .inr (by decide)
  obtain ⟨_, _, _, mirrors⟩ := Reachable.crds_gauged reachable
  exact ⟨reachable, news, rfl, mirrors.mpr (.inl news)⟩

/-- Two listed definitions share a UID: one is known and the gauge shows two. -/
theorem crds_gauge_ahead :
    let definition : Value := .record [("metadata", .record [("uid", .text "first")])]
    let around : Surroundings Rat :=
      .steady (.ok []) (fun _ => .ok none) (.ok [definition, definition])
    let listing : Request Rat := { around, given := none, depth := 1, operation := .refreshKnown }
    let w := (World.fresh .exact 0).after [listing]
    Reachable .exact w ∧ w.tracker.known.size = 1 ∧ w.tracker.crdsGauge = 2 := by
  intro definition around listing w
  exact ⟨.performed (.fresh (by decide) (by decide) 0) listing, rfl, rfl⟩

end Runs

end ApiSurface.Tracker
