import ApiSurface.Proofs.Discovery.Answers
import ApiSurface.Tracker.State

/-!
# The history of rebuilds

What the journal says about rebuilds, read off it entry by entry: what the pass begun
last was answered so far, and the passes that were completed. `Yields` says which
snapshot such a history leaves in place, from the answers alone: a pass whose result
differs from the snapshot in place replaces it, any other completed pass leaves it, and
nothing else touches it.
-/

namespace ApiSurface.Tracker

/-- A discovery pass: the group-versions that were listed, what was answered about them, and
how the rebuild ended. A rebuild has no outcome while it lasts, or if its result could not be
compared with the snapshot in place. -/
structure Round where
  listed : List GroupVersion
  answers : Answers
  outcome : Option Outcome

namespace Round

/-- A pass to which nothing was answered yet. -/
def fresh : Round := { listed := [], answers := [], outcome := none }

/-- The listed group-versions were asked about one after the other and all of them answered. -/
def Complete (round : Round) : Prop := round.answers.groupVersions = round.listed

end Round

/-- What is known of the rebuilds so far: the pass begun last, and the completed passes, the
newest first. -/
structure History where
  current : Round
  rounds : List Round

namespace History

/-- The history in which nothing happened. -/
def start : History := { current := Round.fresh, rounds := [] }

/-- The history in which the newest completed pass got an outcome. -/
def settle (history : History) (outcome : Outcome) : History :=
  { history with
      rounds := history.rounds.modifyHead fun round => { round with outcome := some outcome } }

/-- The history after one more entry of the journal. -/
def note {τ : Type} (history : History) : Entry τ → History
  | .beganRebuild => { history with current := Round.fresh }
  | .answeredGroups listed => { history with current := { history.current with listed } }
  | .answeredResources gv listing =>
    { history with
        current :=
          { history.current with answers := history.current.answers ++ [(gv, listing)] } }
  | .completedPass _ => { history with rounds := history.current :: history.rounds }
  | .counted .changed => history.settle .changed
  | .counted .unchanged => history.settle .unchanged
  | _ => history

end History

/-- The history that a journal tells. -/
def historyOf {τ : Type} : Journal τ → History
  | [] => History.start
  | entry :: earlier => (historyOf earlier).note entry

/-- The completed passes that a journal tells of, the newest first. -/
def roundsOf {τ : Type} (journal : Journal τ) : List Round := (historyOf journal).rounds

/-- The history that a world's journal tells. -/
def World.history {τ : Type} (w : World τ) : History := historyOf w.journal

/-! ## Where answers come from -/

/-- The answer about resources that an entry is, if it is one. -/
def Entry.answer? {τ : Type} : Entry τ → Option (GroupVersion × Listing)
  | answeredResources gv listing => some (gv, listing)
  | _ => none

/-- Everything that was answered about resources, the newest answer first. -/
def answersOf {τ : Type} (journal : Journal τ) : Answers := journal.filterMap Entry.answer?

/-- Every listing that was answered is well-typed. -/
def AnsweredWellTyped {τ : Type} (journal : Journal τ) : Prop := (answersOf journal).WellTyped

/-- A pass in which every listing is well-typed. -/
def Round.WellTyped (round : Round) : Prop := round.answers.WellTyped

/-- The pass begun last and all completed ones. -/
def History.passes (history : History) : List Round := history.current :: history.rounds

section Answered

variable {τ : Type} {journal : Journal τ}

/-- An answer put on record is among the answers. -/
theorem mem_answersOf {gv : GroupVersion} {listing : Listing}
    (answered : Entry.answeredResources gv listing ∈ journal) : (gv, listing) ∈ answersOf journal :=
  List.mem_filterMap.mpr ⟨_, answered, rfl⟩

/-- Well-typed answers were so at every earlier time. -/
theorem AnsweredWellTyped.earlier {earlier : Journal τ} (typed : AnsweredWellTyped journal)
    (before : earlier <:+ journal) : AnsweredWellTyped earlier := by
  intro answer member
  obtain ⟨entry, inEarlier, answers⟩ := List.mem_filterMap.mp member
  exact typed answer (List.mem_filterMap.mpr ⟨entry, before.subset inEarlier, answers⟩)

/-- Giving the newest pass an outcome changes no answers. -/
theorem History.answered_of_mem_settle {history : History} {outcome : Outcome} {round : Round}
    (member : round ∈ (history.settle outcome).rounds) :
    ∃ before ∈ history.rounds, before.answers = round.answers := by
  simp only [settle] at member
  cases rounds : history.rounds with
  | nil =>
    rw [rounds] at member
    cases member
  | cons newest older =>
    rw [rounds, List.modifyHead_cons, List.mem_cons] at member
    rcases member with rfl | inOlder
    · exact ⟨newest, List.mem_cons_self, rfl⟩
    · exact ⟨round, List.mem_cons_of_mem _ inOlder, rfl⟩

/-- An answer that a pass has after one more entry was there before, or the entry is it. -/
theorem History.answered_note {history : History} {entry : Entry τ} {round : Round}
    {gv : GroupVersion} {listing : Listing} (member : round ∈ (history.note entry).passes)
    (answered : (gv, listing) ∈ round.answers) :
    (∃ before ∈ history.passes, (gv, listing) ∈ before.answers) ∨
      entry = .answeredResources gv listing := by
  have settled : ∀ outcome, round ∈ (history.settle outcome).rounds →
      ∃ before ∈ history.passes, (gv, listing) ∈ before.answers := by
    intro outcome inSettled
    obtain ⟨before, inRounds, same⟩ := answered_of_mem_settle inSettled
    exact ⟨before, List.mem_cons_of_mem _ inRounds, same ▸ answered⟩
  unfold note at member
  split at member <;> rcases List.mem_cons.mp member with rfl | inRounds
  · cases answered
  · exact .inl ⟨round, List.mem_cons_of_mem _ inRounds, answered⟩
  · exact .inl ⟨history.current, List.mem_cons_self, answered⟩
  · exact .inl ⟨round, List.mem_cons_of_mem _ inRounds, answered⟩
  · rcases List.mem_append.mp answered with before | here
    · exact .inl ⟨history.current, List.mem_cons_self, before⟩
    · cases List.mem_singleton.mp here
      exact .inr rfl
  · exact .inl ⟨round, List.mem_cons_of_mem _ inRounds, answered⟩
  · exact .inl ⟨history.current, List.mem_cons_self, answered⟩
  · exact .inl ⟨round, inRounds, answered⟩
  · exact .inl ⟨history.current, List.mem_cons_self, answered⟩
  · exact .inl (settled .changed inRounds)
  · exact .inl ⟨history.current, List.mem_cons_self, answered⟩
  · exact .inl (settled .unchanged inRounds)
  · exact .inl ⟨history.current, List.mem_cons_self, answered⟩
  · exact .inl ⟨round, List.mem_cons_of_mem _ inRounds, answered⟩

/-- Whatever the passes of a history were answered stands in the journal. -/
theorem mem_of_answered {round : Round} (member : round ∈ (historyOf journal).passes)
    {gv : GroupVersion} {listing : Listing} (answered : (gv, listing) ∈ round.answers) :
    Entry.answeredResources gv listing ∈ journal := by
  induction journal generalizing round with
  | nil =>
    cases List.mem_singleton.mp member
    cases answered
  | cons entry earlier ih =>
    rcases History.answered_note member answered with ⟨before, inPasses, there⟩ | rfl
    · exact List.mem_cons_of_mem _ (ih inPasses there)
    · exact List.mem_cons_self

/-- If all listings answered were well-typed, so are those of every completed pass. -/
theorem AnsweredWellTyped.rounds (typed : AnsweredWellTyped journal) :
    ∀ round ∈ roundsOf journal, round.WellTyped := by
  rintro round member ⟨gv, listing⟩ answered
  exact typed _ (mem_answersOf (mem_of_answered (List.mem_cons_of_mem _ member) answered))

end Answered

/-! ## The snapshot a history leaves in place -/

/-- Completed passes, the newest first, leave a snapshot in place. -/
inductive Yields : List Round → Snapshot → Prop where
  | nothing : Yields [] Snapshot.empty
  | changed {earlier : List Round} {placed collected : Snapshot} {round : Round}
      (prior : Yields earlier placed) (complete : round.Complete)
      (merged : round.answers.merged = .ok collected)
      (differs : collected.equals placed = .ok false) (ended : round.outcome = some .changed) :
      Yields (round :: earlier) collected
  | unchanged {earlier : List Round} {placed collected : Snapshot} {round : Round}
      (prior : Yields earlier placed) (complete : round.Complete)
      (merged : round.answers.merged = .ok collected)
      (agrees : collected.equals placed = .ok true) (ended : round.outcome = some .unchanged) :
      Yields (round :: earlier) placed
  | undecided {earlier : List Round} {placed collected : Snapshot} {round : Round} {kind : Misuse}
      (prior : Yields earlier placed) (complete : round.Complete)
      (merged : round.answers.merged = .ok collected)
      (fails : collected.equals placed = .error kind) (ended : round.outcome = none) :
      Yields (round :: earlier) placed

namespace Yields

variable {rounds earlier : List Round} {round : Round} {placed : Snapshot}

/-- Every entry of the snapshot in place stems from one completed pass. -/
theorem origin (yields : Yields rounds placed) :
    placed = Snapshot.empty ∨
      ∃ round ∈ rounds, round.outcome = some .changed ∧ round.answers.merged = .ok placed := by
  induction yields with
  | nothing => exact .inl rfl
  | changed prior complete merged differs ended =>
    exact .inr ⟨_, List.mem_cons_self, ended, merged⟩
  | unchanged prior complete merged agrees ended ih
  | undecided prior complete merged fails ended ih =>
    rcases ih with rfl | ⟨origin, member, rest⟩
    · exact .inl rfl
    · exact .inr ⟨origin, List.mem_cons_of_mem _ member, rest⟩

/-- The passes that a history tells of are complete. -/
theorem complete (yields : Yields (round :: earlier) placed) : round.Complete := by
  cases yields with
  | changed prior complete => exact complete
  | unchanged prior complete => exact complete
  | undecided prior complete => exact complete

/-- Well-typed passes leave a well-typed snapshot in place. -/
theorem wellTyped (yields : Yields rounds placed) (typed : ∀ round ∈ rounds, round.WellTyped) :
    placed.WellTyped := by
  induction yields with
  | nothing => exact Snapshot.wellTyped_empty
  | changed prior complete merged differs ended ih =>
    obtain ⟨s, mergedTyped, typedHere, _⟩ := Answers.WellTyped.merged (typed _ List.mem_cons_self)
    rw [merged] at mergedTyped
    exact Except.ok.inj mergedTyped ▸ typedHere
  | unchanged prior complete merged agrees ended ih
  | undecided prior complete merged fails ended ih =>
    exact ih fun round member => typed round (List.mem_cons_of_mem _ member)

/-- After a well-typed pass that ended with an outcome, the snapshot in place is well-typed and
agrees with what the pass put together, whatever was in place before. -/
theorem agrees_of_ended (yields : Yields (round :: earlier) placed) (typed : round.WellTyped)
    (ended : round.outcome ≠ none) :
    ∃ collected, round.answers.merged = .ok collected ∧ collected.WellTyped ∧ placed.WellTyped ∧
      collected.Agrees placed := by
  obtain ⟨s, mergedTyped, typedHere, _⟩ := Answers.WellTyped.merged typed
  refine ⟨s, mergedTyped, typedHere, ?_⟩
  cases yields with
  | changed prior complete merged =>
    cases merged.symm.trans mergedTyped
    exact ⟨typedHere, Snapshot.Agrees.refl _⟩
  | unchanged prior complete merged equal =>
    cases merged.symm.trans mergedTyped
    exact typedHere.equals_eq_ok_true_iff.mp equal
  | undecided prior complete merged fails none => exact absurd none ended

/-- A well-typed pass ends without an outcome only where the snapshot in place is not well-typed. -/
theorem ended_of_wellTyped (yields : Yields (round :: earlier) placed) (typed : round.WellTyped)
    (typedPlaced : placed.WellTyped) : round.outcome ≠ none := by
  obtain ⟨s, mergedTyped, typedHere, _⟩ := Answers.WellTyped.merged typed
  intro none
  cases yields with
  | changed prior complete merged differs ended | unchanged prior complete merged agrees ended =>
    rw [ended] at none
    cases none
  | undecided prior complete merged fails =>
    cases merged.symm.trans mergedTyped
    exact typedHere.equals_ne_error typedPlaced _ fails

/-- What earlier passes left in place when later ones were yet to come. -/
theorem suffix {later : List Round} (yields : Yields (later ++ rounds) placed) :
    ∃ before, Yields rounds before := by
  induction later generalizing placed with
  | nil => exact ⟨placed, yields⟩
  | cons round rest ih =>
    cases yields with
    | changed prior => exact ih prior
    | unchanged prior => exact ih prior
    | undecided prior => exact ih prior

/-- Passes without an outcome leave in place what was there. -/
theorem of_undecided {pending : List Round} (yields : Yields (pending ++ rounds) placed)
    (undecided : ∀ round ∈ pending, round.outcome = none) : Yields rounds placed := by
  induction pending with
  | nil => exact yields
  | cons round rest ih =>
    have none : round.outcome = none := undecided round List.mem_cons_self
    cases yields with
    | changed prior complete merged differs ended | unchanged prior complete merged agrees ended =>
      rw [ended] at none
      cases none
    | undecided prior =>
      exact ih prior fun other member => undecided other (List.mem_cons_of_mem _ member)

/-- An unchanged pass put together what agrees with the pass that ended before it. -/
theorem agrees_of_unchanged {pending : List Round} {last : Round}
    (yields : Yields (round :: (pending ++ last :: earlier)) placed)
    (undecided : ∀ round ∈ pending, round.outcome = none)
    (unchanged : round.outcome = some .unchanged) (ended : last.outcome ≠ none)
    (typed : round.WellTyped) (typedLast : last.WellTyped) :
    ∃ collected before, round.answers.merged = .ok collected ∧
      last.answers.merged = .ok before ∧ before.Agrees collected := by
  cases yields with
  | changed prior complete merged differs outcome | undecided prior complete merged fails outcome =>
    rw [outcome] at unchanged
    cases unchanged
  | @unchanged _ _ collected _ prior complete merged equal =>
    obtain ⟨before, mergedLast, typedBefore, typedPlaced, agrees⟩ :=
      (prior.of_undecided undecided).agrees_of_ended typedLast ended
    obtain ⟨s, mergedTyped, typedHere, _⟩ := Answers.WellTyped.merged typed
    cases merged.symm.trans mergedTyped
    have agreesHere := (typedHere.equals_eq_ok_true_iff.mp equal).2
    exact ⟨collected, before, merged, mergedLast, agrees.trans agreesHere.symm⟩

end Yields

end ApiSurface.Tracker
