import ApiSurface.Proofs.Tracker.Rebuild

/-!
# Calls back into the tracker

While they are asked, the surroundings may call back into the tracker at every time, and
what a call does may itself ask the surroundings. A relation that tolerates what is calm
holds of all calls as soon as it holds of rebuilds, whoever is told of them, since only a
rebuild does more; this is carried up from each depth of nesting to the next.
-/

namespace ApiSurface.Tracker

variable {τ : Type} {R : World τ → World τ → Prop} {ctx : Context τ}

/-- A relation between worlds that holds wherever all that happened was calm. -/
class Tolerant (R : World τ → World τ → Prop) : Prop extends IsPreorder (World τ) R where
  ofCalm : ∀ {w w' : World τ}, Calm w w' → R w w'

instance : Tolerant (Quiet : World τ → World τ → Prop) where
  ofCalm := Held.quiet

/-- Once this holds of a world, it holds of another. -/
def Keeps (property : World τ → Prop) (w w' : World τ) : Prop := property w → property w'

instance (property : World τ → Prop) : IsPreorder (World τ) (Keeps property) where
  refl _ := id
  trans _ _ _ first second := second ∘ first

/-- Whether an entry says who is told of a change, or that nobody is. -/
def Entry.isTelling : Entry τ → Bool
  | notified _ => true
  | told _ => true
  | untold => true
  | _ => false

/-- Whether an entry is about telling of changes: who is told, that nobody is, or that someone who
was told failed. -/
def Entry.isNotice : Entry τ → Bool
  | counted .subscriberErrors => true
  | entry => entry.isTelling

/-- An entry that tells of no change says nothing of who is told of one. -/
theorem Entry.not_isTelling_of_uneventful {entry : Entry τ}
    (uneventful : entry.isEventful = false) : entry.isTelling = false := by
  cases entry with
  | notified | told | untold => cases uneventful
  | _ => rfl

/-- A tolerant relation that does not depend on who is told of changes, and on who then fails. -/
class Heedless (R : World τ → World τ → Prop) : Prop extends Tolerant R where
  ofNotice : ∀ {entry : Entry τ} {w : World τ}, entry.isNotice = true →
    R w { w with journal := entry :: w.journal }

/-- A notice is one of four entries. -/
theorem Entry.isNotice_cases {entry : Entry τ} (notice : entry.isNotice = true) :
    entry = .counted .subscriberErrors ∨ (∃ name, entry = .notified name) ∨
      (∃ place, entry = .told place) ∨ entry = .untold := by
  unfold isNotice at notice
  split at notice
  · exact .inl rfl
  · cases entry with
    | notified name => exact .inr (.inl ⟨name, rfl⟩)
    | told place => exact .inr (.inr (.inl ⟨place, rfl⟩))
    | untold => exact .inr (.inr (.inr rfl))
    | _ => cases notice

/-- Who is told of changes shows nowhere in the history of rebuilds. -/
theorem Quiet.notice {entry : Entry τ} (notice : entry.isNotice = true) {w : World τ} :
    Quiet w { w with journal := entry :: w.journal } := by
  obtain rfl | ⟨name, rfl⟩ | ⟨place, rfl⟩ | rfl := Entry.isNotice_cases notice
  all_goals exact ⟨.noted _ rfl nofun, rfl, rfl, rfl⟩

instance : Heedless (Quiet : World τ → World τ → Prop) where
  ofNotice notice := Quiet.notice notice

/-- What the surroundings do is calm under the lock, and along a relation otherwise; so are
rebuilds, whether everyone is told of them or nobody. -/
structure Context.Lawful (R : World τ → World τ → Prop) (ctx : Context τ) : Prop where
  calm : ctx.IsCalm
  acts : ∀ action w, R w (ctx.act action w)
  rebuilds : ∀ given, (rebuildDirectly ctx given).Moves R
  collects : ∀ given, (collectAndNotify ctx given).Moves R

/-- Surroundings that are lawful for a relation are so for every weaker one. -/
theorem Context.Lawful.mono {S : World τ → World τ → Prop} (lawful : ctx.Lawful R)
    (weaker : ∀ {w w' : World τ}, R w w' → S w w') : ctx.Lawful S where
  calm := lawful.calm
  acts action w := weaker (lawful.acts action w)
  rebuilds given := (lawful.rebuilds given).mono weaker
  collects given := (lawful.collects given).mono weaker

namespace Op.Moves

variable {α : Type} {op : Op τ α} [Tolerant R]

/-- What is calm is tolerated. -/
theorem tolerated (calm : op.Moves Calm) : op.Moves R := calm.mono Tolerant.ofCalm

/-- Writing a plain entry is tolerated. -/
theorem plain {entry : Entry τ} (plain : entry.isPlain = true) : (Op.record entry).Moves R :=
  tolerated (record_held plain)

end Op.Moves

/-- Reading the snapshot does nothing. -/
theorem getSnapshot_calm : (getSnapshot : Op τ Snapshot).Moves Calm := by
  refine .bind .tracker fun tracker => ?_
  split
  · exact .pure _
  · exact .raise _

/-! ## Who is told -/

/-- Telling a subscriber returns, also if the subscriber fails. -/
theorem notify_returns (ctx : Context τ) (registered : Subscriber τ × Nat) (w : World τ) :
    (notify ctx registered w).1 = .ok () := by
  rw [notify, Op.bind_of_ok (Op.record_apply ..), Op.bind_apply, Op.attempt_apply]
  cases (tell ctx registered.1 { w with journal := .told registered.2 :: w.journal }).1 with
  | ok _ => rfl
  | error fault => rfl

/-- Telling everyone returns, whoever fails. -/
theorem notifyAll_returns (ctx : Context τ) (w : World τ) : (notifyAll ctx w).1 = .ok () := by
  rw [notifyAll, Op.bind_apply, Op.tracker]
  exact Op.each_returns (notify_returns ctx) _ _

section Collecting

variable {given : Option Signal} {w after : World τ}

/-- The report of a rebuild that failed is no attempt to rebuild. -/
theorem collectionFailure_plain (fault : Fault) :
    (Entry.logged (collectionFailure fault) : Entry τ).isPlain = true := by
  cases fault <;> rfl

/-- A rebuild that failed is reported and gives no outcome. -/
theorem collectAndNotify_of_failed {fault : Fault}
    (failed : rebuild ctx given w = (.error fault, after)) :
    collectAndNotify ctx given w =
      (.ok none, { after with journal := .logged (collectionFailure fault) :: after.journal }) := by
  rw [collectAndNotify, Op.bind_apply, Op.attempt_apply, failed]
  rfl

theorem collectAndNotify_of_error {fault : Fault}
    (failed : rebuild ctx given w = (.error fault, after)) :
    ∃ later, Calm after later ∧ collectAndNotify ctx given w = (.ok none, later) :=
  ⟨_, .plain _ (collectionFailure_plain fault), collectAndNotify_of_failed failed⟩

/-- After a rebuild that changed nothing there is nothing left to do. -/
theorem collectAndNotify_of_idle {outcome : Outcome}
    (ended : rebuild ctx given w = (.ok outcome, after)) (unchanged : outcome ≠ .changed) :
    collectAndNotify ctx given w = (.ok (some outcome), after) := by
  rw [collectAndNotify, Op.bind_apply, Op.attempt_apply, ended]
  cases outcome with
  | changed => exact absurd rfl unchanged
  | unchanged | skipped => rfl

/-- After a rebuild that changed the snapshot everyone is told, and the outcome is the same whoever
fails. -/
theorem collectAndNotify_of_changed (ended : rebuild ctx given w = (.ok .changed, after)) :
    collectAndNotify ctx given w = (.ok (some .changed), (notifyAll ctx after).2) := by
  rw [collectAndNotify, Op.bind_apply, Op.attempt_apply, ended]
  exact Op.bind_of_ok (Prod.ext (notifyAll_returns ctx after) rfl)

/-- The outcome of a rebuild that ended is what collecting gives. -/
theorem collectAndNotify_of_ok {outcome : Outcome}
    (ended : rebuild ctx given w = (.ok outcome, after)) :
    (collectAndNotify ctx given w).1 = .ok (some outcome) := by
  cases outcome with
  | changed => rw [collectAndNotify_of_changed ended]
  | unchanged | skipped => rw [collectAndNotify_of_idle ended nofun]

/-- Collecting always returns, with an outcome or without. -/
theorem collectAndNotify_returns (ctx : Context τ) (given : Option Signal) (w : World τ) :
    ∃ ended, (collectAndNotify ctx given w).1 = .ok ended := by
  cases ends : rebuild ctx given w with
  | mk result after =>
    cases result with
    | ok outcome => exact ⟨_, collectAndNotify_of_ok ends⟩
    | error fault =>
      obtain ⟨later, _, collects⟩ := collectAndNotify_of_error ends
      exact ⟨none, congrArg Prod.fst collects⟩

end Collecting

section Telling

variable [Heedless R]

theorem tell_moves (acts : ∀ action w, R w (ctx.act action w)) (subscriber : Subscriber τ) :
    (tell ctx subscriber).Moves R := by
  cases subscriber with
  | client name reply => exact .ask acts fun w => Heedless.ofNotice rfl
  | changeLogger => exact .bind getSnapshot_calm.tolerated fun _ => .plain rfl

theorem notify_moves (acts : ∀ action w, R w (ctx.act action w))
    (registered : Subscriber τ × Nat) : (notify ctx registered).Moves R := by
  refine .bind (fun w => Heedless.ofNotice rfl) fun _ =>
    .bind (tell_moves acts registered.1).attempt fun result => ?_
  cases result with
  | ok _ => exact .pure ()
  | error fault => exact .bind (fun w => Heedless.ofNotice rfl) fun _ => .plain rfl

/-- Nobody who is told of a change can do more than call back. -/
theorem notifyAll_moves (acts : ∀ action w, R w (ctx.act action w)) : (notifyAll ctx).Moves R :=
  .bind .tracker fun _ => .each fun registered _ => notify_moves acts registered

/-- After a rebuild that is collected there is only who is told of it. -/
theorem Context.afterRebuild (acts : ∀ action w, R w (ctx.act action w)) (given : Option Signal)
    (w : World τ) : R (rebuild ctx given w).2 (collectAndNotify ctx given w).2 := by
  have told : ∀ outcome, (do
      notifyAll ctx
      pure outcome : Op τ (Option Outcome)).Moves R :=
    fun _ => .bind (notifyAll_moves acts) fun _ => .pure _
  rw [collectAndNotify, Op.bind_apply, Op.attempt_apply]
  cases (rebuild ctx given w).1 with
  | error fault => exact Tolerant.ofCalm (.plain _ (collectionFailure_plain fault))
  | ok outcome =>
    cases outcome with
    | changed => exact told (some .changed) _
    | unchanged | skipped => exact refl_of R _

/-- Where it does not matter who is told, surroundings are lawful if what they do and rebuilds
are. -/
theorem Context.Lawful.of_rebuild (calm : ctx.IsCalm) (acts : ∀ action w, R w (ctx.act action w))
    (rebuilds : ∀ given, (rebuild ctx given).Moves R) : ctx.Lawful R where
  calm := calm
  acts := acts
  rebuilds given := by
    refine .bind (rebuilds given) fun outcome => ?_
    split
    · exact .bind (fun w => Heedless.ofNotice rfl) fun _ => .pure _
    · exact .pure _
  collects given w := trans_of R (rebuilds given w) (afterRebuild acts given w)

end Telling

/-! ## Calls at every depth -/

namespace Context.Lawful

variable [Tolerant R]

/-- Asking the surroundings a plain question. -/
theorem ask {α : Type} (lawful : ctx.Lawful R) (question : Entry τ)
    (plain : question.isPlain = true) (answer : Journal τ → Reply τ α) :
    (ctx.ask question answer).Moves R :=
  .ask lawful.acts (.plain plain)

variable [Scalar τ]

theorem trigger (lawful : ctx.Lawful R) (given : Option Signal) :
    (trigger ctx given).Moves R := by
  refine .bind askLimiter_calm.tolerated fun admitted => ?_
  cases admitted with
  | true => exact .bind (lawful.collects given) fun _ => .pure _
  | false => exact .bind (.plain rfl) fun _ => .pure _

/-- What an action does in lawful surroundings. -/
theorem perform (lawful : ctx.Lawful R) (action : Action τ) (w : World τ) :
    R w (perform ctx action w) := by
  cases action with
  | readSnapshot | subscribe | stopTracker | raiseStop | elapse =>
    exact Tolerant.ofCalm (perform_calm ctx rfl w)
  | rebuild =>
    have effect : (effectOf ctx .rebuild).Moves R :=
      .bind (lawful.rebuilds none) fun _ => .pure _
    rw [perform_call ctx rfl]
    exact trans_of R (effect w) (Tolerant.ofCalm (.acted .rebuild _ nofun rfl))
  | trigger =>
    have effect : (effectOf ctx .trigger).Moves R :=
      .bind (.stopOr _) fun stop => .bind (lawful.trigger (some stop)) fun _ => .pure _
    rw [perform_call ctx rfl]
    exact trans_of R (effect w) (Tolerant.ofCalm (.acted .trigger _ nofun rfl))

end Context.Lawful

/-- A rebuild is quiet, whether it finds the lock free or taken. -/
theorem rebuild_quiet (calm : ctx.IsCalm) (given : Option Signal) :
    (rebuild ctx given).Moves Quiet := by
  intro w
  cases lock : w.tracker.rebuilding with
  | true => exact (rebuild_locked_calm ctx given w lock).quiet
  | false => exact (rebuild_spec calm given lock).quiet lock

/-- A tolerant relation that goes along with each step of a rebuild. -/
class Untroubled (R : World τ → World τ → Prop) : Prop extends Tolerant R where
  ofHeld : ∀ {β : Type} {view : History → β} {w w' : World τ}, Held view w w' → R w w'
  ofBegun : ∀ {w : World τ}, R w w.begun
  ofFailed : ∀ {w : World τ}, R w w.failed.released
  ofUndecided : ∀ {w : World τ} (collected : Snapshot), R w (w.completed collected).released
  ofUnchanged : ∀ {w : World τ} (collected : Snapshot),
    R w (w.completed collected).confirmed.released
  ofChanged : ∀ {w : World τ} (collected : Snapshot),
    R w ((w.completed collected).replaced collected).released

/-- A relation that goes along with each step of a rebuild and does not depend on who is told of
it. -/
class Aloof (R : World τ → World τ → Prop) : Prop extends Heedless R, Untroubled R

/-- A rebuild goes along with such a relation, however it ends. -/
theorem rebuild_untroubled [Untroubled R] (calm : ctx.IsCalm) (given : Option Signal) :
    (rebuild ctx given).Moves R := by
  intro w
  cases lock : w.tracker.rebuilding with
  | true => exact Tolerant.ofCalm (rebuild_locked_calm ctx given w lock)
  | false =>
    have rebuilt := rebuild_spec calm given lock
    revert rebuilt
    generalize rebuild ctx given w = ends
    obtain ⟨result, after⟩ := ends
    intro rebuilt
    -- However it ends, it has begun and what was asked then happened under the lock.
    have asked : ∀ {β : Type} {view : History → β} {mid : World τ}, Held view w.begun mid →
        R w mid := fun held => trans_of R Untroubled.ofBegun (Untroubled.ofHeld held)
    cases rebuilt with
    | failed held _ => exact trans_of R (asked held) Untroubled.ofFailed
    | undecided pass _ => exact trans_of R (asked pass.held) (Untroubled.ofUndecided _)
    | unchanged pass _ => exact trans_of R (asked pass.held) (Untroubled.ofUnchanged _)
    | changed pass _ => exact trans_of R (asked pass.held) (Untroubled.ofChanged _)

section Nested

variable [Scalar τ] (around : Surroundings τ) (given : Option Signal)

/-- Calls back run in the same surroundings at every depth. -/
theorem Context.nested_around (depth : Nat) : (nested around given depth).around = around := by
  cases depth <;> rfl

/-- At every depth of nesting the surroundings are lawful, if they are so wherever what they do
goes along the relation. -/
theorem Context.nested_lawful_of_acts [Tolerant R]
    (lawful : ∀ depth, (∀ action w, R w ((Context.nested around given depth).act action w)) →
      (Context.nested around given depth).Lawful R)
    (depth : Nat) : (Context.nested around given depth).Lawful R := by
  refine lawful depth ?_
  induction depth with
  | zero => exact fun action w => Tolerant.ofCalm (refuse_calm action w)
  | succ depth ih => exact (lawful depth ih).perform

/-- At every depth of nesting, what the surroundings do goes along a relation that does not depend
on who is told, if rebuilds in them do. -/
theorem Context.nested_lawful_of_rebuild [Heedless R]
    (rebuilds : ∀ depth given', (rebuild (Context.nested around given depth) given').Moves R)
    (depth : Nat) : (Context.nested around given depth).Lawful R :=
  nested_lawful_of_acts around given
    (fun depth acts => .of_rebuild (nested_locked_calm around given depth) acts (rebuilds depth))
    depth

/-- At every depth of nesting, what the surroundings do goes along with an aloof relation. -/
theorem Context.nested_aloof [Aloof R] (depth : Nat) :
    (Context.nested around given depth).Lawful R :=
  nested_lawful_of_rebuild around given
    (fun depth given' => rebuild_untroubled (nested_locked_calm around given depth) given') depth

/-- At every depth of nesting, what the surroundings do is quiet. -/
theorem Context.nested_lawful (depth : Nat) : (Context.nested around given depth).Lawful Quiet :=
  nested_lawful_of_rebuild around given
    (fun depth given' => rebuild_quiet (nested_locked_calm around given depth) given') depth

end Nested

end ApiSurface.Tracker
