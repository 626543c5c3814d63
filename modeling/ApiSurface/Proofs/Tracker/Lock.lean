import ApiSurface.Proofs.Tracker.Consistency
import ApiSurface.Tracker.Nested

/-!
# While the lock is held

While a rebuild holds the lock, the surroundings may still call the tracker, but a second
rebuild is skipped, so that such calls do to the tracker only what the journal says of
them: who subscribed, which calls the limiter let through, and that the loops were
stopped. `Held` relates the worlds of that time, `Calm` those between which no pass went
on either.
-/

namespace ApiSurface.Tracker

variable {τ : Type}

/-! ## What is received under the lock -/

/-- What an entry says was done to a tracker while its lock was held. -/
def State.receive (tracker : State τ) : Entry τ → State τ
  | .acted (.subscribe name) (.ok _) =>
    { tracker with
        subscribers :=
          tracker.subscribers ++ [.client name fun _ => { actions := [], outcome := .ok () }] }
  | .acted .stopTracker (.ok _) => { tracker with loops := [] }
  | .asked reading true => { tracker with limiter := tracker.limiter.admitted reading }
  | _ => tracker

/-- What entries, the newest first, say was done to a tracker while its lock was held. -/
def State.receiveAll (tracker : State τ) (news : Journal τ) : State τ :=
  news.foldr (fun entry tracker => tracker.receive entry) tracker

/-- Calls under the lock reach the subscribers, the limiter and the loops alone. -/
theorem State.receiveAll_eq (tracker : State τ) (news : Journal τ) :
    tracker.receiveAll news =
      { tracker with
          subscribers := (tracker.receiveAll news).subscribers
          limiter := (tracker.receiveAll news).limiter
          loops := (tracker.receiveAll news).loops } := by
  induction news with
  | nil => rfl
  | cons entry earlier ih =>
    change (tracker.receiveAll earlier).receive entry =
      { tracker with
          subscribers := ((tracker.receiveAll earlier).receive entry).subscribers
          limiter := ((tracker.receiveAll earlier).receive entry).limiter
          loops := ((tracker.receiveAll earlier).receive entry).loops }
    unfold receive
    split <;> rw [ih]

theorem State.receiveAll_append (tracker : State τ) (later earlier : Journal τ) :
    tracker.receiveAll (later ++ earlier) = (tracker.receiveAll earlier).receiveAll later :=
  List.foldr_append ..

/-- A plain entry says nothing of calls. -/
theorem State.receive_of_plain {entry : Entry τ} (plain : entry.isPlain = true)
    (tracker : State τ) : tracker.receive entry = tracker := by
  unfold receive
  split
  case h_4 => rfl
  all_goals cases plain

/-! ## Worlds under the lock -/

/-- No entry tells of a change made to the tracker, or of who is told of one. -/
def Uneventful (news : Journal τ) : Prop := ∀ entry ∈ news, entry.isEventful = false

namespace Uneventful

theorem nil : Uneventful ([] : Journal τ) := nofun

theorem cons {entry : Entry τ} {news : Journal τ} (here : entry.isEventful = false)
    (earlier : Uneventful news) : Uneventful (entry :: news) :=
  List.forall_mem_cons.mpr ⟨here, earlier⟩

theorem append {later earlier : Journal τ} (first : Uneventful later)
    (second : Uneventful earlier) : Uneventful (later ++ earlier) :=
  List.forall_mem_append.mpr ⟨first, second⟩

end Uneventful

/-- Between these worlds nothing was done to the tracker but what the journal says calls did,
and what the view shows of the history of rebuilds is the same, and so is the ledger. -/
structure Held {β : Type} (view : History → β) (w w' : World τ) : Prop where
  received : ∃ news, w'.journal = news ++ w.journal ∧ w'.tracker = w.tracker.receiveAll news ∧
    Uneventful news
  raised : ∀ {signal}, w.isSet signal = true → w'.isSet signal = true
  viewed : view w'.history = view w.history
  booked : ledgerOf w'.journal = ledgerOf w.journal
  consistent : w.Consistent → w'.Consistent

/-- Nothing was done but calls back into the tracker. -/
abbrev Calm : World τ → World τ → Prop := Held id

/-- Worlds related where the lock is held. -/
def Locked (R : World τ → World τ → Prop) (w w' : World τ) : Prop :=
  w.tracker.rebuilding = true → R w w'

namespace Held

variable {β : Type} {view : History → β} {w w' w'' : World τ}

theorem refl (w : World τ) : Held view w w := ⟨⟨[], rfl, rfl, .nil⟩, id, rfl, rfl, id⟩

theorem trans (first : Held view w w') (second : Held view w' w'') : Held view w w'' := by
  obtain ⟨earlier, journal, tracker, uneventful⟩ := first.received
  obtain ⟨later, journal', tracker', uneventful'⟩ := second.received
  refine ⟨⟨later ++ earlier, ?_, ?_, uneventful'.append uneventful⟩, second.raised ∘ first.raised,
    second.viewed.trans first.viewed, second.booked.trans first.booked,
    second.consistent ∘ first.consistent⟩
  · rw [journal', journal, List.append_assoc]
  · rw [tracker', tracker, State.receiveAll_append]

/-- The tracker differs in its subscribers, its limiter and its loops at most. -/
theorem tracker_eq (held : Held view w w') :
    w'.tracker =
      { w.tracker with
          subscribers := w'.tracker.subscribers
          limiter := w'.tracker.limiter
          loops := w'.tracker.loops } := by
  obtain ⟨news, _, tracker, _⟩ := held.received
  rw [tracker]
  exact State.receiveAll_eq ..

/-- What happens under the lock is quiet. -/
theorem quiet (held : Held view w w') : Quiet w w' where
  journal := by
    obtain ⟨news, journal, _, _⟩ := held.received
    exact journal ▸ List.suffix_append ..
  raised := held.raised
  lock := by rw [held.tracker_eq]
  consistent := held.consistent
  known := by rw [held.tracker_eq]
  ready := by rw [held.tracker_eq]
  ownStop := by rw [held.tracker_eq]

/-- The snapshot in place stays. -/
theorem snapshot (held : Held view w w') : w'.tracker.snapshot = w.tracker.snapshot := by
  rw [held.tracker_eq]

instance : IsPreorder (World τ) (Held view) where
  refl := refl
  trans _ _ _ := trans

instance : IsPreorder (World τ) (Locked (Held view)) where
  refl w _ := refl w
  trans _ _ _ first second locked :=
    (first locked).trans (second ((first locked).quiet.lock.trans locked))

/-- Between calm worlds the history stays as it is. -/
theorem of_calm (calm : Calm w w') : Held view w w' :=
  ⟨calm.received, calm.raised, congrArg view calm.viewed, calm.booked, calm.consistent⟩

/-- What an entry says was done to the tracker is done, and the entry neither shows in the view
or the ledger nor is a reading nor tells of a change. -/
theorem done (entry : Entry τ) (uneventful : entry.isEventful = false)
    (unbooked : entry.isBooked = false)
    (viewed : view (w.history.note entry) = view w.history)
    (rounds : (w.history.note entry).rounds = w.history.rounds)
    (unread : ∀ s, entry ≠ .reading s) :
    Held view w
      { w with tracker := w.tracker.receive entry, journal := entry :: w.journal } := by
  have kept : w.tracker.receive entry = _ := w.tracker.receiveAll_eq [entry]
  refine ⟨⟨[entry], rfl, rfl, .cons uneventful .nil⟩, id, viewed,
    ledgerOf_cons_of_unbooked unbooked _, fun consistent => ?_⟩
  have noted := consistent.noted entry rounds unread
  refine ⟨?_, ?_, noted.readings⟩
  · rw [kept]
    exact noted.yields
  · rw [kept]
    exact noted.gauge

/-- An entry is written that does not show in the view or the ledger, is no reading, tells of no
change and says nothing of calls. -/
theorem noted (entry : Entry τ) (uneventful : entry.isEventful = false)
    (unbooked : entry.isBooked = false)
    (viewed : view (w.history.note entry) = view w.history)
    (rounds : (w.history.note entry).rounds = w.history.rounds)
    (unread : ∀ s, entry ≠ .reading s) (unreceived : w.tracker.receive entry = w.tracker) :
    Held view w { w with journal := entry :: w.journal } := by
  have done := done entry uneventful unbooked viewed rounds unread
  rwa [unreceived] at done

/-- A plain entry. -/
theorem plain (entry : Entry τ) (plain : entry.isPlain = true) :
    Held view w { w with journal := entry :: w.journal } :=
  noted entry (Entry.uneventful_of_plain plain) (Entry.uneventful_unbooked_of_plain plain).2
    (congrArg view (History.note_of_plain plain _))
    (congrArg History.rounds (History.note_of_plain plain _))
    (Entry.ne_reading_of_plain plain) (State.receive_of_plain plain _)

/-- How an action ended is put on record, if that is neither a reading nor says what was done. -/
theorem acted (action : Action τ) (result : Except Fault ActionResult)
    (unread : action ≠ .readSnapshot)
    (unreceived : w.tracker.receive (.acted action result) = w.tracker) :
    Held view w { w with journal := .acted action result :: w.journal } :=
  noted _ rfl rfl rfl rfl (fun _ same => unread (Entry.acted.inj same).1) unreceived

/-- A stop signal is set. -/
theorem signalled (signal : Signal) : Held view w (w.set signal) :=
  ⟨⟨[.signalled signal], rfl, rfl, .cons rfl .nil⟩, (Advances.signalled signal).raised, rfl,
    ledgerOf_cons_of_unbooked rfl _, (Advances.signalled signal).consistent⟩

/-- Time passes. -/
theorem elapsed (time : τ) : Held view w { w with clock := time } :=
  ⟨⟨[], rfl, rfl, .nil⟩, id, rfl, rfl, (Advances.elapsed time).consistent⟩

/-- A rebuild that is skipped is reported and counted, and balances itself. -/
theorem skipped (w : World τ) :
    Held view w
      { w with
          journal :=
            .counted .skipped ::
              .logged ⟨.debug, "API resource collection already in progress; skipping"⟩ ::
                w.journal } where
  received := ⟨[_, _], rfl, rfl, .cons rfl (.cons rfl .nil)⟩
  raised := id
  viewed := rfl
  booked := ledgerOf_skipped _
  consistent consistent :=
    (consistent.noted (.logged _) rfl nofun).noted (.counted .skipped) rfl nofun

end Held

namespace Op.Moves

variable {α β : Type} {view : History → β}

/-- Writing a plain entry while the lock may be held. -/
theorem record_held {entry : Entry τ} (plain : entry.isPlain = true) :
    (Op.record entry).Moves (Held view) := fun _ => .plain entry plain

/-- What holds wherever the lock is holds where it is held. -/
theorem locked {R : World τ → World τ → Prop} {op : Op τ α} (moves : op.Moves R) :
    op.Moves (Locked R) := fun w _ => moves w

end Op.Moves

/-! ## Calls under the lock -/

/-- Once the tracker is ready, its snapshot can be read. -/
theorem getSnapshot_of_ready {w : World τ} (ready : w.tracker.ready = true) :
    getSnapshot w = (.ok w.tracker.snapshot, w) := by
  rw [getSnapshot, Op.bind_apply, Op.tracker]
  simp only [ready, if_true, Op.pure_apply]

theorem getSnapshot_of_not_ready {w : World τ} (unready : w.tracker.ready = false) :
    getSnapshot w = (.error .notStarted, w) := by
  rw [getSnapshot, Op.bind_apply, Op.tracker]
  simp only [unready, Bool.false_eq_true, if_false, Op.raise]

/-- A rebuild that finds the lock taken is skipped: it reports and counts this, and does
nothing else. -/
theorem rebuild_of_locked (ctx : Context τ) (given : Option Signal) {w : World τ}
    (locked : w.tracker.rebuilding = true) :
    rebuild ctx given w =
      (.ok .skipped,
        { w with
            journal :=
              .counted .skipped ::
                .logged ⟨.debug, "API resource collection already in progress; skipping"⟩ ::
                  w.journal }) := by
  cases given <;>
    simp [rebuild, Context.stopOr, Op.bind_apply, Op.pure_apply, Op.tracker, locked, skipRebuild,
      Op.log, Op.count, Op.record_apply]

theorem rebuild_locked_calm (ctx : Context τ) (given : Option Signal) :
    (rebuild ctx given).Moves (Locked Calm) := by
  intro w locked
  rw [rebuild_of_locked ctx given locked]
  exact .skipped w

/-- Under the lock a rebuild asked for directly is skipped likewise. -/
theorem rebuildDirectly_of_locked (ctx : Context τ) (given : Option Signal) {w : World τ}
    (locked : w.tracker.rebuilding = true) :
    rebuildDirectly ctx given w = rebuild ctx given w := by
  rw [rebuildDirectly, Op.bind_apply, rebuild_of_locked ctx given locked]
  rfl

theorem rebuildDirectly_locked_calm (ctx : Context τ) (given : Option Signal) :
    (rebuildDirectly ctx given).Moves (Locked Calm) := by
  intro w locked
  rw [rebuildDirectly_of_locked ctx given locked]
  exact rebuild_locked_calm ctx given w locked

/-- Under the lock a rebuild is skipped, so that nobody is told of anything. -/
theorem collectAndNotify_locked_calm (ctx : Context τ) (given : Option Signal) :
    (collectAndNotify ctx given).Moves (Locked Calm) := by
  intro w locked
  have calm := rebuild_locked_calm ctx given w locked
  rw [rebuild_of_locked ctx given locked] at calm
  rw [collectAndNotify, Op.bind_apply, Op.attempt_apply, rebuild_of_locked ctx given locked]
  exact calm

/-- Waiting for a loop always returns, and is calm. -/
theorem join_returns (ctx : Context τ) (timeout : Seconds τ) (text : String) (loop : Loop)
    (w : World τ) : (join ctx timeout text loop w).1 = .ok () := by
  rw [join, Op.bind_of_ok (Op.record_apply ..)]
  split <;> rfl

theorem join_calm (ctx : Context τ) (timeout : Seconds τ) (text : String) (loop : Loop) :
    (join ctx timeout text loop).Moves Calm := by
  refine .bind (.record_held rfl) fun _ => ?_
  split
  · exact .record_held rfl
  · exact .pure ()

theorem interruptWatch_returns (w : World τ) : (interruptWatch w).1 = .ok () := by
  rw [interruptWatch, Op.bind_apply, Op.tracker]
  dsimp only
  split <;> rfl

theorem interruptWatch_calm : (interruptWatch : Op τ Unit).Moves Calm := by
  refine .bind .tracker fun tracker => ?_
  split
  · exact .record_held rfl
  · exact .pure ()

variable [Scalar τ]

/-- The limiter answers by its own state and the clock, and the journal says what it answered. -/
theorem askLimiter_apply (w : World τ) :
    askLimiter w =
      (.ok (w.tracker.limiter.admits w.clock),
        { w with
            tracker := w.tracker.receive (.asked w.clock (w.tracker.limiter.admits w.clock))
            journal := .asked w.clock (w.tracker.limiter.admits w.clock) :: w.journal }) := by
  rw [askLimiter, Op.bind_apply, Op.world]
  cases admits : w.tracker.limiter.admits w.clock <;>
    simp [admits, Op.bind_apply, Op.pure_apply, Op.update_apply, Op.record_apply, State.receive]

theorem askLimiter_calm : (askLimiter : Op τ Bool).Moves Calm := by
  intro w
  rw [askLimiter_apply]
  exact .done _ rfl rfl rfl rfl nofun

theorem trigger_locked_calm (ctx : Context τ) (given : Option Signal) :
    (trigger ctx given).Moves (Locked Calm) := by
  refine .bind askLimiter_calm.locked fun admitted => ?_
  cases admitted with
  | true => exact .bind (collectAndNotify_locked_calm ctx given) fun _ => .pure _
  | false => exact .bind (Op.Moves.record_held rfl).locked fun _ => .pure _

/-- Once all loops were waited for, stopping leaves the tracker without loops. -/
theorem stop_apply (ctx : Context τ) (timeout : Seconds τ) (w : World τ) :
    ∃ mid, Calm w mid ∧
      stop ctx timeout w = (.ok (), { mid with tracker := { mid.tracker with loops := [] } }) := by
  have raised : raiseOwnStop w = (.ok (), w.set w.tracker.ownStop) := rfl
  obtain ⟨watched, interrupted, interruptCalm⟩ :
      ∃ mid, interruptWatch (w.set w.tracker.ownStop) = (.ok (), mid) ∧
        Calm (w.set w.tracker.ownStop) mid :=
    ⟨_, Prod.ext (interruptWatch_returns _) rfl, interruptWatch_calm _⟩
  obtain ⟨mid, joined, joinCalm⟩ :
      ∃ mid, Op.each (join ctx timeout timeout.text) watched.tracker.loops watched = (.ok (), mid) ∧
        Calm watched mid :=
    ⟨_, Prod.ext (Op.each_returns (join_returns ctx timeout timeout.text) _ _) rfl,
      Op.Moves.each (fun loop _ => join_calm ctx timeout timeout.text loop) _⟩
  refine ⟨mid, ((Held.signalled _).trans interruptCalm).trans joinCalm, ?_⟩
  rw [stop, Op.bind_of_ok raised, Op.bind_of_ok interrupted, Op.bind_apply, Op.tracker]
  exact Op.bind_of_ok joined

/-- A call leaves behind its effect and a record of how it ended. -/
theorem perform_call (ctx : Context τ) {action : Action τ} (call : action.isCall = true)
    (w : World τ) :
    perform ctx action w =
      { (effectOf ctx action w).2 with
          journal :=
            .acted action (effectOf ctx action w).1 :: (effectOf ctx action w).2.journal } := by
  rw [perform, Op.bind_apply, Op.attempt_apply, call]
  rfl

/-- Another action leaves behind its effect alone. -/
theorem perform_silent (ctx : Context τ) {action : Action τ} (silent : action.isCall = false)
    (w : World τ) : perform ctx action w = (effectOf ctx action w).2 := by
  rw [perform, Op.bind_apply, Op.attempt_apply, silent]
  rfl

/-- An action that is no call sets a stop signal or lets time pass. -/
theorem perform_silent_calm (ctx : Context τ) {action : Action τ} (silent : action.isCall = false)
    (w : World τ) : Calm w (perform ctx action w) := by
  rw [perform_silent ctx silent]
  cases action with
  | raiseStop =>
    refine Op.Moves.bind (R := Calm) (.stopOr ctx.given) (fun signal => ?_) w
    exact .bind (fun w => Held.signalled signal) fun _ => .pure _
  | elapse time => exact Held.elapsed _
  | _ => cases silent

/-- Reading the snapshot changes nothing but the journal, which says what was read. -/
theorem perform_readSnapshot_calm (ctx : Context τ) (w : World τ) :
    Calm w (perform ctx .readSnapshot w) := by
  rw [perform_call ctx rfl]
  by_cases ready : w.tracker.ready = true
  · have effect : effectOf ctx .readSnapshot w = (.ok (.snapshot w.tracker.snapshot), w) :=
      Op.bind_of_ok (getSnapshot_of_ready ready)
    rw [effect]
    exact ⟨⟨[.reading w.tracker.snapshot], rfl, rfl, .cons rfl .nil⟩, id, rfl,
      ledgerOf_cons_of_unbooked rfl _, World.Consistent.noted_reading⟩
  · have effect : effectOf ctx .readSnapshot w = (.error .notStarted, w) :=
      Op.bind_of_error (getSnapshot_of_not_ready (Bool.eq_false_iff.mpr ready))
    rw [effect]
    exact Held.noted _ rfl rfl rfl rfl nofun rfl

theorem perform_subscribe_calm (ctx : Context τ) (name : Text) (w : World τ) :
    Calm w (perform ctx (.subscribe name) w) := by
  rw [perform_call ctx rfl]
  exact Held.done (.acted (.subscribe name) (.ok .nothing)) rfl rfl rfl rfl nofun

theorem perform_stopTracker_calm (ctx : Context τ) (w : World τ) :
    Calm w (perform ctx .stopTracker w) := by
  obtain ⟨mid, calm, stopped⟩ := stop_apply ctx (.whole 0) w
  have effect : effectOf ctx .stopTracker w =
      (.ok .nothing, { mid with tracker := { mid.tracker with loops := [] } }) := by
    rw [effectOf, Op.bind_of_ok stopped, Op.pure_apply]
  rw [perform_call ctx rfl, effect]
  exact calm.trans (Held.done (.acted .stopTracker (.ok .nothing)) rfl rfl rfl rfl nofun)

/-- Whether an action asks the tracker for a rebuild. -/
def Action.asksRebuild : Action τ → Bool
  | rebuild => true
  | trigger => true
  | _ => false

/-- A call back is calm that asks for no rebuild. -/
theorem perform_calm (ctx : Context τ) {action : Action τ} (idle : action.asksRebuild = false)
    (w : World τ) : Calm w (perform ctx action w) := by
  cases action with
  | readSnapshot => exact perform_readSnapshot_calm ctx w
  | subscribe name => exact perform_subscribe_calm ctx name w
  | stopTracker => exact perform_stopTracker_calm ctx w
  | raiseStop | elapse => exact perform_silent_calm ctx rfl w
  | rebuild | trigger => cases idle

/-- Under the lock, nothing but the calls themselves comes of calls back into the tracker,
whatever the surroundings would answer to the operations called. -/
theorem perform_locked_calm (ctx : Context τ) (action : Action τ) (w : World τ) :
    Locked Calm w (perform ctx action w) := by
  intro locked
  cases action with
  | readSnapshot | subscribe | stopTracker | raiseStop | elapse => exact perform_calm ctx rfl w
  | rebuild =>
    have effect : (effectOf ctx .rebuild).Moves (Locked Calm) :=
      .bind (rebuildDirectly_locked_calm ctx none) fun _ => .pure _
    rw [perform_call ctx rfl]
    exact (effect w locked).trans (.acted .rebuild _ nofun rfl)
  | trigger =>
    have effect : (effectOf ctx .trigger).Moves (Locked Calm) :=
      .bind (.stopOr _) fun stop => .bind (trigger_locked_calm ctx (some stop)) fun _ => .pure _
    rw [perform_call ctx rfl]
    exact (effect w locked).trans (.acted .trigger _ nofun rfl)

omit [Scalar τ] in
/-- A call that is nested too deep leaves nothing behind but a record of that. -/
theorem refuse_calm (action : Action τ) (w : World τ) : Calm w (refuse action w) := by
  refine Held.noted _ rfl rfl rfl rfl nofun ?_
  cases action <;> rfl

/-- At every depth of nesting, calls back are calm that ask for no rebuild. -/
theorem Context.nested_calm_of_idle (around : Surroundings τ) (given : Option Signal) (depth : Nat)
    {action : Action τ} (idle : action.asksRebuild = false) (w : World τ) :
    Calm w ((Context.nested around given depth).act action w) := by
  cases depth with
  | zero => exact refuse_calm action w
  | succ depth => exact perform_calm _ idle w

/-- At every depth of nesting, calls under the lock are calm. -/
theorem Context.nested_locked_calm (around : Surroundings τ) (given : Option Signal) (depth : Nat)
    (action : Action τ) (w : World τ) :
    Locked Calm w ((Context.nested around given depth).act action w) := by
  cases depth with
  | zero => exact fun _ => refuse_calm action w
  | succ depth => exact perform_locked_calm _ action w

end ApiSurface.Tracker
