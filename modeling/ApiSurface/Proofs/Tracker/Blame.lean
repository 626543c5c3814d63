import ApiSurface.Proofs.Tracker.Accounts

/-!
# Those who fail when told

Whether someone fails who is told of a change can be read off the journal: it is what a client
answers after everything that happened until then, and the change logger fails as long as the
tracker is not ready. So the journal says how many failed, and each is counted once, whatever
those who are told do meanwhile; a rebuild by itself tells nobody.
-/

namespace ApiSurface.Tracker

variable {τ : Type} {ctx : Context τ} {w w' w'' : World τ}

/-- Whether a subscriber fails who is told of a change after everything that happened. -/
def Subscriber.fails (ready : Bool) (journal : Journal τ) : Subscriber τ → Bool
  | client name reply => !(reply (.notified name :: journal)).outcome.isOk
  | changeLogger => !ready

/-- Whether an entry says that someone was told of a change who then failed. -/
def Entry.isFailure (subscribers : List (Subscriber τ)) (ready : Bool) (earlier : Journal τ) :
    Entry τ → Bool
  | told place => subscribers[place]?.any (Subscriber.fails ready (.told place :: earlier))
  | _ => false

/-- How many of those failed who were told of a change. -/
def failuresIn (subscribers : List (Subscriber τ)) (ready : Bool) : Journal τ → Nat
  | [] => 0
  | entry :: earlier =>
    failuresIn subscribers ready earlier +
      if entry.isFailure subscribers ready earlier then 1 else 0

/-- Only who is told can fail. -/
theorem failuresIn_cons_of_untold (subscribers : List (Subscriber τ)) (ready : Bool)
    {entry : Entry τ} (untold : ∀ place, entry ≠ .told place) (journal : Journal τ) :
    failuresIn subscribers ready (entry :: journal) = failuresIn subscribers ready journal := by
  cases entry with
  | told place => exact absurd rfl (untold place)
  | _ => rfl

/-! ## Where nobody is told -/

/-- What is no notice neither says who is told nor counts a failure. -/
theorem Entry.untold_of_not_isNotice {entry : Entry τ} (unnoticed : entry.isNotice = false) :
    (∀ place, entry ≠ .told place) ∧ entry.isCount .subscriberErrors = false := by
  constructor
  · rintro place rfl
    cases unnoticed
  · cases entry with
    | counted counter =>
      cases counter with
      | subscriberErrors => cases unnoticed
      | _ => rfl
    | _ => rfl

/-- What happens between a change and the next is no notice. -/
theorem Entry.not_isNotice_of_uneventful {entry : Entry τ}
    (uneventful : entry.isEventful = false) : entry.isNotice = false := by
  unfold isNotice
  split
  · cases uneventful
  · exact Entry.not_isTelling_of_uneventful uneventful

/-- Between these worlds nobody was told of a change, and subscribers were added at most. -/
structure Unnoticed (w w' : World τ) : Prop where
  subscribers : w.tracker.subscribers <+: w'.tracker.subscribers
  ready : w'.tracker.ready = w.tracker.ready
  news : ∃ news, w'.journal = news ++ w.journal ∧ ∀ entry ∈ news, entry.isNotice = false

namespace Unnoticed

/-- An entry that is no notice is written, and those who wait to be told stay the same. -/
theorem noted {entry : Entry τ} {tracker : State τ}
    (subscribers : tracker.subscribers = w.tracker.subscribers)
    (ready : tracker.ready = w.tracker.ready) (unnoticed : entry.isNotice = false) :
    Unnoticed w { w with tracker := tracker, journal := entry :: w.journal } :=
  ⟨subscribers ▸ List.prefix_refl _, ready, [entry], rfl, List.forall_mem_singleton.mpr unnoticed⟩

theorem trans (first : Unnoticed w w') (second : Unnoticed w' w'') : Unnoticed w w'' := by
  obtain ⟨earlier, journal, before⟩ := first.news
  obtain ⟨later, journal', after⟩ := second.news
  refine ⟨first.subscribers.trans second.subscribers, second.ready.trans first.ready,
    later ++ earlier, ?_, List.forall_mem_append.mpr ⟨after, before⟩⟩
  rw [journal', journal, List.append_assoc]

instance : IsPreorder (World τ) Unnoticed where
  refl _ := ⟨List.prefix_refl _, rfl, [], rfl, nofun⟩
  trans _ _ _ := trans

end Unnoticed

/-- Nobody is told of a change while the lock is held. -/
theorem Held.unnoticed {β : Type} {view : History → β} (held : Held view w w') :
    Unnoticed w w' := by
  obtain ⟨news, journal, _, uneventful⟩ := held.received
  exact ⟨held.settles.subscribers, held.quiet.ready, news, journal, fun entry member =>
    Entry.not_isNotice_of_uneventful (uneventful entry member)⟩

instance : Untroubled (Unnoticed : World τ → World τ → Prop) where
  ofCalm := Held.unnoticed
  ofHeld := Held.unnoticed
  ofBegun := .noted rfl rfl rfl
  ofFailed := .noted rfl rfl rfl
  ofUndecided _ := .noted rfl rfl rfl
  ofUnchanged {w} collected := by
    have passed : Unnoticed w (w.completed collected) := .noted rfl rfl rfl
    have reported : Unnoticed (w.completed collected)
        { w.completed collected with
            journal := .logged ⟨.debug, "API resources unchanged"⟩ ::
              (w.completed collected).journal } := .noted rfl rfl rfl
    exact (passed.trans reported).trans (.noted rfl rfl rfl)
  ofChanged {w} collected := by
    have passed : Unnoticed w (w.completed collected) := .noted rfl rfl rfl
    let installed : World τ :=
      { w.completed collected with
          tracker := ((w.completed collected).replaced collected).tracker
          journal := .installed collected :: (w.completed collected).journal }
    have placed : Unnoticed (w.completed collected) installed := .noted rfl rfl rfl
    have reported : Unnoticed installed
        { installed with
            journal := .logged ⟨.info, "API resources updated: " ++ collected.sizeText⟩ ::
              installed.journal } := .noted rfl rfl rfl
    exact ((passed.trans placed).trans reported).trans (.noted rfl rfl rfl)

/-- A rebuild tells nobody by itself, however it ends. -/
theorem rebuild_unnoticed (calm : ctx.IsCalm) (given : Option Signal) :
    (rebuild ctx given).Moves Unnoticed := rebuild_untroubled calm given

/-! ## Failures and their counts -/

/-- Between these worlds subscribers were added at most, and so many more of those told failed than
were counted. -/
structure Uncounted (failures : Int) (w w' : World τ) : Prop where
  subscribers : w.tracker.subscribers <+: w'.tracker.subscribers
  ready : w'.tracker.ready = w.tracker.ready
  balance : ∀ subscribers, w'.tracker.subscribers <+: subscribers →
    (failuresIn subscribers w.tracker.ready w'.journal : Int) + countOf .subscriberErrors w.journal =
      failuresIn subscribers w.tracker.ready w.journal + countOf .subscriberErrors w'.journal
        + failures

/-- Between these worlds, each of those told who failed was counted. -/
abbrev Blamed : World τ → World τ → Prop := Uncounted 0

namespace Uncounted

variable {failures failures' : Int}

theorem trans (first : Uncounted failures w w') (second : Uncounted failures' w' w'') :
    Uncounted (failures + failures') w w'' where
  subscribers := first.subscribers.trans second.subscribers
  ready := second.ready.trans first.ready
  balance subscribers later := by
    have before := first.balance subscribers (second.subscribers.trans later)
    have after := second.balance subscribers later
    rw [first.ready] at after
    omega

/-- An entry is written that may count a failure or say of someone who failed that they were told,
and subscribers may be added. -/
theorem noted {entry : Entry τ} {tracker : State τ}
    (subscribers : w.tracker.subscribers <+: tracker.subscribers)
    (ready : tracker.ready = w.tracker.ready)
    (said : ∀ subscribers, tracker.subscribers <+: subscribers →
      (if entry.isFailure subscribers w.tracker.ready w.journal then (1 : Int) else 0) =
        (if entry.isCount .subscriberErrors then 1 else 0) + failures) :
    Uncounted failures w { w with tracker := tracker, journal := entry :: w.journal } where
  subscribers := subscribers
  ready := ready
  balance later within := by
    have here := said later within
    rw [failuresIn, countOf_cons]
    split_ifs at here ⊢ <;> push_cast <;> omega

/-- The same number may be written in another way. -/
theorem of_eq (uncounted : Uncounted failures w w') (same : failures = failures') :
    Uncounted failures' w w' := same ▸ uncounted

end Uncounted

/-- Where nobody is told, nobody fails and no failure is counted. -/
theorem failuresIn_unnoticed {news : Journal τ} (unnoticed : ∀ entry ∈ news, entry.isNotice = false)
    (subscribers : List (Subscriber τ)) (ready : Bool) (earlier : Journal τ) :
    failuresIn subscribers ready (news ++ earlier) = failuresIn subscribers ready earlier ∧
      countOf .subscriberErrors (news ++ earlier) = countOf .subscriberErrors earlier := by
  induction news with
  | nil => exact ⟨rfl, rfl⟩
  | cons entry news ih =>
    obtain ⟨here, before⟩ := List.forall_mem_cons.mp unnoticed
    obtain ⟨untold, uncounted⟩ := Entry.untold_of_not_isNotice here
    rw [List.cons_append, failuresIn_cons_of_untold subscribers ready untold, countOf_cons,
      uncounted]
    exact ih before

theorem Unnoticed.blamed (unnoticed : Unnoticed w w') : Blamed w w' where
  subscribers := unnoticed.subscribers
  ready := unnoticed.ready
  balance later _ := by
    obtain ⟨news, journal, none⟩ := unnoticed.news
    obtain ⟨failures, counted⟩ := failuresIn_unnoticed none later w.tracker.ready w.journal
    rw [journal, failures, counted, add_zero]

instance : Tolerant (Blamed : World τ → World τ → Prop) where
  refl w := (refl_of Unnoticed w).blamed
  trans _ _ _ first second := (first.trans second).of_eq (add_zero 0)
  ofCalm calm := calm.unnoticed.blamed

/-- An entry that neither says who is told nor counts a failure. -/
theorem Blamed.noted {entry : Entry τ} (untold : ∀ place, entry ≠ .told place)
    (uncounted : entry.isCount .subscriberErrors = false) (w : World τ) :
    Blamed w { w with journal := entry :: w.journal } := by
  refine Uncounted.noted (List.prefix_refl _) rfl fun later _ => ?_
  cases entry with
  | told place => exact absurd rfl (untold place)
  | _ => simp [Entry.isFailure, uncounted]

/-! ## Telling -/

/-- Someone who is told fails exactly if they do after everything that happened until then. -/
theorem tell_isOk (ctx : Context τ) (subscriber : Subscriber τ) (w : World τ) :
    (tell ctx subscriber w).1.isOk = !subscriber.fails w.tracker.ready w.journal := by
  cases subscriber with
  | client name reply =>
    rw [tell, Context.ask_apply]
    exact (Bool.not_not _).symm
  | changeLogger =>
    rw [tell]
    cases ready : w.tracker.ready with
    | true =>
      rw [Op.bind_of_ok (getSnapshot_of_ready ready)]
      rfl
    | false =>
      rw [Op.bind_of_error (getSnapshot_of_not_ready ready)]
      rfl

/-- The world in which whoever holds a place is about to be told of a change. -/
def World.toldTo (w : World τ) (place : Nat) : World τ :=
  { w with journal := .told place :: w.journal }

/-- The world in which someone was counted and reported who failed when told. -/
def World.subscriberFailed (w : World τ) : World τ :=
  { w with
      journal :=
        .logged ⟨.error, "API resource change subscriber failed"⟩ ::
          .counted .subscriberErrors :: w.journal }

/-- The world once whoever was told has come back: a failure is counted and reported. -/
def World.heardBack (w : World τ) : Except Fault Unit → World τ
  | .ok _ => w
  | .error _ => w.subscriberFailed

/-- Telling a subscriber comes back however the subscriber does. -/
theorem notify_apply (ctx : Context τ) (subscriber : Subscriber τ) (place : Nat) (w : World τ) :
    notify ctx (subscriber, place) w =
      (.ok (), (tell ctx subscriber (w.toldTo place)).2.heardBack
        (tell ctx subscriber (w.toldTo place)).1) := by
  rw [notify, Op.bind_of_ok (Op.record_apply ..), Op.bind_apply, Op.attempt_apply, World.toldTo]
  cases (tell ctx subscriber { w with journal := .told place :: w.journal }).1 with
  | ok _ => rfl
  | error fault => rfl

section Telling

variable (acts : ∀ action w, Blamed w (ctx.act action w))
include acts

theorem tell_blamed (subscriber : Subscriber τ) : (tell ctx subscriber).Moves Blamed := by
  cases subscriber with
  | client name reply => exact .ask acts fun w => .noted (by simp) rfl w
  | changeLogger => exact .bind getSnapshot_calm.tolerated fun _ => .plain rfl

/-- Whoever fails when told is counted, and nobody else. -/
theorem notify_blamed {subscriber : Subscriber τ} {place : Nat}
    (held : w.tracker.subscribers[place]? = some subscriber) :
    Blamed w (notify ctx (subscriber, place) w).2 := by
  have tells : Blamed (w.toldTo place) (tell ctx subscriber (w.toldTo place)).2 :=
    tell_blamed acts subscriber _
  have isOk : (tell ctx subscriber (w.toldTo place)).1.isOk =
      !subscriber.fails w.tracker.ready (w.toldTo place).journal := tell_isOk ..
  -- Being told is a failure on record already if the subscriber is going to fail.
  have told : Uncounted (if subscriber.fails w.tracker.ready (w.toldTo place).journal then 1 else 0)
      w (w.toldTo place) := by
    refine .noted (List.prefix_refl _) rfl fun later within => ?_
    have holder : later[place]? = some subscriber := holds_of_prefix within held
    have said : (Entry.told place).isFailure later w.tracker.ready w.journal =
        subscriber.fails w.tracker.ready (w.toldTo place).journal := by
      simp [Entry.isFailure, holder, World.toldTo]
    rw [said]
    simp [Entry.isCount]
  rw [notify_apply]
  cases ended : tell ctx subscriber (w.toldTo place) with
  | mk result after =>
    rw [ended] at tells isOk
    cases result with
    | ok _ =>
      have succeeds : subscriber.fails w.tracker.ready (w.toldTo place).journal = false := by
        simpa [Except.isOk, Except.toBool] using isOk
      exact (told.trans tells).of_eq (by simp [succeeds])
    | error fault =>
      have fails : subscriber.fails w.tracker.ready (w.toldTo place).journal = true := by
        simpa [Except.isOk, Except.toBool] using isOk
      have counted : Uncounted (-1) after
          { after with journal := .counted .subscriberErrors :: after.journal } :=
        .noted (List.prefix_refl _) rfl fun _ _ => rfl
      have reported : Blamed { after with journal := .counted .subscriberErrors :: after.journal }
          after.subscriberFailed := .noted (by simp) rfl _
      exact (((told.trans tells).trans counted).trans reported).of_eq (by simp [fails])

/-- So it is when subscribers are told one after the other. -/
theorem notifyEach_blamed (registered : List (Subscriber τ × Nat))
    (held : ∀ member ∈ registered, w.tracker.subscribers[member.2]? = some member.1) :
    Blamed w (Op.each (notify ctx) registered w).2 := by
  induction registered generalizing w with
  | nil => exact refl_of Blamed w
  | cons member rest ih =>
    obtain ⟨here, others⟩ := List.forall_mem_cons.mp held
    have first : Blamed w (notify ctx member w).2 := notify_blamed acts here
    have heldStill : ∀ other ∈ rest,
        (notify ctx member w).2.tracker.subscribers[other.2]? = some other.1 :=
      fun other among => holds_of_prefix first.subscribers (others other among)
    have returned : notify ctx member w = (.ok (), (notify ctx member w).2) :=
      Prod.ext (notify_returns ctx member w) rfl
    rw [Op.each, Op.bind_of_ok returned]
    exact trans_of Blamed first (ih heldStill)

theorem notifyAll_blamed : (notifyAll ctx).Moves Blamed := fun _ =>
  notifyEach_blamed acts _ fun _ => List.mem_zipIdx_iff_getElem?.mp

/-- A rebuild that everyone is told of counts whoever fails. -/
theorem collectAndNotify_blamed (calm : ctx.IsCalm) (given : Option Signal) :
    (collectAndNotify ctx given).Moves Blamed := by
  have rebuilds : (rebuild ctx given).Moves Blamed :=
    (rebuild_unnoticed calm given).mono Unnoticed.blamed
  refine .bind rebuilds.attempt fun result => ?_
  split
  · exact .bind (.plain (collectionFailure_plain _)) fun _ => .pure _
  · exact .bind (notifyAll_blamed acts) fun _ => .pure _
  · exact .pure _

end Telling

theorem rebuildDirectly_blamed (calm : ctx.IsCalm) (given : Option Signal) :
    (rebuildDirectly ctx given).Moves Blamed := by
  refine .bind ((rebuild_unnoticed calm given).mono Unnoticed.blamed) fun outcome => ?_
  split
  · exact .bind (fun w => .noted (by simp) rfl w) fun _ => .pure _
  · exact .pure _

/-- At every depth of nesting, whoever fails when told is counted. -/
theorem Context.nested_blamed [Scalar τ] (around : Surroundings τ) (given : Option Signal)
    (depth : Nat) : (Context.nested around given depth).Lawful Blamed := by
  apply nested_lawful_of_acts around given _ depth
  intro depth acts
  have calm := nested_locked_calm around given depth
  exact ⟨calm, acts, rebuildDirectly_blamed calm, collectAndNotify_blamed acts calm⟩

end ApiSurface.Tracker
