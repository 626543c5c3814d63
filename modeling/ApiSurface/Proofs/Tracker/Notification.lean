import ApiSurface.Proofs.Tracker.Accounts

/-!
# Who is told of a change

A rebuild that changes the snapshot owes this to everyone registered by then; whoever
collects pays it at once, and whoever asks for a rebuild directly writes it off. So at
every depth of nesting the accounts are settled when an operation ends: in every world
that a run comes to, whoever registered was called once for every change since then that
was not written off.
-/

namespace ApiSurface.Tracker

variable {τ : Type} {ctx : Context τ} {w w' : World τ}

/-! ## Rebuilds -/

/-- What a rebuild owes by how it ended: one to everyone registered by then, if it changed the
snapshot. -/
def debtOf (registered : Nat) : Except Fault Outcome → Nat → Int
  | .ok .changed => upTo registered
  | _ => fun _ => 0

/-- A snapshot that is found to be right settles. -/
theorem Settles.confirmed (w : World τ) : Settles w w.confirmed := by
  have reported : Settles w
      { w with journal := .logged ⟨.debug, "API resources unchanged"⟩ :: w.journal } :=
    .noted_same rfl rfl rfl rfl
  exact trans_of Settles reported (.noted_same rfl rfl rfl rfl)

/-- A snapshot that is replaced is a change owed to everyone registered. -/
theorem Owing.replaced (w : World τ) (collected : Snapshot) :
    Owing (upTo w.tracker.subscribers.length) w (w.replaced collected) := by
  -- The snapshot and its gauge are in place when the first of the three entries is written.
  let installed : World τ :=
    { w with
        tracker := (w.replaced collected).tracker
        journal := .installed collected :: w.journal }
  have owing : Owing (upTo w.tracker.subscribers.length) w installed := by
    refine .noted (by simp) (by simp) (List.append_nil _).symm rfl fun accounted place => ?_
    rw [owed_installed, accounted.registered]
    rfl
  have logged : Settles installed
      { installed with
          journal := .logged ⟨.info, "API resources updated: " ++ collected.sizeText⟩ ::
            installed.journal } := .noted_same rfl rfl rfl rfl
  have reported : Settles installed (w.replaced collected) :=
    trans_of Settles logged (.noted_same rfl rfl rfl rfl)
  exact (owing.trans reported).of_eq fun place => add_zero _

/-- However a rebuild ends that finds the lock free, it owes a change to everyone registered by
then, and nothing else. -/
theorem Rebuilt.owing {stop : Signal} {result : Except Fault Outcome}
    (rebuilt : Rebuilt ctx stop w result w') :
    Owing (debtOf w'.tracker.subscribers.length result) w w' := by
  have began : Settles w w.begun := .noted_same rfl rfl rfl rfl
  have released : ∀ mid : World τ, Settles mid mid.released := fun _ => .of_same rfl rfl
  have passed : ∀ {around : Surroundings τ} {collected mid},
      Collected around collected w.begun mid → Settles w (mid.completed collected) := by
    intro around collected mid pass
    exact trans_of Settles (trans_of Settles began pass.held.settles)
      (.noted_same rfl rfl rfl rfl)
  cases rebuilt with
  | @failed fault mid held hindered =>
    have counted : Settles mid mid.failed := .noted_same rfl rfl rfl rfl
    exact trans_of Settles (trans_of Settles began held.settles)
      (trans_of Settles counted (released _))
  | undecided pass fails => exact trans_of Settles (passed pass) (released _)
  | unchanged pass equal =>
    exact trans_of Settles (trans_of Settles (passed pass) (.confirmed _)) (released _)
  | @changed collected mid pass different =>
    have owing := ((passed pass).trans (.replaced _ collected)).trans (released _)
    apply owing.of_eq
    intro place
    rw [zero_add, add_zero]
    rfl

/-- A rebuild owes a change to everyone registered when it ends, and nothing else. -/
theorem rebuild_owing (calm : ctx.IsCalm) (given : Option Signal) (w : World τ) :
    Owing
      (debtOf (rebuild ctx given w).2.tracker.subscribers.length (rebuild ctx given w).1) w
      (rebuild ctx given w).2 := by
  cases lock : w.tracker.rebuilding with
  | false => exact (rebuild_spec calm given lock).owing
  | true =>
    have skipped := (rebuild_locked_calm ctx given w lock).settles
    rw [rebuild_of_locked ctx given lock] at skipped ⊢
    exact skipped

/-- A rebuild that is asked for directly settles: it writes off what it owes. -/
theorem rebuildDirectly_settles (calm : ctx.IsCalm) (given : Option Signal) :
    (rebuildDirectly ctx given).Moves Settles := by
  intro w
  have owing := rebuild_owing calm given w
  cases ends : rebuild ctx given w with
  | mk result after =>
    rw [ends] at owing
    rw [rebuildDirectly]
    cases result with
    | error fault =>
      rw [Op.bind_of_error ends]
      exact owing
    | ok outcome =>
      rw [Op.bind_of_ok ends]
      cases outcome with
      | unchanged | skipped => exact owing
      | changed =>
        have writtenOff : Owing (fun place => -upTo after.tracker.subscribers.length place) after
            { after with journal := .untold :: after.journal } := by
          refine .noted (by simp) (by simp) (List.append_nil _).symm rfl fun accounted place => ?_
          rw [owed_untold, accounted.registered, sub_eq_add_neg]
          rfl
        exact (owing.trans writtenOff).of_eq fun place => add_neg_cancel _

/-! ## Telling -/

/-- The entry that a call of a subscriber is, if the subscriber is a client. -/
def Subscriber.calls : Subscriber τ → Journal τ
  | client name _ => [.notified name]
  | changeLogger => []

/-- The world in which a subscriber who holds a place has just been told of a change. -/
def World.called (w : World τ) (subscriber : Subscriber τ) (place : Nat) : World τ :=
  { w with journal := subscriber.calls ++ .told place :: w.journal }

/-- One paid to whoever holds a place. -/
def paidTo (place other : Nat) : Int := if place = other then -1 else 0

/-- A client is called when told of a change, and nobody else is. -/
theorem callsOf_called (w : World τ) (subscriber : Subscriber τ) (place : Nat) (name : Text) :
    callsOf name (w.called subscriber place).journal =
      callsOf name w.journal + if subscriber.isNamed name then 1 else 0 := by
  cases subscriber with
  | client other reply =>
    simp [World.called, Subscriber.calls, callsOf, List.countP_cons, Entry.isCallOf,
      Subscriber.isNamed]
  | changeLogger =>
    simp [World.called, Subscriber.calls, callsOf, Entry.isCallOf, Subscriber.isNamed]

theorem tellingsToNamed_called {subscribers : List (Subscriber τ)} {subscriber : Subscriber τ}
    {place : Nat} (held : subscribers[place]? = some subscriber) (w : World τ) (name : Text) :
    tellingsToNamed subscribers name (w.called subscriber place).journal =
      tellingsToNamed subscribers name w.journal + if subscriber.isNamed name then 1 else 0 := by
  cases subscriber with
  | client other reply =>
    simp [World.called, Subscriber.calls, tellingsToNamed, List.countP_cons, Entry.isToldToNamed,
      held]
  | changeLogger =>
    simp [World.called, Subscriber.calls, tellingsToNamed, List.countP_cons, Entry.isToldToNamed,
      held]

/-- Being told pays one debt, and is a call if a client is told. -/
theorem Owing.called {subscriber : Subscriber τ} {place : Nat}
    (held : w.tracker.subscribers[place]? = some subscriber) :
    Owing (paidTo place) w (w.called subscriber place) where
  subscribers := List.prefix_refl _
  accounted accounted := by
    obtain ⟨within, _⟩ := List.getElem?_eq_some_iff.mp held
    refine ⟨?_, fun other told => ?_, fun name => ?_⟩
    · cases subscriber <;> exact accounted.registered
    · have known : other = place ∨ .told other ∈ w.journal := by
        cases subscriber <;> simpa [World.called, Subscriber.calls] using told
      rcases known with rfl | before
      · exact within
      · exact accounted.places other before
    · rw [callsOf_called, accounted.calls]
      exact (tellingsToNamed_called held w name).symm
  balance _ other := by
    have called : owed other (w.called subscriber place).journal =
        owed other (.told place :: w.journal) := by
      cases subscriber with
      | client name reply => exact owed_other other _ rfl nofun nofun
      | changeLogger => rfl
    rw [called, owed_told, paidTo]
    split <;> omega

section Telling

variable (acts : ∀ action w, Settles w (ctx.act action w))
include acts

/-- What a subscriber does who was called settles. -/
theorem tell_settles (subscriber : Subscriber τ) (place : Nat) (w : World τ) :
    Settles (w.called subscriber place)
      (tell ctx subscriber { w with journal := .told place :: w.journal }).2 := by
  cases subscriber with
  | client name reply =>
    rw [tell, Context.ask_apply]
    exact Op.Moves.takeActions acts _ (w.called (.client name reply) place)
  | changeLogger =>
    refine Op.Moves.bind (R := Settles) getSnapshot_calm.tolerated (fun snapshot => ?_) _
    exact .plain rfl

/-- Telling someone of a change pays them one debt, and nothing else. -/
theorem notify_owing {subscriber : Subscriber τ} {place : Nat}
    (held : w.tracker.subscribers[place]? = some subscriber) :
    Owing (paidTo place) w (notify ctx (subscriber, place) w).2 := by
  have reported : Settles (tell ctx subscriber { w with journal := .told place :: w.journal }).2
      (notify ctx (subscriber, place) w).2 := by
    rw [notify, Op.bind_of_ok (Op.record_apply ..), Op.bind_apply, Op.attempt_apply]
    cases (tell ctx subscriber { w with journal := .told place :: w.journal }).1 with
    | ok _ => exact .refl _
    | error fault =>
      have counted : (Op.count .subscriberErrors : Op τ Unit).Moves Settles :=
        fun _ => .noted_same rfl rfl rfl rfl
      exact Op.Moves.bind counted (fun _ => .plain rfl) _
  have settles := trans_of Settles (tell_settles acts subscriber place w) reported
  exact ((Owing.called held).trans settles).of_eq fun other => add_zero _

/-- Telling subscribers one after the other pays one debt to each place told. -/
theorem notifyEach_owing (registered : List (Subscriber τ × Nat))
    (held : ∀ member ∈ registered, w.tracker.subscribers[member.2]? = some member.1) :
    Owing (fun place => -(registered.map Prod.snd).count place) w
      (Op.each (notify ctx) registered w).2 := by
  induction registered generalizing w with
  | nil => exact (Settles.refl w).of_eq fun _ => rfl
  | cons member rest ih =>
    obtain ⟨here, others⟩ := List.forall_mem_cons.mp held
    have first : Owing (paidTo member.2) w (notify ctx member w).2 := notify_owing acts here
    have heldStill : ∀ other ∈ rest,
        (notify ctx member w).2.tracker.subscribers[other.2]? = some other.1 :=
      fun other among => holds_of_prefix first.subscribers (others other among)
    have returned : notify ctx member w = (.ok (), (notify ctx member w).2) :=
      Prod.ext (notify_returns ctx member w) rfl
    rw [Op.each, Op.bind_of_ok returned]
    apply (first.trans (ih heldStill)).of_eq
    intro place
    rw [List.map_cons, List.count_cons, paidTo]
    by_cases same : member.2 = place <;> simp [same]

/-- Telling everyone pays one debt to everyone who is registered. -/
theorem notifyAll_owing (w : World τ) :
    Owing (fun place => -upTo w.tracker.subscribers.length place) w (notifyAll ctx w).2 := by
  have held : ∀ member ∈ w.tracker.subscribers.zipIdx,
      w.tracker.subscribers[member.2]? = some member.1 := fun _ => List.mem_zipIdx_iff_getElem?.mp
  apply (notifyEach_owing acts _ held).of_eq
  intro place
  rw [List.zipIdx_map_snd, ← List.range_eq_range', List.count_range, upTo]
  split <;> rfl

/-- A rebuild that everyone is told of settles: what it owes is paid at once. -/
theorem collectAndNotify_settles (calm : ctx.IsCalm) (given : Option Signal) :
    (collectAndNotify ctx given).Moves Settles := by
  intro w
  have owing := rebuild_owing calm given w
  cases ends : rebuild ctx given w with
  | mk result after =>
    rw [ends] at owing
    cases result with
    | error fault =>
      obtain ⟨later, reported, collects⟩ := collectAndNotify_of_error ends
      rw [collects]
      exact trans_of Settles owing reported.settles
    | ok outcome =>
      cases outcome with
      | unchanged | skipped =>
        rw [collectAndNotify_of_idle ends nofun]
        exact owing
      | changed =>
        rw [collectAndNotify_of_changed ends]
        exact (owing.trans (notifyAll_owing acts after)).of_eq fun place => add_neg_cancel _

end Telling

/-- At every depth of nesting, the surroundings and the rebuilds they ask for settle. -/
theorem Context.nested_settles [Scalar τ] (around : Surroundings τ) (given : Option Signal)
    (depth : Nat) : (Context.nested around given depth).Lawful Settles := by
  apply nested_lawful_of_acts around given _ depth
  intro depth acts
  have calm := nested_locked_calm around given depth
  exact ⟨calm, acts, rebuildDirectly_settles calm, collectAndNotify_settles acts calm⟩

/-! ## What goes unnoticed -/

/-- Where nothing tells of a change, nobody is told of one. -/
theorem tellingsTo_uneventful {news journal : Journal τ} (uneventful : Uneventful news)
    (place : Nat) : tellingsTo place (news ++ journal) = tellingsTo place journal := by
  have none : news.countP (Entry.isToldTo place) = 0 := by
    rw [List.countP_eq_zero]
    intro entry member told
    have here := uneventful entry member
    cases entry with
    | told other => cases here
    | _ => cases told
  rw [tellingsTo, List.countP_append, none, zero_add]
  rfl

/-- Where nothing tells of a change, there is none. -/
theorem changesSince_uneventful {news journal : Journal τ} (uneventful : Uneventful news)
    (place : Nat) : changesSince place (news ++ journal) = changesSince place journal := by
  induction news with
  | nil => rfl
  | cons entry earlier ih =>
    obtain ⟨here, before⟩ := List.forall_mem_cons.mp uneventful
    rw [List.cons_append, changesSince_cons, ih before]
    simp [Entry.not_isChange_of_uneventful here]

/-- Nobody is told of a rebuild asked for directly that changes the snapshot, which is one change
more for everyone who was registered. -/
theorem rebuildDirectly_unnoticed (calm : ctx.IsCalm) (given : Option Signal)
    (free : w.tracker.rebuilding = false) (changed : (rebuild ctx given w).1 = .ok .changed)
    (place : Nat) :
    tellingsTo place (rebuildDirectly ctx given w).2.journal = tellingsTo place w.journal ∧
      (place < registrationsIn w.journal →
        changesSince place (rebuildDirectly ctx given w).2.journal =
          changesSince place w.journal + 1) := by
  have rebuilt := rebuild_spec calm given free
  cases ends : rebuild ctx given w with
  | mk result after =>
    rw [ends] at changed rebuilt
    cases changed
    rw [rebuildDirectly, Op.bind_of_ok ends]
    cases rebuilt with
    | @changed collected mid pass different =>
      obtain ⟨news, passed, uneventful⟩ := pass.uneventful
      have tellings : tellingsTo place (mid.completed collected).journal =
          tellingsTo place w.journal := by
        rw [passed, tellingsTo_uneventful uneventful]
      have changes : changesSince place (mid.completed collected).journal =
          changesSince place w.journal := by
        rw [passed, changesSince_uneventful uneventful]
      have grown : registrationsIn w.journal ≤ registrationsIn (mid.completed collected).journal :=
        List.Sublist.countP_le (passed ▸ List.sublist_append_right ..)
      constructor
      · exact tellings
      · intro registered
        have now : place < registrationsIn (mid.completed collected).journal := by omega
        change changesSince place (.untold :: .counted .changed :: .logged _ ::
          .installed collected :: (mid.completed collected).journal) = _
        simp only [changesSince_cons, changes, Entry.isChange, now]
        simp

variable [Scalar τ]

/-- In every world that a run comes to, whoever registered was told of every change since then, save
those that came of rebuilds asked for directly; each client is called when told and at no other
time. A rebuild asked for directly that changes the snapshot next is one more change for everyone
registered, and nobody is told of it. -/
theorem Reachable.calls_account_for_changes {settings : Settings τ}
    (reachable : Reachable settings w) :
    registrationsIn w.journal = w.tracker.subscribers.length ∧
      (∀ place, tellingsTo place w.journal + untoldSince place w.journal =
        changesSince place w.journal) ∧
      (∀ name, callsOf name w.journal = tellingsToNamed w.tracker.subscribers name w.journal) ∧
      ∀ (around : Surroundings τ) outer depth given,
        let ctx := Context.nested around outer depth
        let after := (rebuildDirectly ctx given w).2
        (rebuild ctx given w).1 = .ok .changed → ∀ place,
          tellingsTo place after.journal = tellingsTo place w.journal ∧
            (place < w.tracker.subscribers.length →
              changesSince place after.journal = changesSince place w.journal + 1) := by
  obtain ⟨clock, settles⟩ := reachable.follows Context.nested_settles
  have fresh := World.accounted_fresh settings clock
  have accounted := settles.accounted fresh
  refine ⟨accounted.registered, fun place => ?_, accounted.calls, ?_⟩
  · have balance : owed place w.journal = 0 + 0 := settles.balance fresh place
    unfold owed at balance
    omega
  · intro around outer depth given ctx after changed place
    have calm := Context.nested_locked_calm around outer depth
    rw [← accounted.registered]
    exact rebuildDirectly_unnoticed calm given reachable.consistent.2 changed place

/-- One client registers before the tracker is started and another after it. A collection then finds
other resources: both are told, and the first has missed what was found at startup. A rebuild
asked for directly, which finds the first ones again, is missed by both. -/
theorem calls_account_for_changes_after_start :
    let core : GroupVersion := ⟨"", "v1"⟩
    let found (name : Text) : Surroundings Rat :=
      .steady (.ok [core]) (fun _ => .ok (some [.ofTexts name true "Kind" ["get"]])) (.ok [])
    let client (name : Text) : Subscriber Rat :=
      .client name fun _ => { actions := [], outcome := .ok () }
    let request (name : Text) (operation : Operation Rat) : Request Rat :=
      { around := found name, given := none, depth := 1, operation }
    let w := (World.fresh .exact 0).after
      [request "pods" (.subscribe (client "a")), request "pods" .start,
        request "pods" (.subscribe (client "b")), request "nodes" .collect]
    let after := (rebuildDirectly (Context.nested (found "pods") none 1) none w).2
    Reachable .exact w ∧
      tellingsTo 0 w.journal = 1 ∧ untoldSince 0 w.journal = 1 ∧ changesSince 0 w.journal = 2 ∧
      tellingsTo 1 w.journal = 1 ∧ untoldSince 1 w.journal = 0 ∧ changesSince 1 w.journal = 1 ∧
      callsOf "a" w.journal = 1 ∧
      tellingsTo 1 after.journal = 1 ∧ changesSince 1 after.journal = 2 := by
  intro core found client request w after
  have reachable : Reachable .exact w :=
    .performed (.performed (.performed (.performed (.fresh (by decide) (by decide) 0) _) _) _) _
  obtain ⟨_, balance, calls, unnoticed⟩ := Reachable.calls_account_for_changes reachable
  have told : tellingsTo 0 w.journal = 1 ∧ tellingsTo 1 w.journal = 1 := by decide +kernel
  have untold : untoldSince 0 w.journal = 1 ∧ untoldSince 1 w.journal = 0 := by decide +kernel
  have named : tellingsToNamed w.tracker.subscribers "a" w.journal = 1 := by decide +kernel
  have within : 1 < w.tracker.subscribers.length := by decide +kernel
  have ended : (rebuild (Context.nested (found "pods") none 1) none w).1.toOption =
      some .changed := by decide +kernel
  have changed : (rebuild (Context.nested (found "pods") none 1) none w).1 = .ok .changed := by
    cases result : (rebuild (Context.nested (found "pods") none 1) none w).1 with
    | error fault =>
      rw [result] at ended
      cases ended
    | ok outcome =>
      rw [result] at ended
      cases ended
      rfl
  obtain ⟨tellings, changes⟩ := unnoticed (found "pods") none 1 none changed 1
  have first := balance 0
  have second := balance 1
  have grown := changes within
  refine ⟨reachable, told.1, untold.1, by omega, told.2, untold.2, by omega, ?_, ?_, ?_⟩
  · rw [calls, named]
  · exact tellings.trans told.2
  · rw [grown]
    omega

/-- A client who registers before the tracker is started is not told of what is found at startup. -/
theorem change_unnoticed_at_start :
    ¬ ∀ {settings : Settings Rat} {w : World Rat}, Reachable settings w →
      ∀ place, place < w.tracker.subscribers.length →
        tellingsTo place w.journal = changesSince place w.journal := by
  intro noticed
  let found : Surroundings Rat :=
    .steady (.ok [⟨"", "v1"⟩]) (fun _ => .ok (some [.ofTexts "pods" true "Pod" ["get"]])) (.ok [])
  let client : Subscriber Rat := .client "a" fun _ => { actions := [], outcome := .ok () }
  let request (operation : Operation Rat) : Request Rat :=
    { around := found, given := none, depth := 1, operation }
  let w := (World.fresh .exact 0).after [request (.subscribe client), request .start]
  have reachable : Reachable .exact w :=
    .performed (.performed (.fresh (by decide) (by decide) 0) _) _
  have within : 0 < w.tracker.subscribers.length := by decide +kernel
  have told : tellingsTo 0 w.journal = 0 := by decide +kernel
  have changes : changesSince 0 w.journal = 1 := by decide +kernel
  have same := noticed reachable 0 within
  rw [told, changes] at same
  cases same

end ApiSurface.Tracker
