import ApiSurface.Proofs.Tracker.Asking
import ApiSurface.Proofs.Tracker.Known

/-!
# Which events ask for a rebuild

What is known at any time is what was listed last and what was added since. An event asks
the limiter for a rebuild, once, exactly if it triggers one: a deletion always does, a
modification unless the definition is being torn down, and an addition only of what is
neither known nor being torn down. So the additions with which every watch begins anew,
of what is known already, leave nothing behind but that they are on record.
-/

namespace ApiSurface.Tracker

variable {τ : Type} {ctx : Context τ} {around : Surroundings τ} {w after : World τ}

/-! ## Listings -/

/-- How listing the definitions ends: what was listed is what counts from then on, or nothing was
learned. -/
inductive Refreshed (around : Surroundings τ) (w : World τ) :
    Except Fault Unit → World τ → Prop where
  | listed {items : List Value} {after : World τ}
      (answered : (around.crds (.listedCrds :: w.journal)).outcome = .ok items)
      (listed : listedIn after.journal = items.filterMap uidOf?)
      (added : addedIn after.journal = []) : Refreshed around w (.ok ()) after
  | failed {fault : Fault} {after : World τ} (nothing : NothingLearned w after) :
      Refreshed around w (.error fault) after

theorem refreshKnown_refreshed (lawful : ctx.Lawful NothingLearned) (w : World τ) :
    Refreshed ctx.around w (refreshKnown ctx w).1 (refreshKnown ctx w).2 := by
  have asking := lawful.ask .listedCrds rfl ctx.around.crds w
  have answers : (ctx.ask .listedCrds ctx.around.crds w).1 =
      (ctx.around.crds (.listedCrds :: w.journal)).outcome := by
    rw [Context.ask_apply]
  rw [refreshKnown]
  cases asked : ctx.ask .listedCrds ctx.around.crds w with
  | mk answer heard =>
    rw [asked] at asking answers
    cases answer with
    | error fault =>
      rw [Op.bind_of_error asked]
      exact .failed asking
    | ok items =>
      have reading : NothingLearned heard (collectUids items heard).2 :=
        (collectUids_calm items heard).nothingLearned
      rw [Op.bind_of_ok asked]
      cases collected : collectUids items heard with
      | mk result mid =>
        rw [collected] at reading
        cases result with
        | error fault =>
          rw [Op.bind_of_error collected]
          exact .failed (asking.trans reading)
        | ok uids =>
          have listed : uids = items.filterMap uidOf? :=
            collectUids_of_ok (congrArg Prod.fst collected)
          rw [Op.bind_of_ok collected, replaceKnown_apply]
          exact .listed answers.symm listed rfl

/-! ## Events -/

/-- An event that asks for a rebuild: a deletion, or of a definition that is not being torn down a
modification or the addition of what is not known. -/
def State.Triggers (tracker : State τ) (event : CrdEvent) : Prop :=
  event.change = .deleted ∨ event.crd.terminating = false ∧
    (event.change = .modified ∨
      event.change = .added ∧ tracker.known.contains event.crd.uid = false)

instance (tracker : State τ) (event : CrdEvent) : Decidable (tracker.Triggers event) :=
  instDecidableOr

/-- The events that trigger are those that are news and not held back. -/
theorem State.triggers_iff {tracker : State τ} {event : CrdEvent} :
    tracker.Triggers event ↔ ¬ tracker.Repeats event ∧ ¬ event.HeldBack := by
  unfold Triggers Repeats CrdEvent.HeldBack
  cases event.change <;> cases event.crd.terminating <;> simp

/-- An entry that only says what was heard. -/
def Entry.isNote : Entry τ → Bool
  | logged _ => true
  | decoded _ => true
  | applied _ => true
  | _ => false

/-- Between these worlds nothing happened but that events were put on record. -/
structure OnlyNoted (w w' : World τ) : Prop where
  kept : w' = { w with journal := w'.journal }
  noted : ∃ news, w'.journal = news ++ w.journal ∧ ∀ entry ∈ news, entry.isNote = true

instance : IsPreorder (World τ) OnlyNoted where
  refl _ := ⟨rfl, [], rfl, nofun⟩
  trans := by
    rintro w w' w'' ⟨kept, news, journal, notes⟩ ⟨kept', news', journal', notes'⟩
    refine ⟨?_, news' ++ news, ?_, List.forall_mem_append.mpr ⟨notes', notes⟩⟩
    · rw [kept', kept]
    · rw [journal', journal, List.append_assoc]

/-- One entry that only says what was heard. -/
theorem OnlyNoted.note {entry : Entry τ} (note : entry.isNote = true) :
    OnlyNoted w { w with journal := entry :: w.journal } :=
  ⟨rfl, [entry], rfl, List.forall_mem_singleton.mpr note⟩

/-- The tracker stays as it is where events are only put on record. -/
theorem OnlyNoted.tracker (noted : OnlyNoted w after) : after.tracker = w.tracker := by
  rw [noted.kept]

/-- Receiving an event that repeats what is known only puts it on record. -/
theorem State.Repeats.received {event : CrdEvent} (repeats : w.tracker.Repeats event) :
    OnlyNoted w (w.received event) := by
  have heard : OnlyNoted w (w.heard event) := .note rfl
  have applied : w.received event =
      { w.heard event with journal := .applied event :: (w.heard event).journal } := by
    have known : (w.heard event).tracker.known.noted event = w.tracker.known :=
      repeats.known_noted
    rw [World.received, World.applied, known]
    rfl
  rw [applied]
  exact trans_of OnlyNoted heard (.note rfl)

/-- Receiving an event asks nothing of the limiter. -/
theorem World.received_balanced (w : World τ) (event : CrdEvent) :
    Balanced w (w.received event).gauged :=
  ⟨[.applied event, .logged _], rfl, rfl⟩

section Applying

variable [Scalar τ] {given : Option Signal} {event : CrdEvent}

/-- What applying an event comes to. -/
structure Applied (w : World τ) (event : CrdEvent) (result : Except Fault Bool) (after : World τ) :
    Prop where
  returns : result = .ok (decide (w.tracker.Triggers event))
  asks : ∃ news, after.journal = news ++ w.journal ∧
    asksIn news = triggersIn news + if w.tracker.Triggers event then 1 else 0
  known : ∀ uid, after.tracker.known.contains uid = true ↔
    w.tracker.known.contains uid = true ∨ event.change = .added ∧ uid = event.crd.uid
  repeated : w.tracker.Repeats event → OnlyNoted w after

/-- Every event is applied as its kind, its definition and what is known say. -/
theorem handleEvent_applied (acts : ∀ action w, Balanced w (ctx.act action w))
    (lawful : ctx.Lawful NothingLearned) (event : CrdEvent) (given : Option Signal) (w : World τ) :
    Applied w event (handleEvent ctx event given w).1 (handleEvent ctx event given w).2 := by
  have known : ∀ uid, (w.received event).gauged.tracker.known.contains uid = true ↔
      w.tracker.known.contains uid = true ∨ event.change = .added ∧ uid = event.crd.uid :=
    fun uid => Crd.IdentitySet.contains_noted
  obtain ⟨earlier, before, balanced⟩ := w.received_balanced event
  by_cases repeats : w.tracker.Repeats event
  · have silent : ¬ w.tracker.Triggers event := fun triggers =>
      (State.triggers_iff.mp triggers).1 repeats
    rw [handleEvent_of_repeats repeats]
    refine ⟨by rw [decide_eq_false silent], ⟨earlier, before, ?_⟩, known, fun _ => repeats.received⟩
    rw [if_neg silent, balanced]
    rfl
  rw [handleEvent_of_news repeats]
  by_cases held : event.HeldBack
  · have silent : ¬ w.tracker.Triggers event := fun triggers =>
      (State.triggers_iff.mp triggers).2 held
    rw [answerEvent_of_heldBack held]
    refine ⟨by rw [decide_eq_false silent],
      ⟨.logged _ :: earlier, congrArg (List.cons _) before, ?_⟩, known,
      fun again => absurd again repeats⟩
    rw [if_neg silent]
    exact balanced
  · have triggers : w.tracker.Triggers event := State.triggers_iff.mpr ⟨repeats, held⟩
    obtain ⟨fired, news, returned, journal, asks⟩ :=
      trigger_asks acts (some ((w.received event).tracker.stopOr given)) (w.received event).gauged
    have learned :=
      lawful.trigger (some ((w.received event).tracker.stopOr given)) (w.received event).gauged
    rw [answerEvent_of_change held, Op.bind_of_ok (Prod.ext returned rfl)]
    refine ⟨by rw [decide_eq_true triggers]; rfl, ⟨news ++ earlier, ?_, ?_⟩, fun uid => ?_,
      fun again => absurd again repeats⟩
    · rw [List.append_assoc, ← before]
      exact journal
    · rw [if_pos triggers, asksIn_append, triggersIn_append, asks, balanced]
      omega
    · exact learned.known.symm ▸ known uid

/-! ## Replays -/

/-- An item of a stream that repeats what is known. -/
def State.Replays (tracker : State τ) (item : StreamItem τ) : Prop :=
  ∃ raw event, item = .event raw ∧ WatchEvent.decode raw = .ok (.change event) ∧
    tracker.Repeats event

/-- Events that repeat what is known are only put on record, one after the other. -/
theorem each_handleEvent_of_repeats {events : List CrdEvent}
    (repeats : ∀ event ∈ events, w.tracker.Repeats event) :
    OnlyNoted w (Op.each (fun event => do
      let _ ← handleEvent ctx event given
      pure ()) events w).2 := by
  induction events generalizing w with
  | nil => exact refl_of OnlyNoted w
  | cons event rest ih =>
    have here := repeats event List.mem_cons_self
    have noted : OnlyNoted w (w.received event) := here.received
    have rest : ∀ other ∈ rest, (w.received event).tracker.Repeats other := fun other member =>
      noted.tracker.symm ▸ repeats other (List.mem_cons_of_mem _ member)
    have handled : (handleEvent ctx event given >>= fun _ => pure ()) w =
        (.ok (), w.received event) := Op.bind_of_ok (handleEvent_of_repeats here)
    rw [Op.each, Op.bind_of_ok handled]
    exact trans_of OnlyNoted noted (ih rest)

/-- A stream that repeats what is known is only put on record, however it ends. -/
theorem readStream_of_replays (stop : Signal) (ending : Option Fault) {items : List (StreamItem τ)}
    (replays : ∀ item ∈ items, w.tracker.Replays item) :
    OnlyNoted w (readStream ctx stop ending items w).2 := by
  have closed : ∀ w, OnlyNoted w ((closeStream : Op τ Bool) w).2 := fun w => .note rfl
  induction items generalizing w with
  | nil =>
    cases ending with
    | some fault => exact refl_of OnlyNoted w
    | none => exact closed w
  | cons item rest ih =>
    obtain ⟨raw, event, rfl, decodes, repeats⟩ := replays item List.mem_cons_self
    rw [readStream, Op.bind_of_ok (Context.stopSet_apply stop w)]
    cases w.isSet stop with
    | true => exact closed w
    | false =>
      let heard : World τ := { w with journal := .decoded (.change event) :: w.journal }
      have noted : OnlyNoted w heard := .note rfl
      have received : OnlyNoted w (heard.received event) :=
        trans_of OnlyNoted noted (State.Repeats.received (w := heard) repeats)
      have handled : handleEvent ctx event (some stop) heard = (.ok false, heard.received event) :=
        handleEvent_of_repeats repeats
      have replaysRest : ∀ item ∈ rest, (heard.received event).tracker.Replays item :=
        fun other member => received.tracker.symm ▸ replays other (List.mem_cons_of_mem _ member)
      simp only [Bool.false_eq_true, if_false, decodes]
      rw [Op.bind_of_ok (Op.record_apply ..), Op.bind_of_ok handled]
      exact trans_of OnlyNoted received (ih replaysRest)

/-- In every world that a run comes to, a definition is known exactly if it was listed last or added
since. In every state, between operations and while one runs, a listing that succeeds counts with
the UIDs of what was listed and one that fails does not count. Every event asks the limiter once,
and says so, if it triggers a rebuild, and else not at all; it makes known what it adds and nothing
else, and if that was known it leaves everything as it was. So do events that repeat what is known,
one after the other or in a stream. -/
theorem Reachable.event_discipline {settings : Settings τ} (reachable : Reachable settings w) :
    w.Informed ∧ ∀ (around : Surroundings τ) outer given depth (w : World τ),
      let ctx := Context.nested around outer depth
      Refreshed around w (refreshKnown ctx w).1 (refreshKnown ctx w).2 ∧
      (∀ event,
        Applied w event (handleEvent ctx event given w).1 (handleEvent ctx event given w).2) ∧
      (∀ events, (∀ event ∈ events, w.tracker.Repeats event) →
        OnlyNoted w (Op.each (fun event => do
          let _ ← handleEvent ctx event given
          pure ()) events w).2) ∧
      ∀ stop ending items, (∀ item ∈ items, w.tracker.Replays item) →
        OnlyNoted w (readStream ctx stop ending items w).2 := by
  refine ⟨reachable.informed, fun around outer given depth w => ?_⟩
  have acts := Context.nested_balanced around outer depth
  have lawful : (Context.nested around outer depth).Lawful NothingLearned :=
    Context.nested_aloof around outer depth
  have refreshed := refreshKnown_refreshed lawful w
  rw [Context.nested_around] at refreshed
  exact ⟨refreshed, fun event => handleEvent_applied acts lawful event given w,
    fun events => each_handleEvent_of_repeats,
    fun stop ending items => readStream_of_replays stop ending⟩

/-- A definition that is being torn down is added: it is known from then on, its addition is only
put on record when a watch begins anew, and its deletion asks the limiter and says so. -/
theorem event_discipline_torn_down :
    let definition : Value :=
      .record [("metadata", .record [("uid", .text "first"), ("deletionTimestamp", .text "now")])]
    let raw : Value := .record [("type", .text "ADDED"), ("object", definition)]
    let around : Surroundings Rat := .steady (.ok []) (fun _ => .ok none) (.ok [])
    let request : Request Rat := { around, given := none, depth := 1, operation := .event raw }
    let w := (World.fresh .exact 0).after [request]
    let crd : Crd.Info := { name := [], uid := "first", terminating := true, established := false }
    let ctx := Context.nested around none 1
    Reachable .exact w ∧ w.tracker.known.contains "first" = true ∧
      w.tracker.Repeats ⟨.added, crd⟩ ∧ w.tracker.Replays (.event raw) ∧
      (handleEvent ctx ⟨.added, crd⟩ none w).1 = .ok false ∧
      OnlyNoted w (readStream ctx 0 none [.event raw] w).2 ∧
      (handleEvent ctx ⟨.deleted, crd⟩ none w).1 = .ok true := by
  intro definition raw around request w crd ctx
  have reachable : Reachable .exact w := .performed (.fresh (by decide) (by decide) 0) request
  have added : Text.ofString "first" ∈ addedIn w.journal := by decide
  obtain ⟨informed, law⟩ := Reachable.event_discipline reachable
  have known : w.tracker.known.contains "first" = true := (informed _).mpr (.inr added)
  have repeats : w.tracker.Repeats ⟨.added, crd⟩ := ⟨rfl, known⟩
  have replays : w.tracker.Replays (.event raw) := ⟨raw, _, rfl, rfl, repeats⟩
  obtain ⟨_, applied, _, replayed⟩ := law around none none 1 w
  have silent : ¬ w.tracker.Triggers ⟨.added, crd⟩ := fun triggers =>
    (State.triggers_iff.mp triggers).1 repeats
  refine ⟨reachable, known, repeats, replays, ?_, ?_, ?_⟩
  · rw [(applied ⟨.added, crd⟩).returns, decide_eq_false silent]
  · exact replayed 0 none [.event raw] (List.forall_mem_singleton.mpr replays)
  · rw [(applied ⟨.deleted, crd⟩).returns, decide_eq_true (.inl rfl)]

end Applying

end ApiSurface.Tracker
