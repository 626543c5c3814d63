import ApiSurface.Proofs.Tracker.Course
import ApiSurface.Proofs.Tracker.Discipline

/-!
# Warnings that are overlooked

A malformed event is passed over with a warning. Where nobody looks at such warnings, two
worlds that differ in them alone are alike for everything that is done while a stream is
read: whatever is done in both ends alike and leaves them alike. So malformed events may
as well be missing from a stream.
-/

namespace ApiSurface.Tracker

variable {τ α β : Type}

/-- Whether an entry is the warning that an event was passed over. -/
def Entry.isPassedOver : Entry τ → Bool
  | logged entry =>
    entry.severity == .warning &&
      (Text.ofString "Ignoring malformed CRD watch event: ").isPrefixOf entry.message
  | _ => false

/-- The journal without the warnings that events were passed over. -/
def seenIn (journal : Journal τ) : Journal τ := journal.filter fun entry => !entry.isPassedOver

/-- A subscriber whose reply does not depend on such warnings. -/
def Subscriber.Overlooks : Subscriber τ → Prop
  | client _ reply => ∀ journal, reply (seenIn journal) = reply journal
  | changeLogger => True

/-- Surroundings in which what a rebuild asks is answered without regard to such warnings. -/
structure Surroundings.Overlooks (around : Surroundings τ) : Prop where
  groups : ∀ journal, around.groups (seenIn journal) = around.groups journal
  resources : ∀ key journal, around.resources key (seenIn journal) = around.resources key journal

/-- Two worlds that differ in such warnings at most. -/
structure Alike (w w' : World τ) : Prop where
  tracker : w'.tracker = w.tracker
  raised : w'.raised = w.raised
  nextSignal : w'.nextSignal = w.nextSignal
  clock : w'.clock = w.clock
  seen : seenIn w'.journal = seenIn w.journal

/-- Two worlds that differ in such warnings at most, which no subscriber looks at. -/
structure Overlooked (w w' : World τ) : Prop extends Alike w w' where
  subscribers : ∀ subscriber ∈ w.tracker.subscribers, subscriber.Overlooks

theorem seenIn_cons {journal journal' : Journal τ} (seen : seenIn journal' = seenIn journal)
    (entry : Entry τ) : seenIn (entry :: journal') = seenIn (entry :: journal) := by
  rw [seenIn, seenIn, List.filter_cons, List.filter_cons, ← seenIn, ← seenIn, seen]

/-- Warning of a malformed event makes no difference to what is seen. -/
theorem seenIn_passedOver (w : World τ) (why : MalformedEvent) :
    seenIn (w.passedOver why).journal = seenIn w.journal := by
  refine List.filter_cons_of_neg ?_
  have warning : (Text.ofString "Ignoring malformed CRD watch event: ").isPrefixOf
      ("Ignoring malformed CRD watch event: " ++ why.message) = true :=
    List.isPrefixOf_iff_prefix.mpr (List.prefix_append ..)
  simp [Entry.isPassedOver, warning]

namespace Overlooked

variable {w w' : World τ}

/-- The same signals are set in both. -/
theorem isSet (overlooked : Overlooked w w') (signal : Signal) :
    w'.isSet signal = w.isSet signal := by
  rw [World.isSet, World.isSet, overlooked.raised]

/-- The same entry is written in both. -/
theorem noted (overlooked : Overlooked w w') (entry : Entry τ) :
    Overlooked { w with journal := entry :: w.journal }
      { w' with journal := entry :: w'.journal } where
  toAlike := { overlooked with seen := seenIn_cons overlooked.seen entry }
  subscribers := overlooked.subscribers

/-- The same change is made to the tracker in both. -/
theorem updated (overlooked : Overlooked w w') {f : State τ → State τ}
    (unaware : ∀ subscriber ∈ (f w.tracker).subscribers, subscriber.Overlooks) :
    Overlooked { w with tracker := f w.tracker } { w' with tracker := f w'.tracker } where
  toAlike := { overlooked with tracker := congrArg f overlooked.tracker }
  subscribers := unaware

/-- The same time passes in both. -/
theorem elapsed [Add τ] (overlooked : Overlooked w w') (time : τ) :
    Overlooked { w with clock := w.clock + time } { w' with clock := w'.clock + time } where
  toAlike := { overlooked with clock := congrArg (· + time) overlooked.clock }
  subscribers := overlooked.subscribers

/-- The same stop signal is set in both. -/
theorem signalled (overlooked : Overlooked w w') (signal : Signal) :
    Overlooked (w.set signal) (w'.set signal) where
  tracker := overlooked.tracker
  raised := by rw [World.set, World.set, overlooked.isSet, overlooked.raised]
  nextSignal := overlooked.nextSignal
  clock := overlooked.clock
  seen := seenIn_cons overlooked.seen _
  subscribers := overlooked.subscribers

end Overlooked

/-! ## What is done alike -/

/-- An operation ends alike in worlds that differ in overlooked warnings at most, and leaves them
so. -/
def Op.Overlooks (op : Op τ α) : Prop :=
  ∀ w w', Overlooked w w' → (op w').1 = (op w).1 ∧ Overlooked (op w).2 (op w').2

/-- Operations that overlook warnings, where subscribers do. -/
def Discipline.overlooking : Discipline τ where
  Governs op := op.Overlooks
  Admits := Subscriber.Overlooks
  pure a _ _ overlooked := ⟨rfl, overlooked⟩
  raise fault _ _ overlooked := ⟨rfl, overlooked⟩
  bind {_ _ op next} first second w w' overlooked := by
    obtain ⟨same, still⟩ := first w w' overlooked
    rw [Op.bind_apply, Op.bind_apply]
    cases ends : op w with
    | mk result after =>
      cases ends' : op w' with
      | mk result' after' =>
        rw [ends, ends'] at same still
        cases same
        cases result with
        | ok a => exact second a after after' still
        | error fault => exact ⟨rfl, still⟩
  attempt governs w w' overlooked := by
    obtain ⟨same, still⟩ := governs w w' overlooked
    exact ⟨congrArg Except.ok same, still⟩
  bindTracker {_ next} governs w w' overlooked := by
    have here := governs w.tracker overlooked.subscribers w w' overlooked
    rw [Op.bind_apply, Op.bind_apply, Op.tracker]
    dsimp only
    rw [overlooked.tracker]
    exact here
  stopSet stop w w' overlooked := ⟨congrArg Except.ok (overlooked.isSet stop), overlooked⟩
  record _ w w' overlooked := ⟨rfl, overlooked.noted _⟩
  update routine w w' overlooked :=
    ⟨rfl, overlooked.updated ((routine w.tracker).1 ▸ overlooked.subscribers)⟩

/-- What the surroundings answer and do does not depend on such warnings. -/
structure Context.Overlooks (ctx : Context τ) : Prop where
  around : ctx.around.Overlooks
  acts : ∀ action {w w' : World τ}, Overlooked w w' →
    Overlooked (ctx.act action w) (ctx.act action w')

namespace Context.Overlooks

variable {ctx : Context τ} (overlooks : ctx.Overlooks)
include overlooks

theorem takeActions (actions : List (Action τ)) {w w' : World τ} (overlooked : Overlooked w w') :
    Overlooked (actions.foldl (fun w action => ctx.act action w) w)
      (actions.foldl (fun w action => ctx.act action w) w') := by
  induction actions generalizing w w' with
  | nil => exact overlooked
  | cons action rest ih => exact ih (overlooks.acts action overlooked)

/-- A question whose answer does not depend on such warnings. -/
theorem ask {question : Entry τ} {answer : Journal τ → Reply τ α}
    (unaware : ∀ journal, answer (seenIn journal) = answer journal) :
    (ctx.ask question answer).Overlooks := by
  intro w w' overlooked
  have noted := overlooked.noted question
  have same : answer (question :: w'.journal) = answer (question :: w.journal) := by
    rw [← unaware, noted.seen, unaware]
  rw [Context.ask_apply, Context.ask_apply, same]
  exact ⟨rfl, overlooks.takeActions _ noted⟩

theorem under : ctx.Under .overlooking where
  groups := overlooks.ask overlooks.around.groups
  resources key := overlooks.ask (overlooks.around.resources key)
  tells admits := overlooks.ask admits

end Context.Overlooks

/-- Writing an entry is the same in both worlds. -/
theorem record_overlooks (entry : Entry τ) : (Op.record entry).Overlooks :=
  fun _ _ overlooked => ⟨rfl, overlooked.noted entry⟩

/-- Setting a stop signal is the same in both worlds. -/
theorem set_overlooks (signal : State τ → Signal) :
    (Op.change fun w : World τ => w.set (signal w.tracker)).Overlooks := by
  intro w w' overlooked
  refine ⟨rfl, ?_⟩
  change Overlooked (w.set (signal w.tracker)) (w'.set (signal w'.tracker))
  rw [overlooked.tracker]
  exact overlooked.signalled _

theorem subscribe_overlooks {subscriber : Subscriber τ} (overlooks : subscriber.Overlooks) :
    (subscribe subscriber).Overlooks := by
  intro w w' overlooked
  have everyone : ∀ other ∈ w.tracker.subscribers ++ [subscriber], other.Overlooks :=
    List.forall_mem_append.mpr ⟨overlooked.subscribers, List.forall_mem_singleton.mpr overlooks⟩
  let f : State τ → State τ := fun tracker =>
    { tracker with subscribers := tracker.subscribers ++ [subscriber] }
  exact ⟨rfl, overlooked.updated (f := f) everyone⟩

section Calls

variable [Scalar τ] {ctx : Context τ}

/-- The limiter answers by its own state and the clock. -/
theorem askLimiter_overlooks : (askLimiter : Op τ Bool).Overlooks := by
  intro w w' overlooked
  have noted := overlooked.noted (.asked w.clock (w.tracker.limiter.admits w.clock))
  rw [askLimiter_apply, askLimiter_apply, overlooked.tracker, overlooked.clock]
  refine ⟨rfl, ⟨rfl, noted.raised, noted.nextSignal, rfl, noted.seen⟩, ?_⟩
  cases w.tracker.limiter.admits w.clock <;> exact overlooked.subscribers

theorem stop_overlooks (ctx : Context τ) (timeout : Seconds τ) :
    (stop ctx timeout).Overlooks := by
  have interrupted : (interruptWatch : Op τ Unit).Overlooks := by
    refine Discipline.overlooking.bindTracker fun tracker _ => ?_
    split
    · exact record_overlooks _
    · exact Discipline.overlooking.pure ()
  have joined : ∀ loop, (join ctx timeout timeout.text loop).Overlooks :=
    Discipline.overlooking.join ctx timeout timeout.text
  have unlooped : (Op.update fun tracker : State τ => { tracker with loops := [] }).Overlooks :=
    Discipline.overlooking.update fun _ => ⟨rfl, rfl⟩
  exact Discipline.overlooking.bind (set_overlooks State.ownStop) fun _ =>
    Discipline.overlooking.bind interrupted fun _ =>
      Discipline.overlooking.bindTracker fun tracker _ =>
        Discipline.overlooking.bind (Discipline.overlooking.each fun loop _ => joined loop)
          fun _ => unlooped

/-- What an action does is the same in both worlds. -/
theorem effectOf_overlooks (overlooks : ctx.Overlooks) (action : Action τ) :
    (effectOf ctx action).Overlooks := by
  have ends : ∀ {α : Type} {op : Op τ α} {result : α → ActionResult}, op.Overlooks →
      (op >>= fun a => pure (result a)).Overlooks := fun here =>
    Discipline.overlooking.bind here fun _ => Discipline.overlooking.pure _
  have under := overlooks.under
  have signal : (Context.stopOr ctx.given : Op τ Signal).Overlooks :=
    Discipline.overlooking.stopOr _
  cases action with
  | stopTracker => exact ends (stop_overlooks ctx _)
  | rebuild => exact ends (under.rebuildDirectly none)
  | trigger =>
    exact Discipline.overlooking.bind signal fun stop =>
      ends (under.trigger askLimiter_overlooks _)
  | readSnapshot => exact ends Discipline.overlooking.getSnapshot
  | subscribe name => exact ends (subscribe_overlooks fun _ => rfl)
  | raiseStop =>
    exact Discipline.overlooking.bind signal fun stop => ends (set_overlooks fun _ => stop)
  | elapse time =>
    exact ends fun _ _ overlooked => ⟨rfl, overlooked.elapsed time⟩

theorem perform_overlooks (overlooks : ctx.Overlooks) (action : Action τ) {w w' : World τ}
    (overlooked : Overlooked w w') :
    Overlooked (perform ctx action w) (perform ctx action w') := by
  have acts : (do
      let result ← Op.attempt (effectOf ctx action)
      if action.isCall then Op.record (.acted action result) : Op τ Unit).Overlooks := by
    refine Discipline.overlooking.bind
      (Discipline.overlooking.attempt (effectOf_overlooks overlooks action)) fun result => ?_
    split
    · exact record_overlooks _
    · exact Discipline.overlooking.pure ()
  exact (acts w w' overlooked).2

/-- At every depth of nesting, calls back do not depend on such warnings if the surroundings do
not. -/
theorem Context.nested_overlooks {around : Surroundings τ} (overlooks : around.Overlooks)
    (given : Option Signal) (depth : Nat) : (Context.nested around given depth).Overlooks := by
  induction depth with
  | zero => exact ⟨overlooks, fun action _ _ overlooked => overlooked.noted _⟩
  | succ depth ih => exact ⟨overlooks, perform_overlooks ih⟩

end Calls

end ApiSurface.Tracker
