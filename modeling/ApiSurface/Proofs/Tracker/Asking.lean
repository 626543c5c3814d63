import ApiSurface.Proofs.Tracker.Calls
import ApiSurface.Proofs.Tracker.Discipline

/-!
# Who asks the limiter

During a rebuild, and while its subscribers are told, the limiter is asked by calls back
alone, and once by each. So the entries that rebuilding and telling add to the journal
are balanced: they hold as many questions to the limiter as calls that asked for a
rebuild through it, however deep these are nested.
-/

namespace ApiSurface.Tracker

variable {τ α : Type} {ctx : Context τ} {w after : World τ}

/-- Whether the limiter was asked. -/
def Entry.isAsk : Entry τ → Bool
  | asked _ _ => true
  | _ => false

/-- Whether a call back asked for a rebuild through the limiter. -/
def Entry.isTrigger : Entry τ → Bool
  | acted .trigger (.ok _) => true
  | _ => false

/-- How often the limiter was asked. -/
def asksIn (journal : Journal τ) : Nat := journal.countP Entry.isAsk

/-- How many calls back asked for a rebuild through the limiter. -/
def triggersIn (journal : Journal τ) : Nat := journal.countP Entry.isTrigger

theorem asksIn_append (later earlier : Journal τ) :
    asksIn (later ++ earlier) = asksIn later + asksIn earlier := List.countP_append

theorem triggersIn_append (later earlier : Journal τ) :
    triggersIn (later ++ earlier) = triggersIn later + triggersIn earlier := List.countP_append

/-- Between these worlds the limiter was asked by calls back alone, and once by each. -/
def Balanced (w w' : World τ) : Prop :=
  ∃ news, w'.journal = news ++ w.journal ∧ asksIn news = triggersIn news

instance : IsPreorder (World τ) Balanced where
  refl _ := ⟨[], rfl, rfl⟩
  trans := by
    rintro w w' w'' ⟨earlier, journal, asks⟩ ⟨later, journal', asks'⟩
    refine ⟨later ++ earlier, by rw [journal', journal, List.append_assoc], ?_⟩
    rw [asksIn_append, triggersIn_append, asks, asks']

/-- An entry that is neither a question to the limiter nor a call that asks for a rebuild. -/
theorem Balanced.noted {entry : Entry τ} (unasked : entry.isAsk = false)
    (uncalled : entry.isTrigger = false) :
    Balanced w { w with journal := entry :: w.journal } :=
  ⟨[entry], rfl, by simp [asksIn, triggersIn, unasked, uncalled]⟩

/-- A stop signal that is set. -/
theorem Balanced.signalled (signal : Signal) : Balanced w (w.set signal) :=
  ⟨[.signalled signal], rfl, rfl⟩

/-- Whatever leaves the journal as it is. -/
theorem Balanced.of_journal (same : after.journal = w.journal) : Balanced w after :=
  ⟨[], same, rfl⟩

theorem Op.Moves.record_balanced {entry : Entry τ} (unasked : entry.isAsk = false)
    (uncalled : entry.isTrigger = false) : (Op.record entry).Moves Balanced :=
  fun _ => .noted unasked uncalled

theorem Op.Moves.update_balanced (f : State τ → State τ) : (Op.update f).Moves Balanced :=
  fun _ => .of_journal rfl

instance : Routine (Balanced : World τ → World τ → Prop) where
  noted {entry w} routine := by
    cases entry with
    | asked | acted => cases routine
    | _ => exact .noted rfl rfl
  updated _ := .of_journal rfl
  elapsed := .of_journal rfl
  signalled := .signalled _
  acted {action result w} untriggered _ := by
    cases action with
    | trigger => exact absurd rfl untriggered
    | _ => exact .noted rfl rfl

/-- A rebuild that everyone is told of is balanced if what the surroundings do is. -/
theorem collectAndNotify_balanced (acts : ∀ action w, Balanced w (ctx.act action w))
    (given : Option Signal) : (collectAndNotify ctx given).Moves Balanced :=
  (Context.under_along acts).collectAndNotify given

/-! ## Calls back -/

theorem stop_balanced [Scalar τ] (timeout : Seconds τ) : (stop ctx timeout).Moves Balanced := by
  have interrupted : (interruptWatch : Op τ Unit).Moves Balanced := by
    refine .bind .tracker fun tracker => ?_
    split
    · exact .record_balanced rfl rfl
    · exact .pure ()
  have joined : ∀ loop, (join ctx timeout timeout.text loop).Moves Balanced :=
    (Discipline.along Balanced).join ctx timeout timeout.text
  have raised : (raiseOwnStop : Op τ Unit).Moves Balanced := fun w => .signalled _
  exact .bind raised fun _ => .bind interrupted fun _ => .bind .tracker fun tracker =>
    .bind (.each fun loop _ => joined loop) fun _ => .update_balanced _

variable [Scalar τ]

/-- The world in which the limiter was asked at the present clock reading. -/
def World.asked (w : World τ) : World τ :=
  { w with
      tracker := w.tracker.receive (.asked w.clock (w.tracker.limiter.admits w.clock))
      journal := .asked w.clock (w.tracker.limiter.admits w.clock) :: w.journal }

/-- Asking for a rebuild through the limiter returns, and asks the limiter once more than calls back
do meanwhile, if what the surroundings do is balanced. -/
theorem trigger_asks (acts : ∀ action w, Balanced w (ctx.act action w)) (given : Option Signal)
    (w : World τ) :
    ∃ fired news, (trigger ctx given w).1 = .ok fired ∧
      (trigger ctx given w).2.journal = news ++ w.journal ∧ asksIn news = triggersIn news + 1 := by
  have asked : askLimiter w = (.ok (w.tracker.limiter.admits w.clock), w.asked) :=
    askLimiter_apply w
  have since : ∃ fired, (trigger ctx given w).1 = .ok fired ∧
      Balanced w.asked (trigger ctx given w).2 := by
    rw [trigger, Op.bind_of_ok asked]
    generalize w.asked = mid
    cases w.tracker.limiter.admits w.clock with
    | false => exact ⟨false, rfl, .noted rfl rfl⟩
    | true =>
      obtain ⟨ended, returns⟩ := collectAndNotify_returns ctx given mid
      have collected : (collectAndNotify ctx given >>= fun _ => pure true) mid =
          (.ok true, (collectAndNotify ctx given mid).2) := Op.bind_of_ok (Prod.ext returns rfl)
      refine ⟨true, congrArg Prod.fst collected, ?_⟩
      rw [if_pos rfl, collected]
      exact collectAndNotify_balanced acts given mid
  obtain ⟨fired, returns, later, journal, balanced⟩ := since
  refine ⟨fired, later ++ [.asked w.clock (w.tracker.limiter.admits w.clock)], returns, ?_, ?_⟩
  · rw [journal, World.asked, List.append_assoc, List.singleton_append]
  · rw [asksIn_append, triggersIn_append, balanced]
    rfl

/-- A call that asks for a rebuild through the limiter is one question and one call more. -/
theorem perform_trigger_balanced (acts : ∀ action w, Balanced w (ctx.act action w)) (w : World τ) :
    Balanced w (perform ctx .trigger w) := by
  obtain ⟨fired, news, returns, journal, asks⟩ :=
    trigger_asks acts (some (w.tracker.stopOr ctx.given)) w
  have effect : effectOf ctx .trigger w =
      (.ok (.flag fired), (trigger ctx (some (w.tracker.stopOr ctx.given)) w).2) := by
    rw [effectOf, Op.bind_of_ok (stopOr_apply ctx.given w), Op.bind_of_ok (Prod.ext returns rfl)]
    rfl
  rw [perform_call ctx rfl, effect]
  refine ⟨.acted .trigger (.ok (.flag fired)) :: news, congrArg (List.cons _) journal, ?_⟩
  have called : triggersIn (.acted .trigger (.ok (.flag fired)) :: news) = triggersIn news + 1 :=
    List.countP_cons_of_pos rfl
  have unasked : asksIn (.acted .trigger (.ok (.flag fired)) :: news) = asksIn news :=
    List.countP_cons_of_neg Bool.false_ne_true
  rw [called, unasked, asks]

/-- A call that stops the tracker asks nothing. -/
theorem perform_stopTracker_balanced (ctx : Context τ) (w : World τ) :
    Balanced w (perform ctx .stopTracker w) := by
  have effect : (effectOf ctx .stopTracker).Moves Balanced :=
    .bind (stop_balanced _) fun _ => .pure _
  rw [perform_call ctx rfl]
  exact trans_of Balanced (effect w) (.noted rfl rfl)

/-- At every depth of nesting, calls back are balanced. -/
theorem Context.nested_balanced (around : Surroundings τ) (given : Option Signal) (depth : Nat)
    (action : Action τ) (w : World τ) :
    Balanced w ((Context.nested around given depth).act action w) := by
  induction depth generalizing action w with
  | zero => cases action <;> exact Balanced.noted rfl rfl
  | succ depth ih =>
    exact perform_along ih (perform_stopTracker_balanced _) (perform_trigger_balanced ih) action w

end ApiSurface.Tracker
