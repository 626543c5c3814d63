import ApiSurface.Proofs.Tracker.Asking

/-!
# Who interrupts a watch

While a watch is open, it is interrupted by calls back that stop the tracker, and by each
of them once; nothing else that happens meanwhile interrupts it or closes it. What the
watch does at its end comes on top of that.
-/

namespace ApiSurface.Tracker

variable {τ : Type} {ctx : Context τ} {w after : World τ}

/-- Whether an entry is the interruption of a watch, or its end. -/
def Entry.isInterruption : Entry τ → Bool
  | stoppedWatch => true
  | _ => false

/-- Whether a call back stopped the tracker. -/
def Entry.isShutdown : Entry τ → Bool
  | acted .stopTracker (.ok _) => true
  | _ => false

/-- How often a watch was interrupted or ended. -/
def interruptionsIn (journal : Journal τ) : Nat := journal.countP Entry.isInterruption

/-- How many calls back stopped the tracker. -/
def shutdownsIn (journal : Journal τ) : Nat := journal.countP Entry.isShutdown

/-- A watch that was open stayed so, and was interrupted once by each call back that stopped the
tracker. -/
def Interrupted (w w' : World τ) : Prop :=
  w.tracker.watching = true → w'.tracker.watching = true ∧
    ∃ news, w'.journal = news ++ w.journal ∧ interruptionsIn news = shutdownsIn news

/-- An entry that is as much an interruption as it is a call that stops the tracker. -/
theorem Interrupted.noted {entry : Entry τ} (even : entry.isInterruption = entry.isShutdown) :
    Interrupted w { w with journal := entry :: w.journal } :=
  fun watching => ⟨watching, [entry], rfl, by
    simp [interruptionsIn, shutdownsIn, List.countP_singleton, even]⟩

/-- Setting a stop signal interrupts nothing by itself. -/
theorem Interrupted.signalled (signal : Signal) : Interrupted w (w.set signal) :=
  fun watching => ⟨watching, [.signalled signal], rfl, rfl⟩

/-- Whatever leaves the journal and an open watch as they are. -/
theorem Interrupted.of_journal (unwatched : after.tracker.watching = w.tracker.watching)
    (same : after.journal = w.journal) : Interrupted w after :=
  fun watching => ⟨unwatched.trans watching, [], same, rfl⟩

instance : Routine (Interrupted : World τ → World τ → Prop) where
  refl _ := .of_journal rfl rfl
  trans := by
    intro w w' w'' first second watching
    obtain ⟨watching', earlier, journal, balanced⟩ := first watching
    obtain ⟨watching'', later, journal', balanced'⟩ := second watching'
    refine ⟨watching'', later ++ earlier, by rw [journal', journal, List.append_assoc], ?_⟩
    rw [interruptionsIn, shutdownsIn, List.countP_append, List.countP_append]
    exact congrArg₂ (· + ·) balanced' balanced
  noted {entry w} routine := by
    cases entry with
    | stoppedWatch | acted => cases routine
    | _ => exact .noted rfl
  updated unwatched := .of_journal (unwatched _) rfl
  elapsed := .of_journal rfl rfl
  signalled := .signalled _
  acted {action result w} _ running := by
    cases action with
    | stopTracker => exact absurd rfl running
    | _ => exact .noted rfl

/-! ## Calls back -/

section Calls

variable [Scalar τ]

/-- Asking the limiter interrupts nothing. -/
theorem askLimiter_interrupted : (askLimiter : Op τ Bool).Moves Interrupted := by
  intro w
  rw [askLimiter_apply]
  let noted : World τ :=
    { w with journal := .asked w.clock (w.tracker.limiter.admits w.clock) :: w.journal }
  have asked : Interrupted w noted := .noted rfl
  have answered : Interrupted noted w.asked := by
    refine .of_journal ?_ rfl
    rw [World.asked]
    cases w.tracker.limiter.admits w.clock <;> rfl
  exact trans_of Interrupted asked answered

/-- The world in which the tracker's own stop signal was set and its watch interrupted. -/
def World.interrupted (w : World τ) : World τ :=
  { w.set w.tracker.ownStop with
      journal := .stoppedWatch :: (w.set w.tracker.ownStop).journal }

/-- Stopping the tracker interrupts a watch that is open, and does no more to it. -/
theorem stop_interrupted (ctx : Context τ) (timeout : Seconds τ)
    (watching : w.tracker.watching = true) :
    Interrupted w.interrupted (stop ctx timeout w).2 := by
  have raised : raiseOwnStop w = (.ok (), w.set w.tracker.ownStop) := rfl
  have interrupted : interruptWatch (w.set w.tracker.ownStop) = (.ok (), w.interrupted) := by
    have stillOpen : (w.set w.tracker.ownStop).tracker.watching = true := watching
    rw [interruptWatch, Op.bind_apply, Op.tracker]
    dsimp only
    rw [if_pos stillOpen]
    rfl
  have joined : ∀ loop, (join ctx timeout timeout.text loop).Moves Interrupted :=
    (Discipline.along Interrupted).join ctx timeout timeout.text
  have unlooped : (Op.update fun tracker : State τ => { tracker with loops := [] }).Moves
      Interrupted := .update_routine fun _ => rfl
  rw [stop, Op.bind_of_ok raised, Op.bind_of_ok interrupted]
  exact Op.Moves.bind .tracker
    (fun _ => .bind (.each fun loop _ => joined loop) fun _ => unlooped) w.interrupted

/-- A call that stops the tracker interrupts a watch that is open, once. -/
theorem perform_stopTracker_interrupted (ctx : Context τ) (w : World τ) :
    Interrupted w (perform ctx .stopTracker w) := by
  intro watching
  obtain ⟨_, _, stopped⟩ := stop_apply ctx (.whole 0) w
  have returned : (stop ctx (.whole 0) w).1 = .ok () := by rw [stopped]
  have effect : effectOf ctx .stopTracker w = (.ok .nothing, (stop ctx (.whole 0) w).2) :=
    Op.bind_of_ok (Prod.ext returned rfl)
  obtain ⟨watching', news, journal, balanced⟩ :=
    stop_interrupted ctx (.whole 0) watching watching
  rw [perform_call ctx rfl, effect]
  refine ⟨watching', .acted .stopTracker (.ok .nothing) ::
    (news ++ [.stoppedWatch, .signalled w.tracker.ownStop]), ?_, ?_⟩
  · rw [List.cons_append, List.append_assoc]
    exact congrArg (List.cons _) journal
  · rw [interruptionsIn, shutdownsIn, List.countP_cons_of_neg Bool.false_ne_true,
      List.countP_cons_of_pos rfl, List.countP_append, List.countP_append]
    exact congrArg (· + 1) balanced

/-- A call that asks for a rebuild goes on as the calls within it. -/
theorem perform_trigger_interrupted (acts : ∀ action w, Interrupted w (ctx.act action w))
    (w : World τ) : Interrupted w (perform ctx .trigger w) := by
  have effect : (effectOf ctx .trigger).Moves Interrupted :=
    .bind (.stopOr ctx.given) fun stop =>
      .bind ((Context.under_along acts).trigger askLimiter_interrupted _) fun _ => .pure _
  rw [perform_call ctx rfl]
  exact trans_of Interrupted (effect w) (.noted rfl)

/-- At every depth of nesting, an open watch is interrupted by calls that stop the tracker alone. -/
theorem Context.nested_interrupted (around : Surroundings τ) (given : Option Signal) (depth : Nat)
    (action : Action τ) (w : World τ) :
    Interrupted w ((Context.nested around given depth).act action w) := by
  induction depth generalizing action w with
  | zero => cases action <;> exact Interrupted.noted rfl
  | succ depth ih =>
    exact perform_along ih (perform_stopTracker_interrupted _) (perform_trigger_interrupted ih)
      action w

end Calls

end ApiSurface.Tracker
