import Mathlib.Order.Defs.Unbundled
import ApiSurface.Tracker.Operation

/-!
# What operations do to the world

Where a world goes is a relation between the world before and the world after, and it is
claimed of an operation whether it returns or fails. A relation that is reflexive and
transitive holds of an operation as soon as it holds of its parts, so each operation is
gone through once for each relation, and no failure path needs an argument of its own.
-/

namespace ApiSurface.Tracker

variable {τ α β : Type} {R : World τ → World τ → Prop}

/-- Every world is related to the one an operation leaves behind, however it ends. -/
def Op.Moves (R : World τ → World τ → Prop) (op : Op τ α) : Prop := ∀ w, R w (op w).2

namespace Op

/-! ## Single steps -/

theorem attempt_apply (op : Op τ α) (w : World τ) : attempt op w = (.ok (op w).1, (op w).2) := rfl

theorem conclude_apply (result : Except Fault α) (w : World τ) :
    conclude result w = (result, w) := by
  cases result <;> rfl

/-- A sequence goes where its second operation goes, if the first returns. -/
theorem bind_of_ok {op : Op τ α} {next : α → Op τ β} {w after : World τ} {a : α}
    (returned : op w = (.ok a, after)) : (op >>= next) w = next a after := by
  rw [bind_apply, returned]

/-- A sequence ends where its first operation fails. -/
theorem bind_of_error {op : Op τ α} {next : α → Op τ β} {w after : World τ} {fault : Fault}
    (failed : op w = (.error fault, after)) : (op >>= next) w = (.error fault, after) := by
  rw [bind_apply, failed]

theorem record_apply (entry : Entry τ) (w : World τ) :
    record entry w = (.ok (), { w with journal := entry :: w.journal }) := rfl

theorem log_apply (severity : Severity) (message : Text) (w : World τ) :
    log severity message w =
      (.ok (), { w with journal := .logged { severity, message } :: w.journal }) := rfl

theorem update_apply (f : State τ → State τ) (w : World τ) :
    update f w = (.ok (), { w with tracker := f w.tracker }) := rfl

/-- Operations on the members of a list return if each of them does. -/
theorem each_returns {op : α → Op τ Unit} (returns : ∀ a w, (op a w).1 = .ok ())
    (members : List α) (w : World τ) : (each op members w).1 = .ok () := by
  induction members generalizing w with
  | nil => rfl
  | cons a rest ih =>
    rw [each, bind_of_ok (Prod.ext (returns a w) rfl)]
    exact ih _

end Op

theorem Context.stopSet_apply (stop : Signal) (w : World τ) :
    (stopSet stop : Op τ Bool) w = (.ok (w.isSet stop), w) := rfl

/-- Asking puts the question on record, lets the surroundings act and ends as their answer. -/
theorem Context.ask_apply (ctx : Context τ) (question : Entry τ) (answer : Journal τ → Reply τ α)
    (w : World τ) :
    ctx.ask question answer w =
      ((answer (question :: w.journal)).outcome,
        ((answer (question :: w.journal)).actions.foldl (fun w action => ctx.act action w)
          { w with journal := question :: w.journal })) :=
  Op.conclude_apply ..

/-- Actions taken one after the other go along a relation if each of them does. -/
theorem Context.acted_along [IsPreorder (World τ) R] {ctx : Context τ} {actions : List (Action τ)}
    (acts : ∀ action ∈ actions, ∀ w, R w (ctx.act action w)) (w : World τ) :
    R w (actions.foldl (fun w action => ctx.act action w) w) := by
  induction actions generalizing w with
  | nil => exact refl w
  | cons action rest ih =>
    obtain ⟨here, others⟩ := List.forall_mem_cons.mp acts
    exact trans_of R (here w) (ih others _)

namespace Op.Moves

/-! ## Operations made of others -/

variable {op : Op τ α}

/-- An operation that moves along a relation moves along every weaker one. -/
theorem mono {S : World τ → World τ → Prop} (moves : op.Moves R)
    (weaker : ∀ {w w' : World τ}, R w w' → S w w') : op.Moves S :=
  fun w => weaker (moves w)

/-- Catching a failure changes nothing about where an operation goes. -/
theorem attempt (moves : op.Moves R) : (Op.attempt op).Moves R := moves

variable [IsPreorder (World τ) R]

theorem pure (a : α) : Moves R (Pure.pure a : Op τ α) := fun w => refl w

theorem raise (fault : Fault) : (Op.raise fault : Op τ α).Moves R := fun w => refl w

theorem world : (Op.world : Op τ (World τ)).Moves R := fun w => refl w

theorem tracker : (Op.tracker : Op τ (State τ)).Moves R := fun w => refl w

theorem conclude (result : Except Fault α) : (Op.conclude result : Op τ α).Moves R := by
  intro w
  rw [Op.conclude_apply]
  exact refl w

/-- A sequence moves along a relation if both its operations do. -/
theorem bind {next : α → Op τ β} (first : op.Moves R) (second : ∀ a, (next a).Moves R) :
    (op >>= next).Moves R := by
  intro w
  have step := first w
  rw [Op.bind_apply]
  cases ends : op w with
  | mk result after =>
    rw [ends] at step
    cases result with
    | ok a => exact trans_of R step (second a after)
    | error fault => exact step

/-- Operations on the members of a list move along a relation if each of them does. -/
theorem each {op : α → Op τ Unit} {members : List α} (moves : ∀ a ∈ members, (op a).Moves R) :
    (Op.each op members).Moves R := by
  induction members with
  | nil => exact pure ()
  | cons a rest ih =>
    exact bind (moves a List.mem_cons_self) fun _ =>
      ih fun b member => moves b (List.mem_cons_of_mem _ member)

theorem stopOr (given : Option Signal) : (Context.stopOr given : Op τ Signal).Moves R := by
  cases given with
  | some signal => exact pure signal
  | none => exact bind tracker fun _ => pure _

theorem stopSet (stop : Signal) : (Context.stopSet stop : Op τ Bool).Moves R :=
  bind world fun _ => pure _

/-- The surroundings' actions move along a relation if each of them does. -/
theorem takeActions {ctx : Context τ} (acts : ∀ action w, R w (ctx.act action w))
    (actions : List (Action τ)) : (ctx.takeActions actions).Moves R :=
  Context.acted_along fun action _ => acts action

/-- Asking the surroundings moves along a relation if the question and their actions do. -/
theorem ask {ctx : Context τ} {question : Entry τ} {answer : Journal τ → Reply τ α}
    (acts : ∀ action w, R w (ctx.act action w)) (recorded : (Op.record question).Moves R) :
    (ctx.ask question answer).Moves R :=
  bind recorded fun _ => bind world fun _ => bind (takeActions acts _) fun _ => conclude _

end Op.Moves

end ApiSurface.Tracker
