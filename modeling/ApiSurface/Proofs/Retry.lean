import Mathlib.Order.Defs.Unbundled
import ApiSurface.Retry

/-!
# What a retried operation leaves behind

A loop does nothing to the state but call its task and wait, so whatever both keep, a
run of any number of rounds keeps.
-/

namespace ApiSurface.Retry

variable {σ τ : Type} [Scalar τ] {R : σ → σ → Prop} [IsPreorder σ R]

/-- The state after a loop is related to the state before if calls and waits relate states. -/
theorem loop_related (task : Task σ τ) (called : ∀ state, R state (task.call state).2)
    (waited : ∀ delay state, R state (task.wait delay state).2) (rounds : Nat)
    (cursor : Cursor τ) (state : σ) : R state (loop task rounds cursor state).state := by
  induction rounds generalizing cursor state with
  | zero => exact refl state
  | succ rounds ih =>
    have call := called state
    unfold loop
    split
    · exact refl state
    · cases ends : task.call state with
      | mk result after =>
        rw [ends] at call
        cases result with
        | error fault => exact call
        | ok healthy =>
          dsimp only
          generalize (cursor.afterCall healthy).step = stepped
          obtain ⟨delay, next⟩ := stepped
          have wait := waited delay after
          dsimp only
          cases waits : task.wait delay after with
          | mk woken last =>
            rw [waits] at wait
            rcases woken with fault | (_ | _)
            · exact trans_of R call wait
            · exact trans_of R (trans_of R call wait) (ih _ _)
            · exact trans_of R call wait

theorem forever_related (task : Task σ τ) (called : ∀ state, R state (task.call state).2)
    (waited : ∀ delay state, R state (task.wait delay state).2) (backoff : Backoff τ)
    (rounds : Nat) (draws : Draws τ) (state : σ) :
    R state (forever task backoff rounds draws state).state :=
  loop_related task called waited rounds (.start backoff draws) state

/-! ## How a loop goes on and ends -/

section Course

omit [IsPreorder σ R]

/-- How a loop of some rounds goes from where it stands: it reaches its bound, sees a stop before a
call, fails in a call, cannot wait, is woken from a wait, or goes through one more round. -/
inductive Course (task : Task σ τ) : Nat → Cursor τ → σ → Run σ τ → Prop where
  | bounded {cursor : Cursor τ} {state : σ} :
      Course task 0 cursor state { events := [], ending := .running, state, cursor }
  | stopped {rounds : Nat} {cursor : Cursor τ} {state : σ} (set : task.stopSet state = true) :
      Course task (rounds + 1) cursor state { events := [], ending := .cancelled, state, cursor }
  | failed {rounds : Nat} {cursor : Cursor τ} {state after : σ} {fault : Fault}
      (unset : task.stopSet state = false) (call : task.call state = (.error fault, after)) :
      Course task (rounds + 1) cursor state
        { events := [.raised], ending := .failed fault, state := after, cursor }
  | waitFailed {rounds : Nat} {cursor next : Cursor τ} {delay : τ} {state called after : σ}
      {healthy : Bool} {fault : Fault} (unset : task.stopSet state = false)
      (call : task.call state = (.ok healthy, called))
      (paced : (cursor.afterCall healthy).step = (delay, next))
      (wait : task.wait delay called = (.error fault, after)) :
      Course task (rounds + 1) cursor state
        { events := [.called healthy], ending := .waitFailed fault, state := after, cursor := next }
  | woken {rounds : Nat} {cursor next : Cursor τ} {delay : τ} {state called after : σ}
      {healthy : Bool} (unset : task.stopSet state = false)
      (call : task.call state = (.ok healthy, called))
      (paced : (cursor.afterCall healthy).step = (delay, next))
      (wait : task.wait delay called = (.ok true, after)) :
      Course task (rounds + 1) cursor state
        { events := [.called healthy, .waited delay], ending := .cancelled, state := after
          cursor := next }
  | again {rounds : Nat} {cursor next : Cursor τ} {delay : τ} {state called after : σ}
      {healthy : Bool} {rest : Run σ τ} (unset : task.stopSet state = false)
      (call : task.call state = (.ok healthy, called))
      (paced : (cursor.afterCall healthy).step = (delay, next))
      (wait : task.wait delay called = (.ok false, after))
      (onward : Course task rounds next after rest) :
      Course task (rounds + 1) cursor state (rest.after [.called healthy, .waited delay])

/-- Every loop takes one of these courses. -/
theorem loop_course (task : Task σ τ) (rounds : Nat) (cursor : Cursor τ) (state : σ) :
    Course task rounds cursor state (loop task rounds cursor state) := by
  induction rounds generalizing cursor state with
  | zero => exact .bounded
  | succ rounds ih =>
    unfold loop
    cases set : task.stopSet state with
    | true => exact .stopped set
    | false =>
      rw [if_neg Bool.false_ne_true]
      cases call : task.call state with
      | mk result called =>
        cases result with
        | error fault => exact .failed set call
        | ok healthy =>
          dsimp only
          generalize paced : (cursor.afterCall healthy).step = stepped
          obtain ⟨delay, next⟩ := stepped
          dsimp only
          cases wait : task.wait delay called with
          | mk woken after =>
            rcases woken with fault | (_ | _)
            · exact .waitFailed set call paced wait
            · exact .again set call paced wait (ih ..)
            · exact .woken set call paced wait

namespace Course

variable {task : Task σ τ} {cursor : Cursor τ} {rounds : Nat} {state : σ} {run : Run σ τ}

/-- The course of a loop is the loop. -/
theorem loop_eq (course : Course task rounds cursor state run) :
    loop task rounds cursor state = run := by
  induction course with
  | bounded => rfl
  | stopped set => rw [loop, if_pos set]
  | failed unset call => rw [loop, if_neg (Bool.eq_false_iff.mp unset), call]
  | waitFailed unset call paced wait =>
    rw [loop, if_neg (Bool.eq_false_iff.mp unset), call]
    simp only [paced, wait]
  | woken unset call paced wait =>
    rw [loop, if_neg (Bool.eq_false_iff.mp unset), call]
    simp only [paced, wait]
  | again unset call paced wait onward ih =>
    rw [loop, if_neg (Bool.eq_false_iff.mp unset), call]
    simp only [paced, wait, ih]

/-- A loop is never left without a fault. -/
theorem not_returned (course : Course task rounds cursor state run) :
    run.ending ≠ .returned := by
  induction course with
  | again unset call paced wait onward ih => exact ih
  | _ => nofun

/-- A loop that ended does not go on for more rounds. -/
theorem ended (course : Course task rounds cursor state run) (ended : run.ending ≠ .running)
    (more : Nat) : Course task (rounds + more) cursor state run := by
  induction course with
  | bounded => exact absurd rfl ended
  | stopped set => exact Nat.succ_add .. ▸ .stopped set
  | failed unset call => exact Nat.succ_add .. ▸ .failed unset call
  | waitFailed unset call paced wait => exact Nat.succ_add .. ▸ .waitFailed unset call paced wait
  | woken unset call paced wait => exact Nat.succ_add .. ▸ .woken unset call paced wait
  | again unset call paced wait onward ih =>
    exact Nat.succ_add .. ▸ .again unset call paced wait (ih ended)

/-- A loop that reached its bound goes on from where it stands. -/
theorem going (course : Course task rounds cursor state run) (going : run.ending = .running)
    {more : Nat} {rest : Run σ τ} (further : Course task more run.cursor run.state rest) :
    Course task (rounds + more) cursor state (rest.after run.events) := by
  induction course with
  | bounded => simpa [Run.after] using further
  | stopped set => cases going
  | failed unset call => cases going
  | waitFailed unset call paced wait => cases going
  | woken unset call paced wait => cases going
  | again unset call paced wait onward ih =>
    have later := Course.again unset call paced wait (ih going further)
    rw [Nat.succ_add]
    simpa [Run.after] using later

/-- What a call does where a stop is seen makes no difference. -/
theorem congr {call : σ → Except Fault Bool × σ}
    (agrees : ∀ state, task.stopSet state = false → call state = task.call state)
    (course : Course task rounds cursor state run) :
    Course { task with call } rounds cursor state run := by
  induction course with
  | bounded => exact .bounded
  | stopped set => exact .stopped set
  | failed unset ends => exact .failed unset ((agrees _ unset).trans ends)
  | waitFailed unset ends paced wait =>
    exact .waitFailed unset ((agrees _ unset).trans ends) paced wait
  | woken unset ends paced wait => exact .woken unset ((agrees _ unset).trans ends) paced wait
  | again unset ends paced wait onward ih =>
    exact .again unset ((agrees _ unset).trans ends) paced wait ih

/-- A loop that failed did so in a call. -/
theorem failed_call {fault : Fault} (course : Course task rounds cursor state run)
    (failed : run.ending = .failed fault) :
    ∃ before, task.call before = (.error fault, run.state) := by
  induction course with
  | failed unset call =>
    cases failed
    exact ⟨_, call⟩
  | again unset call paced wait onward ih => exact ih failed
  | _ => cases failed

/-- A loop that was cancelled saw a stop, or was woken from a wait. -/
theorem cancelled_seen (course : Course task rounds cursor state run)
    (cancelled : run.ending = .cancelled) :
    task.stopSet run.state = true ∨
      ∃ delay before, task.wait delay before = (.ok true, run.state) := by
  induction course with
  | stopped set => exact .inl set
  | woken unset call paced wait => exact .inr ⟨_, _, wait⟩
  | again unset call paced wait onward ih => exact ih cancelled
  | _ => cases cancelled

/-- What every call counts, a loop that reached its bound has counted in every round. -/
theorem counted {count : σ → Nat} (course : Course task rounds cursor state run)
    (called : ∀ state, task.stopSet state = false → count state < count (task.call state).2)
    (waited : ∀ delay state, count state ≤ count (task.wait delay state).2)
    (going : run.ending = .running) : count state + rounds ≤ count run.state := by
  induction course with
  | bounded => exact Nat.le_refl _
  | @again rounds cursor next delay state mid after healthy rest unset call paced wait onward ih =>
    have atCall : count state < count mid := by simpa [call] using called state unset
    have atWait : count mid ≤ count after := by simpa [wait] using waited delay mid
    have atRest : count after + rounds ≤ count rest.state := ih going
    change count state + (rounds + 1) ≤ count rest.state
    omega
  | _ => cases going

end Course

end Course

end ApiSurface.Retry
