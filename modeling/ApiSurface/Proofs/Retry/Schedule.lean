import ApiSurface.Proofs.Backoff.Steps
import ApiSurface.Proofs.Retry

/-!
# The schedule of a retried operation

Which delay a loop waits for depends on everything its calls returned so far: a call that found
things healthy starts the backoff afresh, and every wait moves it on by a step. So the wait after
a call is a step of the backoff the loop was given, and which step it is can be read off the
results alone: as many as there are calls from the last healthy one on, that one included, or as
there are calls at all if none was healthy.

Results are listed newest first throughout.
-/

namespace ApiSurface.Retry

variable {σ τ : Type}

/-- The number, counted from one, of the last call that found things healthy. -/
def lastHealthy : List Bool → Option Nat
  | [] => none
  | true :: earlier => some (earlier.length + 1)
  | false :: earlier => lastHealthy earlier

/-- Which step of the backoff, counted from one, the wait after the last call takes. -/
def stepAfter (results : List Bool) : Nat :=
  match lastHealthy results with
  | some healthy => results.length - healthy + 1
  | none => results.length

/-- The last healthy call is the last one in the order of calls that returned healthy. -/
theorem lastHealthy_eq_some_iff {results : List Bool} {number : Nat} :
    lastHealthy results = some number ↔
      ∃ later earlier, results = later ++ true :: earlier ∧ (∀ healthy ∈ later, healthy = false) ∧
        number = earlier.length + 1 := by
  induction results with
  | nil => simp [lastHealthy]
  | cons healthy results ih =>
    cases healthy with
    | true =>
      constructor
      · intro last
        exact ⟨[], results, rfl, by simp, (Option.some.inj last).symm⟩
      · rintro ⟨later, earlier, shape, unhealthy, rfl⟩
        cases later with
        | nil =>
          obtain rfl : results = earlier := by simpa using shape
          rfl
        | cons first later =>
          obtain ⟨rfl, -⟩ := List.cons.inj shape
          simpa using unhealthy true
    | false =>
      rw [lastHealthy, ih]
      constructor
      · rintro ⟨later, earlier, rfl, unhealthy, number⟩
        exact ⟨false :: later, earlier, rfl, by simpa using unhealthy, number⟩
      · rintro ⟨later, earlier, shape, unhealthy, number⟩
        cases later with
        | nil => simp at shape
        | cons first later =>
          obtain ⟨-, rfl⟩ := List.cons.inj shape
          exact ⟨later, earlier, rfl, fun healthy inLater => unhealthy healthy (by simp [inLater]),
            number⟩

theorem lastHealthy_le {results : List Bool} {number : Nat}
    (last : lastHealthy results = some number) : number ≤ results.length := by
  obtain ⟨later, earlier, rfl, -, rfl⟩ := lastHealthy_eq_some_iff.mp last
  simp

/-- A healthy call makes the next wait the first step. -/
theorem stepAfter_healthy (results : List Bool) : stepAfter (true :: results) = 1 := by
  simp [stepAfter, lastHealthy]

/-- Any other call makes it one step later than the wait before. -/
theorem stepAfter_unhealthy (results : List Bool) :
    stepAfter (false :: results) = stepAfter results + 1 := by
  unfold stepAfter
  rw [lastHealthy]
  cases last : lastHealthy results with
  | none => rfl
  | some number =>
    have bounded : number ≤ results.length := lastHealthy_le last
    simp only [List.length_cons]
    omega

example : stepAfter [false, true, false, false] = 2 := rfl

variable [Scalar τ]

/-- The wait after the last call: what that step of a fresh backoff returns for the draw that is
then at the front of the source. -/
def waitAfter (fresh : Backoff τ) (draws : Draws τ) (results : List Bool) : τ :=
  ((Backoff.next^[stepAfter results - 1] fresh).delay (draws.skip (results.length - 1))).1

/-- Calls and waits in turn, oldest first, for what the calls returned. -/
def alternation (fresh : Backoff τ) (draws : Draws τ) : List Bool → List (Event τ)
  | [] => []
  | healthy :: earlier =>
    alternation fresh draws earlier ++
      [.called healthy, .waited (waitAfter fresh draws (healthy :: earlier))]

/-- The rounds a loop has gone through: in each, no stop is seen, the call returns and the wait
after it runs out. -/
inductive Passed (task : Task σ τ) (fresh : Backoff τ) (draws : Draws τ) (start : σ) :
    List Bool → σ → Prop where
  | begun : Passed task fresh draws start [] start
  | round {results : List Bool} {before called after : σ} {healthy : Bool}
      (passed : Passed task fresh draws start results before)
      (unset : task.stopSet before = false)
      (call : task.call before = (.ok healthy, called))
      (wait : task.wait (waitAfter fresh draws (healthy :: results)) called = (.ok false, after)) :
      Passed task fresh draws start (healthy :: results) after

/-- The source of draws a loop goes on with once it has gone through rounds: only under jitter
has a round taken a draw. -/
def drawsAfter (fresh : Backoff τ) (draws : Draws τ) (rounds : Nat) : Draws τ :=
  if fresh.isJittered then draws.skip rounds else draws

/-- Where a loop stands once it has gone through rounds: the backoff it was given is as it was. -/
def cursorAfter (fresh : Backoff τ) (draws : Draws τ) (results : List Bool) : Cursor τ :=
  { given := fresh
    current := Backoff.next^[stepAfter results] fresh
    draws := drawsAfter fresh draws results.length }

/-- A loop begins as it stands after no rounds. -/
theorem start_eq (fresh : Backoff τ) (draws : Draws τ) :
    Cursor.start fresh draws = cursorAfter fresh draws [] := by
  unfold cursorAfter drawsAfter
  split <;> rfl

/-- How a loop bounded to some rounds ends after the ones it has gone through. -/
inductive Ends (task : Task σ τ) (fresh : Backoff τ) (draws : Draws τ) (rounds : Nat)
    (results : List Bool) (before : σ) : Run σ τ → Prop where
  /-- The bound is reached. -/
  | bounded (reached : results.length = rounds) :
      Ends task fresh draws rounds results before
        { events := alternation fresh draws results, ending := .running, state := before
          cursor := cursorAfter fresh draws results }
  /-- A stop is seen before the next call. -/
  | stopped (below : results.length < rounds) (set : task.stopSet before = true) :
      Ends task fresh draws rounds results before
        { events := alternation fresh draws results, ending := .cancelled, state := before
          cursor := cursorAfter fresh draws results }
  /-- The next call fails. -/
  | failed {after : σ} {fault : Fault} (below : results.length < rounds)
      (unset : task.stopSet before = false) (call : task.call before = (.error fault, after)) :
      Ends task fresh draws rounds results before
        { events := alternation fresh draws results ++ [.raised], ending := .failed fault
          state := after, cursor := cursorAfter fresh draws results }
  /-- The wait after the next call cannot be made. -/
  | waitFailed {called after : σ} {healthy : Bool} {fault : Fault} (below : results.length < rounds)
      (unset : task.stopSet before = false) (call : task.call before = (.ok healthy, called))
      (wait : task.wait (waitAfter fresh draws (healthy :: results)) called =
        (.error fault, after)) :
      Ends task fresh draws rounds results before
        { events := alternation fresh draws results ++ [.called healthy]
          ending := .waitFailed fault, state := after
          cursor := cursorAfter fresh draws (healthy :: results) }
  /-- A stop is seen in the wait after the next call. -/
  | woken {called after : σ} {healthy : Bool} (below : results.length < rounds)
      (unset : task.stopSet before = false) (call : task.call before = (.ok healthy, called))
      (wait : task.wait (waitAfter fresh draws (healthy :: results)) called = (.ok true, after)) :
      Ends task fresh draws rounds results before
        { events := alternation fresh draws (healthy :: results), ending := .cancelled
          state := after, cursor := cursorAfter fresh draws (healthy :: results) }

namespace Ends

variable {task : Task σ τ} {fresh : Backoff τ} {draws : Draws τ} {rounds : Nat}
variable {results : List Bool} {before : σ} {run : Run σ τ}

theorem not_returned (ends : Ends task fresh draws rounds results before run) :
    run.ending ≠ .returned := by
  cases ends <;> nofun

theorem failed_iff (ends : Ends task fresh draws rounds results before run) (fault : Fault) :
    run.ending = .failed fault ↔
      results.length < rounds ∧ task.stopSet before = false ∧
        ∃ after, task.call before = (.error fault, after) := by
  cases ends with
  | bounded reached => simp [reached]
  | stopped below set => simp [set]
  | failed below unset call => simp [below, unset, call]
  | waitFailed below unset call wait => simp [call]
  | woken below unset call wait => simp [call]

end Ends

theorem stepAfter_pos (results : List Bool) (healthy : Bool) :
    0 < stepAfter (healthy :: results) := by
  cases healthy with
  | true => simp [stepAfter_healthy]
  | false => simp [stepAfter_unhealthy]

/-- Whether or not a call starts the backoff afresh, the wait after it takes the step that the
results tell. -/
theorem afterCall_current (fresh : Backoff τ) (draws : Draws τ) (results : List Bool)
    (healthy : Bool) :
    ((cursorAfter fresh draws results).afterCall healthy).current =
      Backoff.next^[stepAfter (healthy :: results) - 1] fresh := by
  cases healthy with
  | true => rw [stepAfter_healthy]; rfl
  | false => rw [stepAfter_unhealthy]; rfl

/-- A step takes the delay and the draw of the copy, and moves on nothing else. -/
theorem Cursor.step_eq (cursor : Cursor τ) :
    cursor.step =
      ((cursor.current.delay cursor.draws).1,
        { cursor with
            current := cursor.current.next
            draws := (cursor.current.delay cursor.draws).2 }) := rfl

/-- The step a loop takes after a call is the one that the results tell, and is taken by its copy
alone. -/
theorem step_afterCall (fresh : Backoff τ) (draws : Draws τ) (results : List Bool)
    (healthy : Bool) :
    ((cursorAfter fresh draws results).afterCall healthy).step =
      (waitAfter fresh draws (healthy :: results),
        cursorAfter fresh draws (healthy :: results)) := by
  have kept : ((cursorAfter fresh draws results).afterCall healthy).given = fresh ∧
      ((cursorAfter fresh draws results).afterCall healthy).draws =
        drawsAfter fresh draws results.length := by
    cases healthy <;> exact ⟨rfl, rfl⟩
  obtain ⟨given, drawn⟩ := kept
  have current := afterCall_current fresh draws results healthy
  generalize (cursorAfter fresh draws results).afterCall healthy = cursor at *
  have delays : (cursor.current.delay cursor.draws).1 =
      waitAfter fresh draws (healthy :: results) := by
    rw [current, drawn]
    refine Backoff.delay_congr fun jitters => ?_
    rw [Backoff.isJittered_iterate_next] at jitters
    rw [drawsAfter, if_pos jitters, List.length_cons, Nat.add_sub_cancel]
  have source : (cursor.current.delay cursor.draws).2 =
      drawsAfter fresh draws (healthy :: results).length := by
    rw [current, drawn, Backoff.draws_delay, Backoff.isJittered_iterate_next]
    unfold drawsAfter
    split <;> rfl
  have next : cursor.current.next = Backoff.next^[stepAfter (healthy :: results)] fresh := by
    rw [current, ← Function.iterate_succ_apply' Backoff.next, Nat.succ_eq_add_one,
      Nat.sub_add_cancel (stepAfter_pos results healthy)]
  rw [Cursor.step_eq, delays, source, next, given]
  rfl

/-- A loop that has gone through some rounds goes through more and then ends. -/
theorem Course.schedule {task : Task σ τ} {fresh : Backoff τ} {draws : Draws τ}
    {cursor : Cursor τ} {start state : σ} {rounds : Nat} {run : Run σ τ} {results : List Bool}
    (course : Course task rounds cursor state run)
    (passed : Passed task fresh draws start results state)
    (stands : cursor = cursorAfter fresh draws results) :
    ∃ results' before, Passed task fresh draws start results' before ∧
      Ends task fresh draws (results.length + rounds) results' before
        (run.after (alternation fresh draws results)) := by
  induction course generalizing results with
  | bounded =>
    subst stands
    exact ⟨results, _, passed, by simpa [Run.after] using Ends.bounded rfl⟩
  | stopped set =>
    subst stands
    exact ⟨results, _, passed, by simpa [Run.after] using Ends.stopped (by omega) set⟩
  | failed unset call =>
    subst stands
    exact ⟨results, _, passed, .failed (by omega) unset call⟩
  | waitFailed unset call paced wait =>
    rw [stands, step_afterCall] at paced
    obtain ⟨rfl, rfl⟩ := Prod.mk.inj paced
    exact ⟨results, _, passed, .waitFailed (by omega) unset call wait⟩
  | woken unset call paced wait =>
    rw [stands, step_afterCall] at paced
    obtain ⟨rfl, rfl⟩ := Prod.mk.inj paced
    exact ⟨results, _, passed, .woken (by omega) unset call wait⟩
  | again unset call paced wait onward ih =>
    rw [stands, step_afterCall] at paced
    obtain ⟨rfl, rfl⟩ := Prod.mk.inj paced
    obtain ⟨results', before, further, ends⟩ := ih (.round passed unset call wait) rfl
    refine ⟨results', before, further, ?_⟩
    simpa [Run.after, alternation, Nat.add_assoc, Nat.add_comm, Nat.add_left_comm] using ends

/-- A loop that could not wait could not make a wait that its results tell. -/
theorem Course.failed_wait {task : Task σ τ} {fresh : Backoff τ} {draws : Draws τ} {state : σ}
    {rounds : Nat} {run : Run σ τ} {fault : Fault}
    (course : Course task rounds (.start fresh draws) state run)
    (failed : run.ending = .waitFailed fault) :
    ∃ results before, task.wait (waitAfter fresh draws results) before = (.error fault, run.state) := by
  obtain ⟨results, before, _, ends⟩ := course.schedule .begun (start_eq fresh draws)
  change Ends task fresh draws _ results before run at ends
  cases ends with
  | waitFailed below unset call wait =>
    cases failed
    exact ⟨_, _, wait⟩
  | _ => cases failed

end ApiSurface.Retry
