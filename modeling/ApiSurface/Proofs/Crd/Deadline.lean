import Mathlib.Tactic.Linarith
import ApiSurface.Proofs.Backoff
import ApiSurface.Proofs.Crd.Waiting

/-!
# How long waiting for definitions may take

A read is given what is left until the deadline, or the least limit where that is more, and a wait
never goes beyond the deadline. As long as both keep to what they are given, only the last read of a
turn can be over after the deadline, and a turn that begins late is one such read; so every name may
cost the least limit once, and no more. The bound is stated on a record of the reads and waits, kept
by surroundings that do nothing else.
-/

namespace ApiSurface

/-! ## Exact arithmetic -/

theorem Scalar.larger_eq_max (x y : Rat) : larger x y = max x y := by
  rw [larger, max_def_lt]

theorem Scalar.smaller_eq_min (x y : Rat) : smaller x y = min x y := by
  rw [smaller, min_comm, min_def_lt]

/-- In exact arithmetic the least limit is a thousandth of a second. -/
theorem Crd.Waiter.leastLimit_eq : (leastLimit : Rat) = 1 / 1000 := by
  change (0.001 : Rat) = 1 / 1000
  norm_num

theorem Crd.Waiter.leastLimit_nonneg : (0 : Rat) ≤ leastLimit := by
  rw [leastLimit_eq]
  norm_num

namespace Crd

variable {σ τ : Type}

/-! ## Keeping the time -/

/-- A read or a wait: the clock when it began, the time it was given, and the clock when it was
over. -/
structure Span (τ : Type) where
  isRead : Bool
  began : τ
  given : τ
  ended : τ

namespace Span

/-- A span that took no longer than it was given. -/
def Punctual (span : Span Rat) : Prop := span.ended ≤ span.began + span.given

instance (span : Span Rat) : Decidable span.Punctual :=
  inferInstanceAs (Decidable (span.ended ≤ span.began + span.given))

/-- A span that was given some time: a wait at most what is left until the deadline, and a read at
most that or a thousandth of a second, whichever is more. -/
def Measured (deadline : Rat) (span : Span Rat) : Prop :=
  0 < span.given ∧
    span.given ≤ if span.isRead then max (deadline - span.began) 0.001 else deadline - span.began

end Span

namespace Surroundings

/-- The span of a read. -/
def readSpan (around : Surroundings σ τ) (name : Text) (limit : τ) (state : σ) : Span τ where
  isRead := true
  began := around.clock state
  given := limit
  ended := around.clock (around.read name limit state).2

/-- The span of a wait. -/
def waitSpan (around : Surroundings σ τ) (delay : τ) (state : σ) : Span τ where
  isRead := false
  began := around.clock state
  given := delay
  ended := around.clock (around.wait delay state).2

/-- The same surroundings, with the time kept of every read and every wait. -/
def timing (around : Surroundings σ τ) : Surroundings (σ × List (Span τ)) τ where
  clock state := around.clock state.1
  stopSet state := around.stopSet state.1
  read name limit state :=
    ((around.read name limit state.1).1,
      (around.read name limit state.1).2, state.2 ++ [around.readSpan name limit state.1])
  wait delay state :=
    ((around.wait delay state.1).1,
      (around.wait delay state.1).2, state.2 ++ [around.waitSpan delay state.1])

/-- Keeping the time makes no difference to what the surroundings do. -/
theorem timing_mirrors (around : Surroundings σ τ) : Mirrors Prod.fst around.timing around :=
  ⟨fun _ => rfl, fun _ => rfl, fun _ _ _ => rfl, fun _ _ => rfl⟩

end Surroundings

/-- What a waiter did from one point to another was measured, and if all of it was punctual, the
clock is beyond the deadline, or beyond where it was if that is later, by some grace at most. -/
structure Timely (around : Surroundings σ Rat) (deadline grace : Rat)
    (waiting after : Waiting (σ × List (Span Rat)) Rat) : Prop where
  roll : after.draws.roll = waiting.draws.roll
  spans : ∃ spans, after.state.2 = waiting.state.2 ++ spans ∧
    (∀ span ∈ spans, span.Measured deadline) ∧
    ((∀ span ∈ spans, span.Punctual) →
      around.clock after.state.1 ≤ max deadline (around.clock waiting.state.1) + grace)

namespace Timely

variable {around : Surroundings σ Rat} {deadline grace more : Rat}
  {waiting mid after : Waiting (σ × List (Span Rat)) Rat}

/-- A waiter that does nothing needs no grace. -/
theorem still (nonneg : 0 ≤ grace) (waiting : Waiting (σ × List (Span Rat)) Rat) :
    Timely around deadline grace waiting waiting where
  roll := rfl
  spans := ⟨[], (List.append_nil _).symm, nofun, fun _ =>
    le_add_of_le_of_nonneg (le_max_right _ _) nonneg⟩

/-- One span, if it is measured. -/
theorem single {span : Span Rat} (roll : after.draws.roll = waiting.draws.roll)
    (noted : after.state.2 = waiting.state.2 ++ [span]) (measured : span.Measured deadline)
    (bounded : span.Punctual →
      around.clock after.state.1 ≤ max deadline (around.clock waiting.state.1) + grace) :
    Timely around deadline grace waiting after where
  roll := roll
  spans := ⟨[span], noted, List.forall_mem_singleton.mpr measured, fun punctual =>
    bounded (punctual span List.mem_cons_self)⟩

/-- The draws still to come are those there were. -/
theorem fair (timely : Timely around deadline grace waiting after) (fair : waiting.draws.Fair) :
    after.draws.Fair := fun n => by
  rw [timely.roll]
  exact fair n

/-- What needs some grace may have more. -/
theorem mono (timely : Timely around deadline grace waiting after) (less : grace ≤ more) :
    Timely around deadline more waiting after where
  roll := timely.roll
  spans := by
    obtain ⟨spans, noted, measured, bounded⟩ := timely.spans
    exact ⟨spans, noted, measured, fun punctual => (bounded punctual).trans (by gcongr)⟩

/-- One thing after another needs whatever grace covers that of the second. -/
theorem followed {total : Rat} (first : Timely around deadline grace waiting mid)
    (second : Timely around deadline more mid after)
    (covered : around.clock mid.state.1 ≤ max deadline (around.clock waiting.state.1) + grace →
      max deadline (around.clock mid.state.1) + more ≤
        max deadline (around.clock waiting.state.1) + total) :
    Timely around deadline total waiting after where
  roll := second.roll.trans first.roll
  spans := by
    obtain ⟨earlier, noted, measured, bounded⟩ := first.spans
    obtain ⟨later, notedLater, measuredLater, boundedLater⟩ := second.spans
    refine ⟨earlier ++ later, by rw [notedLater, noted, List.append_assoc],
      List.forall_mem_append.mpr ⟨measured, measuredLater⟩, fun punctual => ?_⟩
    obtain ⟨punctualEarlier, punctualLater⟩ := List.forall_mem_append.mp punctual
    exact (boundedLater punctualLater).trans (covered (bounded punctualEarlier))

/-- One thing after another needs the grace of both. -/
theorem trans (nonneg : 0 ≤ grace) (first : Timely around deadline grace waiting mid)
    (second : Timely around deadline more mid after) :
    Timely around deadline (grace + more) waiting after := by
  refine first.followed second fun reached => ?_
  have before : deadline ≤ max deadline (around.clock waiting.state.1) + grace :=
    le_add_of_le_of_nonneg (le_max_left _ _) nonneg
  rw [← add_assoc]
  gcongr
  exact max_le before reached

/-- What ends by the deadline takes nothing off the grace of what follows. -/
theorem trans_early (first : Timely around deadline grace waiting mid)
    (second : Timely around deadline more mid after)
    (early : around.clock mid.state.1 ≤ deadline) : Timely around deadline more waiting after := by
  refine first.followed second fun _ => ?_
  rw [max_eq_left early]
  gcongr
  exact le_max_left _ _

end Timely

/-! ## Polling in time -/

namespace Waiter

variable {around : Surroundings σ Rat} {deadline : Rat} {backoff : Backoff Rat}

/-- A look puts the span of one read on record and draws nothing. -/
theorem look_timing (around : Surroundings σ Rat) (name : Text) (limit : Rat)
    (waiting : Waiting (σ × List (Span Rat)) Rat) :
    let run := look around.timing name limit waiting
    run.2.state = ((around.read name limit waiting.state.1).2,
        waiting.state.2 ++ [around.readSpan name limit waiting.state.1]) ∧
      run.2.draws = waiting.draws := by
  dsimp only [look, Surroundings.timing]
  cases judge name (around.read name limit waiting.state.1).1 with
  | error fault => exact ⟨rfl, rfl⟩
  | ok reason => cases reason <;> exact ⟨rfl, rfl⟩

/-- A look is over by the deadline, or the least limit after it began. -/
theorem look_timely (around : Surroundings σ Rat) (name : Text) (deadline : Rat)
    (waiting : Waiting (σ × List (Span Rat)) Rat) :
    let limit := Scalar.larger (deadline - around.timing.clock waiting.state) leastLimit
    Timely around deadline leastLimit waiting (look around.timing name limit waiting).2 := by
  intro limit
  have given : limit = max (deadline - around.clock waiting.state.1) (1 / 1000) := by
    rw [← leastLimit_eq]
    exact Scalar.larger_eq_max _ _
  have measured : (around.readSpan name limit waiting.state.1).Measured deadline := by
    refine ⟨?_, ?_⟩
    · change 0 < limit
      rw [given]
      exact lt_max_of_lt_right (by norm_num)
    · change limit ≤ max (deadline - around.clock waiting.state.1) 0.001
      rw [given]
      exact max_le_max_left _ (by norm_num)
  obtain ⟨noted, drawn⟩ := look_timing around name limit waiting
  refine .single (congrArg Draws.roll drawn) (congrArg Prod.snd noted) measured fun punctual => ?_
  rw [noted, leastLimit_eq]
  have sum : around.clock waiting.state.1 + limit =
      max deadline (around.clock waiting.state.1 + 1 / 1000) := by
    rw [given, ← max_add_add_left, add_sub_cancel]
  calc around.clock (around.read name limit waiting.state.1).2
      ≤ around.clock waiting.state.1 + limit := punctual
    _ = max deadline (around.clock waiting.state.1 + 1 / 1000) := sum
    _ ≤ max deadline (around.clock waiting.state.1) + 1 / 1000 := by
      refine max_le ?_ ?_
      · exact le_add_of_le_of_nonneg (le_max_left _ _) (by norm_num)
      · gcongr
        exact le_max_right _ _

/-- A pause before the deadline is over by then. -/
theorem pause_timely (positive : backoff.Positive) (waiting : Waiting (σ × List (Span Rat)) Rat)
    (fair : waiting.draws.Fair) (early : around.clock waiting.state.1 < deadline) :
    let remaining := deadline - around.timing.clock waiting.state
    Timely around deadline 0 waiting (pause around.timing backoff remaining waiting).2 := by
  intro remaining
  let delay := min (backoff.delay waiting.draws).1 remaining
  have given : Scalar.smaller (backoff.delay waiting.draws).1 remaining = delay :=
    Scalar.smaller_eq_min _ _
  have measured : (around.waitSpan delay waiting.state.1).Measured deadline :=
    ⟨lt_min (positive.delay_pos fair) (sub_pos.mpr early), min_le_right _ _⟩
  have noted : (pause around.timing backoff remaining waiting).2.state =
      ((around.wait delay waiting.state.1).2,
        waiting.state.2 ++ [around.waitSpan delay waiting.state.1]) := by
    rw [← given]
    rfl
  refine .single (backoff.roll_delay _) (congrArg Prod.snd noted) measured fun punctual => ?_
  rw [noted, add_zero]
  calc around.clock (around.wait delay waiting.state.1).2
      ≤ around.clock waiting.state.1 + delay := punctual
    _ ≤ around.clock waiting.state.1 + remaining := by
      gcongr
      exact min_le_right _ _
    _ = deadline := add_sub_cancel _ _
    _ ≤ max deadline (around.clock waiting.state.1) := le_max_left _ _

/-- A turn overruns the deadline by the least limit at most, since only its last read can be over so
late. -/
theorem poll_timely (around : Surroundings σ Rat) (name : Text) (deadline : Rat) (left : Nat)
    (positive : backoff.Positive) (waiting : Waiting (σ × List (Span Rat)) Rat)
    (fair : waiting.draws.Fair) :
    Timely around deadline leastLimit waiting
      (poll around.timing name deadline left backoff waiting).2 := by
  induction left generalizing backoff waiting with
  | zero => exact .still leastLimit_nonneg waiting
  | succ left ih =>
    rw [poll]
    split
    · exact .still leastLimit_nonneg waiting
    · have looked := look_timely around name deadline waiting
      dsimp only at looked ⊢
      generalize look around.timing name _ waiting = outcome at looked ⊢
      obtain ⟨result, mid⟩ := outcome
      cases result with
      | error fault => exact looked
      | ok established =>
        cases established with
        | true => exact looked
        | false =>
          dsimp only
          split
          · exact looked
          next unspent =>
            -- Some time is left, so neither the read nor the pause ends late.
            have early : around.clock mid.state.1 < deadline := by
              by_contra late
              exact unspent (.inl (reached_iff.mpr (not_lt.mp late)))
            have paused := pause_timely positive mid (looked.fair fair) early
            dsimp only at paused
            generalize pause around.timing backoff _ mid = outcome at paused ⊢
            obtain ⟨stopped, rested⟩ := outcome
            cases stopped with
            | true => exact (looked.trans_early paused early.le).mono leastLimit_nonneg
            | false =>
              have later := ih positive.next rested (paused.fair (looked.fair fair))
              have both := paused.trans (le_refl 0) later
              rw [zero_add] at both
              exact looked.trans_early both early.le

/-- Every name may take the least limit more. -/
theorem pollAll_timely (waiter : Waiter) (around : Surroundings σ Rat) (deadline : Rat)
    (names : List Text) (waiting : Waiting (σ × List (Span Rat)) Rat) (fair : waiting.draws.Fair) :
    Timely around deadline (names.length * leastLimit) waiting
      (pollAll waiter around.timing deadline names waiting).2 := by
  induction names generalizing waiting with
  | nil => exact .still (by simp) waiting
  | cons name names ih =>
    have rest : (0 : Rat) ≤ names.length * leastLimit := by
      rw [leastLimit_eq]
      positivity
    have split : ((name :: names).length : Rat) * leastLimit =
        leastLimit + names.length * leastLimit := by
      rw [List.length_cons, Nat.cast_succ, add_mul, one_mul, add_comm]
    rw [pollAll, split]
    have first :=
      poll_timely around name deadline waiter.attempts Backoff.polling_positive waiting fair
    generalize poll around.timing name deadline waiter.attempts Backoff.polling waiting = polled
      at first ⊢
    obtain ⟨result, mid⟩ := polled
    cases result with
    | error fault => exact first.mono (le_add_of_nonneg_right rest)
    | ok _ =>
      -- The entry that is logged between two turns takes no time.
      have others := ih (mid.log .info ("CRD " ++ name ++ " is established")) (first.fair fair)
      exact first.trans leastLimit_nonneg ⟨others.roll, others.spans⟩

/-- Waiting for definitions does the same whether or not the time is kept. Every read is given some
time, at most what is left until the deadline or a thousandth of a second if that is more, and every
wait some time, at most what is left. If none of them takes longer than it was given, the waiter is
done by the deadline and a thousandth of a second for each name, however it ends. -/
theorem awaitAll_within_deadline (waiter : Waiter) (around : Surroundings σ Rat)
    (names : List Text) {timeout : Rat} (nonneg : 0 ≤ timeout) (waiting : Waiting σ Rat)
    (fair : waiting.draws.Fair) :
    let deadline := around.clock waiting.state + timeout
    let run := waiter.awaitAll around.timing names timeout
      { waiting with state := (waiting.state, []) }
    waiter.awaitAll around names timeout waiting = (run.1, run.2.map Prod.fst) ∧
      (∀ span ∈ run.2.state.2, span.Measured deadline) ∧
      ((∀ span ∈ run.2.state.2, span.Punctual) →
        around.clock run.2.state.1 ≤ deadline + names.length * 0.001) := by
  intro deadline run
  have timely : Timely around deadline (names.length * leastLimit) _ run.2 :=
    pollAll_timely waiter around deadline names { waiting with state := (waiting.state, []) } fair
  obtain ⟨spans, noted, measured, bounded⟩ := timely.spans
  have kept : run.2.state.2 = spans := noted
  rw [kept]
  refine ⟨?_, measured, fun punctual => ?_⟩
  · exact awaitAll_map around.timing_mirrors waiter names timeout
      { waiting with state := (waiting.state, []) }
  · calc around.clock run.2.state.1
        ≤ max deadline (around.clock waiting.state) + names.length * leastLimit := bounded punctual
      _ = deadline + names.length * leastLimit := by
        rw [max_eq_left (le_add_of_nonneg_right nonneg)]
      _ = deadline + names.length * 0.001 := rfl

/-- Two established definitions are read with no time to wait, and each read takes all it is given:
the waiter is done a thousandth of a second late for each of them. -/
theorem awaitAll_within_deadline_attained :
    let definition : Value :=
      .record [("metadata", .record [("uid", .text "u")]), ("status", .record [("conditions",
        .list [.record [("type", .text "Established"), ("status", .text "True")]])])]
    let around : Surroundings Rat Rat :=
      { clock := id
        stopSet := fun _ => false
        read := fun _ limit now => (.ok definition, now + limit)
        wait := fun delay now => (false, now + delay) }
    let waiting : Waiting Rat Rat :=
      { state := 0, draws := { roll := fun _ => 0, taken := 0 }, events := [] }
    let run := (Waiter.mk 5 (by decide)).awaitAll around ["a", "b"] 0 waiting
    waiting.draws.Fair ∧ run.1 = .ok () ∧ run.2.state = 0.002 ∧
      run.2.state ≤ 0 + 0 + 2 * 0.001 := by
  intro definition around waiting run
  have late : run.2.state = 0.002 := by decide +kernel +revert
  have punctual : ∀ span ∈ ((Waiter.mk 5 (by decide)).awaitAll around.timing ["a", "b"] 0
      { waiting with state := (waiting.state, []) }).2.state.2, span.Punctual := by
    decide +kernel +revert
  have fair : waiting.draws.Fair := fun _ => ⟨le_refl 0, zero_lt_one⟩
  refine ⟨fair, by rfl, late, ?_⟩
  obtain ⟨plain, _, within⟩ := awaitAll_within_deadline (Waiter.mk 5 (by decide)) around ["a", "b"]
    (le_refl 0) waiting fair
  change run = _ at plain
  rw [plain]
  exact within punctual

end Waiter

end Crd

end ApiSurface
