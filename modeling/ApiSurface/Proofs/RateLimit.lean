import Mathlib.Algebra.Order.Floor.Semifield
import Mathlib.Algebra.Order.Ring.Rat
import Mathlib.Data.List.Infix
import Mathlib.Data.Rat.Floor
import Mathlib.Tactic.Linarith
import ApiSurface.RateLimit.Job

/-!
# What a limiter lets through

A call is let through as soon as it is due: no call was let through before, or the last one an
interval ago at least. The last one is read off the record of what happened, so it does not matter
what the jobs behind the limiter do: how long they take, whether they fail, and whether they ask
the limiter again while they run. In exact arithmetic the calls let through are then an interval
apart, whatever the clock does, and a window of time has room for only so many.
-/

namespace ApiSurface

/-! ## Intervals in exact arithmetic -/

/-- A number of seconds exceeds the times that are less than it. -/
theorem Seconds.exceeds_iff {seconds : Seconds Rat} {time : Rat} :
    seconds.exceeds time = true ↔ time < seconds.amount := by
  cases seconds <;> exact decide_eq_true_iff

/-- A number of seconds that is not negative is at least zero. -/
theorem Seconds.amount_nonneg {seconds : Seconds Rat} (accepted : seconds.isNegative = false) :
    0 ≤ seconds.amount := by
  cases seconds with
  | whole count =>
    have nonneg : ¬ count < 0 := of_decide_eq_false accepted
    exact Int.cast_nonneg (not_lt.mp nonneg)
  | fractional amount =>
    have nonneg : ¬ amount < (0.0 : Rat) := of_decide_eq_false accepted
    have zero : (0.0 : Rat) = 0 := by norm_num
    rw [zero] at nonneg
    exact not_lt.mp nonneg

/-! ## Due calls -/

/-- A call at a clock reading is due after the starts so far, listed newest first: there was none,
or the time since the newest is not below the interval. -/
def Seconds.Due {τ : Type} [Scalar τ] (interval : Seconds τ) (starts : List τ) (reading : τ) :
    Prop :=
  ∀ newest ∈ starts.head?, interval.exceeds (reading - newest) = false

/-- Starts that are at least so much time apart, listed newest first. -/
def Apart (gap : Rat) (starts : List Rat) : Prop :=
  starts.Pairwise fun later earlier => gap ≤ later - earlier

section Due

variable {interval : Seconds Rat} {starts : List Rat} {reading : Rat}

theorem Seconds.due_cons_iff {newest : Rat} :
    interval.Due (newest :: starts) reading ↔ interval.amount ≤ reading - newest := by
  have exceeds : interval.exceeds (reading - newest) = true ↔
      reading - newest < interval.amount := Seconds.exceeds_iff
  constructor
  · intro due
    exact not_lt.mp fun early =>
      Bool.false_ne_true ((due newest rfl).symm.trans (exceeds.mpr early))
  · rintro reached _ ⟨⟩
    exact Bool.eq_false_iff.mpr fun early => absurd (exceeds.mp early) (not_lt.mpr reached)

/-- A due call is an interval later than every start so far. -/
theorem Seconds.Due.apart (due : interval.Due starts reading) (nonneg : 0 ≤ interval.amount)
    (apart : Apart interval.amount starts) :
    ∀ earlier ∈ starts, interval.amount ≤ reading - earlier := by
  cases starts with
  | nil => nofun
  | cons newest older =>
    have since : interval.amount ≤ reading - newest := Seconds.due_cons_iff.mp due
    intro earlier member
    rcases List.mem_cons.mp member with rfl | before
    · exact since
    · have gap := List.rel_of_pairwise_cons apart before
      linarith

end Due

/-- A limiter that goes by the newest start lets through exactly the calls that are due. -/
theorem Limiter.admits_iff_due {τ : Type} [Scalar τ] {limiter : Limiter τ} {starts : List τ}
    (last : limiter.last = starts.head?) (now : τ) :
    limiter.admits now = true ↔ limiter.interval.Due starts now := by
  unfold Limiter.admits Seconds.Due
  rw [last]
  cases starts.head? with
  | none => simp
  | some newest => simp

/-! ## Room in a window -/

/-- So many starts apart take up so many gaps of time. -/
theorem Apart.span {gap first newest : Rat} {older : List Rat} (apart : Apart gap (newest :: older))
    (within : ∀ start ∈ newest :: older, first ≤ start) : first + older.length * gap ≤ newest := by
  induction older generalizing newest with
  | nil => simpa using within newest
  | cons next older ih =>
    obtain ⟨since, apart⟩ := List.pairwise_cons.mp apart
    have before := ih apart fun start member => within start (List.mem_cons_of_mem _ member)
    have step : gap ≤ newest - next := since next List.mem_cons_self
    rw [List.length_cons, Nat.cast_succ]
    linarith

/-- Starts that are a gap apart and all in one window, its ends included, are no more than there
are gaps in the window, and one. -/
theorem Apart.length_le {gap first length : Rat} {starts : List Rat} (apart : Apart gap starts)
    (positive : 0 < gap) (within : ∀ start ∈ starts, first ≤ start ∧ start ≤ first + length) :
    starts.length ≤ ⌊length / gap⌋₊ + 1 := by
  cases starts with
  | nil => exact Nat.zero_le _
  | cons newest older =>
    have span := apart.span fun start member => (within start member).1
    have last := (within newest List.mem_cons_self).2
    have gaps : (older.length : Rat) ≤ length / gap := by
      rw [le_div_iff₀ positive]
      linarith
    exact Nat.succ_le_succ (Nat.le_floor gaps)

/-! ## What is on record -/

variable {τ : Type}

namespace Job

/-- The clock reading of a start. -/
def Event.start? : Event τ → Option τ
  | began _ reading => some reading
  | _ => none

/-- The clock readings of the calls let through, newest first. -/
def startsIn (events : List (Event τ)) : List τ := events.filterMap Event.start?

variable [Scalar τ]

/-- A call was let through if it was due after what was on record, and dropped if it was not. -/
def Event.Decided (interval : Seconds τ) (earlier : List (Event τ)) : Event τ → Prop
  | began _ reading => interval.Due (startsIn earlier) reading
  | dropped _ reading => ¬ interval.Due (startsIn earlier) reading
  | completed _ => True

/-- A call that a job makes at a gate while it runs, at any depth of nesting. -/
inductive Makes : Job τ → Nat → Gate τ → Job τ → Nat → Gate τ → Prop where
  | passes {tick : τ → τ} {rest call : Job τ} {depth place : Nat} {gate there : Gate τ}
      (makes : Makes rest depth (gate.passed tick) call place there) :
      Makes (.passes tick rest) depth gate call place there
  | asks {inner : Job τ} {rest : Except Fault Bool → Job τ} {depth : Nat} {gate : Gate τ} :
      Makes (.asks inner rest) depth gate inner depth gate
  | inside {inner call : Job τ} {rest : Except Fault Bool → Job τ} {depth place : Nat}
      {gate there : Gate τ} (admits : gate.limiter.admits gate.clock = true)
      (makes : Makes inner (depth + 1) (gate.enter depth) call place there) :
      Makes (.asks inner rest) depth gate call place there
  | after {inner call : Job τ} {rest : Except Fault Bool → Job τ} {depth place : Nat}
      {gate there : Gate τ}
      (makes : Makes (rest (gate.submit depth inner).1) depth (gate.submit depth inner).2
        call place there) :
      Makes (.asks inner rest) depth gate call place there

end Job

namespace Gate

open Job (startsIn)

variable [Scalar τ] {interval : Seconds τ} {gate : Gate τ}

/-- A gate that can come about: with a limiter as it was made, or by what happens behind one. The
clock may go on to any reading. -/
inductive Reached (interval : Seconds τ) : Gate τ → Prop where
  | opened {limiter : Limiter τ} {clock : τ} (created : Limiter.create interval = .ok limiter) :
      Reached interval { limiter, clock, events := [] }
  | passed {gate : Gate τ} (reached : Reached interval gate) (tick : τ → τ) :
      Reached interval (gate.passed tick)
  | entered {gate : Gate τ} (reached : Reached interval gate)
      (admits : gate.limiter.admits gate.clock = true) (depth : Nat) :
      Reached interval (gate.enter depth)
  | refused {gate : Gate τ} (reached : Reached interval gate)
      (refuses : gate.limiter.admits gate.clock = false) (depth : Nat) :
      Reached interval (gate.record (.dropped depth gate.clock))
  | completed {gate : Gate τ} (reached : Reached interval gate) (depth : Nat) :
      Reached interval (gate.record (.completed depth))

/-- The limiter goes by the newest start on record, and every call on record was decided by the
newest start before it. -/
structure Sound (interval : Seconds τ) (gate : Gate τ) : Prop where
  paced : gate.limiter.interval = interval
  last : gate.limiter.last = (startsIn gate.events).head?
  decided : ∀ event earlier, event :: earlier <:+ gate.events → event.Decided interval earlier

namespace Sound

/-- What is let through is what is due. -/
theorem admits_iff (sound : gate.Sound interval) :
    gate.limiter.admits gate.clock = true ↔ interval.Due (startsIn gate.events) gate.clock := by
  rw [Limiter.admits_iff_due sound.last, sound.paced]

theorem refuses_iff (sound : gate.Sound interval) :
    gate.limiter.admits gate.clock = false ↔ ¬ interval.Due (startsIn gate.events) gate.clock := by
  rw [← sound.admits_iff, Bool.not_eq_true]

/-- One more event on record was decided like the others. -/
theorem decided_cons (sound : gate.Sound interval) (event : Job.Event τ)
    (decided : event.Decided interval gate.events) (newest : Job.Event τ)
    (earlier : List (Job.Event τ)) (within : newest :: earlier <:+ event :: gate.events) :
    newest.Decided interval earlier := by
  rcases List.suffix_cons_iff.mp within with here | before
  · obtain ⟨rfl, rfl⟩ := List.cons.inj here
    exact decided
  · exact sound.decided newest earlier before

end Sound

/-- Every gate that can come about is sound. -/
theorem Reached.sound (reached : gate.Reached interval) : gate.Sound interval := by
  induction reached with
  | @opened limiter clock created =>
    have made : limiter = { interval, last := none } := by
      unfold Limiter.create at created
      split at created
      · cases created
      · exact (Except.ok.inj created).symm
    subst made
    exact ⟨rfl, rfl, fun event earlier within => by simp at within⟩
  | passed reached tick ih => exact ⟨ih.paced, ih.last, ih.decided⟩
  | entered reached admits depth ih =>
    exact ⟨ih.paced, rfl, ih.decided_cons (.began depth _) (ih.admits_iff.mp admits)⟩
  | refused reached refuses depth ih =>
    exact ⟨ih.paced, ih.last,
      ih.decided_cons (.dropped depth _) (ih.refuses_iff.mp refuses)⟩
  | completed reached depth ih =>
    exact ⟨ih.paced, ih.last, ih.decided_cons (.completed depth) trivial⟩

/-! ## What a call comes to -/

/-- How a call at a gate comes out: dropped, or let through, and then as its work does. -/
theorem offer_cases (gate : Gate τ) (depth : Nat) (work : Gate τ → Except Fault Unit × Gate τ) :
    (gate.limiter.admits gate.clock = false ∧
        gate.offer depth work = (.ok false, gate.record (.dropped depth gate.clock))) ∨
      (gate.limiter.admits gate.clock = true ∧ (work (gate.enter depth)).1 = .ok () ∧
        gate.offer depth work = (.ok true, (work (gate.enter depth)).2.record (.completed depth))) ∨
      ∃ fault, gate.limiter.admits gate.clock = true ∧ (work (gate.enter depth)).1 = .error fault ∧
        gate.offer depth work = (.error fault, (work (gate.enter depth)).2) := by
  unfold offer
  cases gate.limiter.admits gate.clock with
  | false => exact .inl ⟨rfl, rfl⟩
  | true =>
    cases ended : work (gate.enter depth) with
    | mk result after =>
      cases result with
      | ok => exact .inr (.inl ⟨rfl, rfl, rfl⟩)
      | error fault => exact .inr (.inr ⟨fault, rfl, rfl, rfl⟩)

theorem Reached.offer (reached : gate.Reached interval) (depth : Nat)
    {work : Gate τ → Except Fault Unit × Gate τ}
    (keeps : ∀ {gate}, gate.Reached interval → (work gate).2.Reached interval) :
    (gate.offer depth work).2.Reached interval := by
  obtain ⟨refuses, ended⟩ | ⟨admits, -, ended⟩ | ⟨fault, admits, -, ended⟩ :=
    gate.offer_cases depth work
  · rw [ended]
    exact reached.refused refuses depth
  · rw [ended]
    exact (keeps (reached.entered admits depth)).completed depth
  · rw [ended]
    exact keeps (reached.entered admits depth)

/-- A job leaves a gate that can come about. -/
theorem Reached.run (reached : gate.Reached interval) (job : Job τ) (depth : Nat) :
    (job.run depth gate).2.Reached interval := by
  induction job generalizing depth gate with
  | done => exact reached
  | failed fault => exact reached
  | passes tick rest ih => exact ih (reached.passed tick) depth
  | asks inner rest ihInner ihRest =>
    exact ihRest _ (reached.offer depth fun entered => ihInner entered (depth + 1)) depth

theorem Reached.submit (reached : gate.Reached interval) (depth : Nat) (job : Job τ) :
    (gate.submit depth job).2.Reached interval :=
  reached.offer depth fun entered => entered.run job (depth + 1)

/-- Every call that a job makes is made at a gate that can come about. -/
theorem Reached.makes {job call : Job τ} {depth place : Nat} {there : Gate τ}
    (reached : gate.Reached interval) (makes : job.Makes depth gate call place there) :
    there.Reached interval := by
  induction makes with
  | passes makes ih => exact ih (reached.passed _)
  | asks => exact reached
  | inside admits makes ih => exact ih (reached.entered admits _)
  | after makes ih => exact ih (reached.submit _ _)

/-- What was on record stays on record. -/
theorem events_offer (gate : Gate τ) (depth : Nat) {work : Gate τ → Except Fault Unit × Gate τ}
    (keeps : ∀ gate, gate.events <:+ (work gate).2.events) :
    gate.events <:+ (gate.offer depth work).2.events := by
  have begun : gate.events <:+ (work (gate.enter depth)).2.events :=
    (List.suffix_cons _ _).trans (keeps (gate.enter depth))
  obtain ⟨-, ended⟩ | ⟨-, -, ended⟩ | ⟨fault, -, -, ended⟩ := gate.offer_cases depth work
  · rw [ended]
    exact List.suffix_cons _ _
  · rw [ended]
    exact begun.trans (List.suffix_cons _ _)
  · rw [ended]
    exact begun

theorem events_run (job : Job τ) (depth : Nat) (gate : Gate τ) :
    gate.events <:+ (job.run depth gate).2.events := by
  induction job generalizing depth gate with
  | done => exact List.suffix_rfl
  | failed fault => exact List.suffix_rfl
  | passes tick rest ih => exact ih depth (gate.passed tick)
  | asks inner rest ihInner ihRest =>
    exact (gate.events_offer depth (ihInner (depth + 1))).trans (ihRest _ depth _)

/-- What a call to a limiter comes to, for what its job does once it runs. -/
structure Answers (interval : Seconds τ) (gate : Gate τ) (depth : Nat) (job : Job τ) : Prop where
  /-- The job begins exactly when the call is due. -/
  began_iff : .began depth gate.clock :: gate.events <:+ (gate.submit depth job).2.events ↔
    interval.Due (startsIn gate.events) gate.clock
  /-- The answer is that it ran exactly when it ran to completion. -/
  ran_iff : (gate.submit depth job).1 = .ok true ↔
    interval.Due (startsIn gate.events) gate.clock ∧
      (job.run (depth + 1) (gate.enter depth)).1 = .ok ()
  /-- The answer is that it did not exactly when the call was not due. -/
  refused_iff : (gate.submit depth job).1 = .ok false ↔
    ¬ interval.Due (startsIn gate.events) gate.clock
  /-- A fault is exactly what the job failed with. -/
  failed_iff : ∀ fault, (gate.submit depth job).1 = .error fault ↔
    interval.Due (startsIn gate.events) gate.clock ∧
      (job.run (depth + 1) (gate.enter depth)).1 = .error fault
  /-- A call that was not due leaves nothing but its record. -/
  dropped : ¬ interval.Due (startsIn gate.events) gate.clock →
    (gate.submit depth job).2 = gate.record (.dropped depth gate.clock)
  /-- Whatever the answer, the limiter goes by the newest start on record. -/
  newest : (gate.submit depth job).2.limiter.last =
    (startsIn (gate.submit depth job).2.events).head?

/-- Every call at a gate that can come about is answered like this. -/
theorem Reached.answers (reached : gate.Reached interval) (depth : Nat) (job : Job τ) :
    gate.Answers interval depth job := by
  have sound := reached.sound
  have newest := (reached.submit depth job).sound.last
  have kept := events_run job (depth + 1) (gate.enter depth)
  obtain ⟨refuses, ended⟩ | ⟨admits, ran, ended⟩ | ⟨fault, admits, failed, ended⟩ :=
    gate.offer_cases depth (job.run (depth + 1))
  · have submitted : gate.submit depth job = (.ok false, gate.record (.dropped depth gate.clock)) :=
      ended
    have early := sound.refuses_iff.mp refuses
    refine ⟨iff_of_false ?_ early, ?_, ?_, fun fault => ?_, fun _ => ?_, newest⟩
    · intro within
      rw [submitted] at within
      have same := within.eq_of_length rfl
      cases (List.cons.inj same).1
    all_goals simp [submitted, early]
  · have submitted : gate.submit depth job =
        (.ok true, (job.run (depth + 1) (gate.enter depth)).2.record (.completed depth)) := ended
    have due := sound.admits_iff.mp admits
    refine ⟨iff_of_true ?_ due, ?_, ?_, fun fault => ?_, fun early => absurd due early, newest⟩
    · rw [submitted]
      exact kept.trans (List.suffix_cons _ _)
    all_goals simp [submitted, due, ran]
  · have submitted : gate.submit depth job =
        (.error fault, (job.run (depth + 1) (gate.enter depth)).2) := ended
    have due := sound.admits_iff.mp admits
    refine ⟨iff_of_true ?_ due, ?_, ?_, fun fault => ?_, fun early => absurd due early, newest⟩
    · rw [submitted]
      exact kept
    all_goals simp [submitted, due, failed]

/-- In exact arithmetic, the starts on record are an interval apart. -/
theorem Reached.apart {interval : Seconds Rat} {gate : Gate Rat} (reached : gate.Reached interval)
    (nonneg : 0 ≤ interval.amount) : Apart interval.amount (startsIn gate.events) := by
  have decided := reached.sound.decided
  generalize gate.events = events at decided ⊢
  induction events with
  | nil => exact .nil
  | cons event earlier ih =>
    have before := ih fun event' earlier' within =>
      decided event' earlier' (within.trans (List.suffix_cons _ _))
    have here := decided event earlier List.suffix_rfl
    cases event with
    | began depth reading =>
      have due : interval.Due (startsIn earlier) reading := here
      exact .cons (due.apart nonneg before) before
    | dropped depth reading => exact before
    | completed depth => exact before

end Gate

open Job (startsIn)

/-- A limiter is greedy, whatever is run behind it. At every gate that can come about, however
long jobs took, however they failed and however deeply they asked the same limiter again, a call
is answered by what is due after the newest start, and so was every call on record; a job's own
calls are made at such gates too. In exact arithmetic, a window of time that includes its ends
holds no more starts than one for every full interval in it, and one. -/
theorem limiter_greedy :
    (∀ {τ : Type} [Scalar τ] {interval : Seconds τ} {gate : Gate τ}, gate.Reached interval →
      (∀ event earlier, event :: earlier <:+ gate.events → event.Decided interval earlier) ∧
      ∀ depth job, gate.Answers interval depth job ∧
        (gate.submit depth job).2.Reached interval ∧
        ∀ call place there, (Job.asks job fun _ => .done).Makes depth gate call place there →
          there.Reached interval) ∧
    ∀ {interval : Seconds Rat} {gate : Gate Rat}, gate.Reached interval → 0 < interval.amount →
      ∀ first length, (startsIn gate.events).countP
          (fun start => first ≤ start ∧ start ≤ first + length) ≤
        ⌊length / interval.amount⌋₊ + 1 := by
  constructor
  · intro τ _ interval gate reached
    exact ⟨reached.sound.decided, fun depth job => ⟨reached.answers depth job,
      reached.submit depth job, fun call place there => reached.makes⟩⟩
  · intro interval gate reached positive first length
    rw [List.countP_eq_length_filter]
    have apart := (reached.apart positive.le).filter
      (fun start => decide (first ≤ start ∧ start ≤ first + length))
    exact Apart.length_le apart positive fun start member => by
      simpa using (List.mem_filter.mp member).2

/-- A job that takes three seconds, asks for another one then and fails in the end. -/
def Job.stumbling : Job Rat := .mk 3 [.done] (some (.outside .timeout "no answer"))

/-- A limiter of five seconds that let such a job through at a hundred, five seconds later. -/
def Gate.stumbled : Gate Rat :=
  let gate : Gate Rat :=
    { limiter := { interval := .whole 5, last := none }, clock := 100, events := [] }
  (gate.submit 0 .stumbling).2.elapse 2

theorem limiter_greedy_stumbled :
    Gate.stumbled.clock = 105 ∧ startsIn Gate.stumbled.events = [100] ∧
      (Gate.stumbled.submit 0 .done).1 = .ok true ∧
      (startsIn (Gate.stumbled.submit 0 .done).2.events).countP
        (fun start => 100 ≤ start ∧ start ≤ 100 + 5) ≤ 2 := by
  have opened : Gate.Reached (.whole 5 : Seconds Rat)
      { limiter := { interval := .whole 5, last := none }, clock := 100, events := [] } :=
    .opened rfl
  have reached : Gate.stumbled.Reached (.whole 5) :=
    ((limiter_greedy.1 opened).2 0 .stumbling).2.1.passed (· + 2)
  have clock : Gate.stumbled.clock = 105 := by decide +kernel
  have starts : startsIn Gate.stumbled.events = [100] := by decide +kernel
  have due : (Seconds.whole 5).Due (startsIn Gate.stumbled.events) Gate.stumbled.clock := by
    have past : (Seconds.whole 5 : Seconds Rat).amount ≤ 105 - 100 := by decide +kernel
    rw [starts, clock]
    exact Seconds.due_cons_iff.mpr past
  obtain ⟨answers, further, -⟩ := (limiter_greedy.1 reached).2 0 .done
  have room := limiter_greedy.2 further (by decide +kernel) 100 5
  exact ⟨clock, starts, answers.ran_iff.mpr ⟨due, rfl⟩, room.trans (by decide +kernel)⟩

end ApiSurface
