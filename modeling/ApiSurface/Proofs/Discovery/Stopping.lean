import ApiSurface.Proofs.Discovery.Pool

/-!
# Stopping a pool of workers

Before a scan requests anything it looks at the stop signal of its pass, and then whether
the pass has failed. Looking and requesting are steps of their own, so the signal may be
set, and another scan may fail, after a scan has looked and before it requests. `Shift`
refines `Pool` by these steps, by the last look that the pass itself takes when all scans
have ended, and by the signal.

Once the signal is set, only scans that have looked already may still be requested. Each
of them holds a worker, so with the signal set while a request is under way they are
fewer than the workers, and with one worker there are none. A pass that has not taken its
last look by then fails. Every schedule ends, and one that no stop reaches is a schedule
of `Pool`.
-/

namespace ApiSurface

/-- A discovery pass under way in a pool of workers, under a stop signal. -/
structure Shift extends Pool where
  /-- Scans that were begun and found the signal unset. -/
  heeded : Multiset GroupVersion
  /-- Scans that found the pass going on as well, and are about to be requested. -/
  cleared : Multiset GroupVersion
  /-- Scans that were begun and found the signal set. -/
  cancelled : Multiset GroupVersion
  /-- The signal is set. -/
  stopped : Bool
  /-- The pass has failed, and no scan is to be requested any more. -/
  aborted : Bool
  /-- What the pass hands out, once it has taken its last look. -/
  verdict : Option (Except Fault Snapshot)

/-- What scanning a group-version may give. -/
abbrev MayGive := GroupVersion → Except Fault (List Resource) → Prop

namespace Shift

/-- A pass that has not begun, with the signal set or not. -/
def start (listed : List GroupVersion) (stopped : Bool) : Shift :=
  { Pool.start listed with
    heeded := 0
    cleared := 0
    cancelled := 0
    stopped
    aborted := false
    verdict := none }

/-- The scans that hold a worker. -/
def busy (shift : Shift) : Multiset GroupVersion := shift.heeded + shift.cleared + shift.running

/-- Every scan has ended. -/
def Done (shift : Shift) : Prop := shift.queued = 0 ∧ shift.busy = 0

/-- A scan has failed, or found the signal set. -/
def Troubled (shift : Shift) : Prop := shift.failures ≠ 0 ∨ shift.cancelled ≠ 0

/-- What a pass hands out when all scans have ended and it takes its last look: one of its failures,
or that a stop was seen, by a scan or only now, or what was put together. -/
inductive HandsOut (shift : Shift) : Except Fault Snapshot → Prop where
  | results (untroubled : ¬ shift.Troubled) (unset : shift.stopped = false) :
      HandsOut shift (.ok shift.results)
  | failure {gv : GroupVersion} {fault : Fault} (failed : (gv, fault) ∈ shift.failures) :
      HandsOut shift (.error fault)
  | cancelled (cancelled : shift.cancelled ≠ 0) :
      HandsOut shift (.error Fault.stopDuringCollection)
  | stopped (untroubled : ¬ shift.Troubled) (set : shift.stopped = true) :
      HandsOut shift (.error Fault.stopDuringCollection)

/-- What may happen next in a pool of a number of workers. -/
inductive Step (gives : MayGive) (workers : Nat) : Shift → Shift → Prop where
  /-- A worker takes a scan, which finds the signal unset. -/
  | heed {shift : Shift} {gv : GroupVersion} {rest : Multiset GroupVersion}
      (unset : shift.stopped = false) (room : shift.busy.card < workers)
      (queued : shift.queued = gv ::ₘ rest) :
      Step gives workers shift { shift with queued := rest, heeded := gv ::ₘ shift.heeded }
  /-- A worker takes a scan, which finds the signal set and ends. -/
  | cancel {shift : Shift} {gv : GroupVersion} {rest : Multiset GroupVersion}
      (set : shift.stopped = true) (room : shift.busy.card < workers)
      (queued : shift.queued = gv ::ₘ rest) :
      Step gives workers shift { shift with queued := rest, cancelled := gv ::ₘ shift.cancelled }
  | clear {shift : Shift} {gv : GroupVersion} {rest : Multiset GroupVersion}
      (going : shift.aborted = false) (heeded : shift.heeded = gv ::ₘ rest) :
      Step gives workers shift { shift with heeded := rest, cleared := gv ::ₘ shift.cleared }
  /-- A scan finds that the pass has failed, and ends. -/
  | drop {shift : Shift} {gv : GroupVersion} {rest : Multiset GroupVersion}
      (aborted : shift.aborted = true) (heeded : shift.heeded = gv ::ₘ rest) :
      Step gives workers shift { shift with heeded := rest, dropped := gv ::ₘ shift.dropped }
  /-- A scan of a pass that has failed is taken out of the queue. -/
  | withdraw {shift : Shift} {gv : GroupVersion} {rest : Multiset GroupVersion}
      (aborted : shift.aborted = true) (queued : shift.queued = gv ::ₘ rest) :
      Step gives workers shift { shift with queued := rest, dropped := gv ::ₘ shift.dropped }
  | request {shift : Shift} {gv : GroupVersion} {rest : Multiset GroupVersion}
      (cleared : shift.cleared = gv ::ₘ rest) :
      Step gives workers shift
        { shift with
            cleared := rest
            running := gv ::ₘ shift.running
            requested := gv ::ₘ shift.requested }
  | merge {shift : Shift} {gv : GroupVersion} {rest : Multiset GroupVersion}
      {resources : List Resource} (running : shift.running = gv ::ₘ rest)
      (given : gives gv (.ok resources)) :
      Step gives workers shift
        { shift with
            running := rest
            merged := gv ::ₘ shift.merged
            results := shift.results.add gv.key resources }
  | fail {shift : Shift} {gv : GroupVersion} {rest : Multiset GroupVersion} {fault : Fault}
      (running : shift.running = gv ::ₘ rest) (given : gives gv (.error fault)) :
      Step gives workers shift
        { shift with
            running := rest
            failures := (gv, fault) ::ₘ shift.failures
            aborted := true }
  /-- Whoever waits for the scans learns that one has ended badly. -/
  | abort {shift : Shift} (troubled : shift.Troubled) (going : shift.aborted = false) :
      Step gives workers shift { shift with aborted := true }
  /-- Someone sets the signal. -/
  | stop {shift : Shift} (unset : shift.stopped = false) :
      Step gives workers shift { shift with stopped := true }
  /-- The pass takes its last look. -/
  | settle {shift : Shift} {result : Except Fault Snapshot} (done : shift.Done)
      (unsettled : shift.verdict = none) (handsOut : shift.HandsOut result) :
      Step gives workers shift { shift with verdict := some result }

/-- One pass comes of another in any number of steps. -/
abbrev Run (gives : MayGive) (workers : Nat) : Shift → Shift → Prop :=
  Relation.ReflTransGen (Step gives workers)

variable {gives : MayGive} {workers : Nat} {shift next : Shift}

/-! ## One scan at a time -/

/-- The signal may be set at any time. -/
theorem Run.signalled (unset : shift.stopped = false) (stopped : Bool) :
    Run gives workers shift { shift with stopped } := by
  cases stopped with
  | true => exact .single (.stop unset)
  | false =>
    have same : { shift with stopped := false } = shift := by rw [← unset]
    exact same ▸ .refl

/-- The shift in which a scan that was queued is requested. -/
def asking (shift : Shift) (gv : GroupVersion) (rest : Multiset GroupVersion) : Shift :=
  { shift with
    queued := rest
    running := gv ::ₘ shift.running
    requested := gv ::ₘ shift.requested }

theorem room_of_idle (staffed : 1 ≤ workers) (idle : shift.busy = 0) :
    shift.busy.card < workers := by
  rw [idle, Multiset.card_zero]
  omega

section OneByOne

variable {gv : GroupVersion} {rest : Multiset GroupVersion}
variable (staffed : 1 ≤ workers) (idle : shift.busy = 0) (queued : shift.queued = gv ::ₘ rest)
include staffed idle queued

/-- A scan that is queued may look twice and be requested before any other is taken. -/
theorem Run.asked (unset : shift.stopped = false) (going : shift.aborted = false) :
    Run gives workers shift (shift.asking gv rest) :=
  .head (.heed unset (room_of_idle staffed idle) queued)
    (.head (.clear going rfl) (.single (.request rfl)))

/-- A scan that is queued may be dropped from a pass that has failed before any other is taken. -/
theorem Run.passedOver (unset : shift.stopped = false) (aborted : shift.aborted = true) :
    Run gives workers shift { shift with queued := rest, dropped := gv ::ₘ shift.dropped } :=
  .head (.heed unset (room_of_idle staffed idle) queued) (.single (.drop aborted rfl))

end OneByOne

/-! ## What a stop leaves to be done -/

/-- A signal that is set stays so. -/
theorem Step.stopped (step : Step gives workers shift next) (set : shift.stopped = true) :
    next.stopped = true := by
  cases step with
  | stop => rfl
  | _ => exact set

/-- Everything requested, and every scan that may still be. -/
def pledged (shift : Shift) : Multiset GroupVersion :=
  shift.requested + (shift.heeded + shift.cleared)

/-- Once the signal is set, no scan comes to be requested that has not looked before. -/
theorem Step.pledged_le (step : Step gives workers shift next) (set : shift.stopped = true) :
    next.pledged ≤ shift.pledged := by
  cases step with
  | heed unset => cases set.symm.trans unset
  | @clear gv rest going heeded =>
    change shift.requested + (rest + gv ::ₘ shift.cleared) ≤ _
    rw [pledged, heeded, Multiset.cons_add, Multiset.add_cons]
  | @drop gv rest aborted heeded =>
    change shift.requested + (rest + shift.cleared) ≤ _
    rw [pledged, heeded, Multiset.cons_add, Multiset.add_cons]
    exact Multiset.le_cons_self _ gv
  | @request gv rest cleared =>
    change gv ::ₘ shift.requested + (shift.heeded + rest) ≤ _
    rw [pledged, cleared, Multiset.cons_add, Multiset.add_cons, Multiset.add_cons]
  | _ => exact le_refl _

/-- What is requested in all was requested or looked for when the signal was set. -/
theorem Run.pledged_le (run : Run gives workers shift next) (set : shift.stopped = true) :
    next.stopped = true ∧ next.pledged ≤ shift.pledged := by
  induction run with
  | refl => exact ⟨set, le_refl _⟩
  | tail _ step ih => exact ⟨step.stopped ih.1, (step.pledged_le ih.1).trans ih.2⟩

/-- No snapshot was handed out, and none will be. -/
def Fruitless (shift : Shift) : Prop :=
  shift.stopped = true ∧ ∀ s, shift.verdict ≠ some (.ok s)

/-- A pass whose last look finds the signal set hands out no snapshot. -/
theorem Step.fruitless (step : Step gives workers shift next) (fruitless : shift.Fruitless) :
    next.Fruitless := by
  refine ⟨step.stopped fruitless.1, ?_⟩
  cases step with
  | settle done unsettled handsOut =>
    rintro s handed
    cases handed
    cases handsOut with
    | results _ unset => cases fruitless.1.symm.trans unset
  | _ => exact fruitless.2

theorem Run.fruitless (run : Run gives workers shift next) (fruitless : shift.Fruitless) :
    next.Fruitless := by
  induction run with
  | refl => exact fruitless
  | tail _ step ih => exact step.fruitless ih

/-! ## What holds on every schedule -/

/-- Every scan that was begun and has not ended holds a worker; the pass was marked as failed only
once a scan had ended badly, and each failure marks it; a scan found the signal set only if it is;
and what the pass handed out was there to be handed out when all scans had ended. -/
structure Sound (workers : Nat) (shift : Shift) : Prop where
  staffed : shift.busy.card ≤ workers
  troubled : shift.aborted = true → shift.Troubled
  aborted : shift.failures ≠ 0 → shift.aborted = true
  cancelled : shift.cancelled ≠ 0 → shift.stopped = true
  done : shift.verdict ≠ none → shift.Done
  succeeded : ∀ s, shift.verdict = some (.ok s) → ¬ shift.Troubled ∧ s = shift.results
  failed : ∀ fault, shift.verdict = some (.error fault) →
    (∃ gv, (gv, fault) ∈ shift.failures) ∨
      shift.stopped = true ∧ fault = Fault.stopDuringCollection

theorem Sound.start (listed : List GroupVersion) (stopped : Bool) :
    (start listed stopped).Sound workers where
  staffed := Nat.zero_le _
  troubled := nofun
  aborted none := absurd rfl none
  cancelled none := absurd rfl none
  done none := absurd rfl none
  succeeded := nofun
  failed := nofun

/-- A pass in which something is left to be done hands out nothing yet. -/
theorem Sound.unsettled (sound : shift.Sound workers) (undone : ¬ shift.Done) :
    shift.verdict = none :=
  by_contra fun settled => undone (sound.done settled)

/-- A pass that hands out nothing yet is sound if its scans are. -/
theorem Sound.of_unsettled (unsettled : shift.verdict = none)
    (staffed : shift.busy.card ≤ workers) (troubled : shift.aborted = true → shift.Troubled)
    (aborted : shift.failures ≠ 0 → shift.aborted = true)
    (cancelled : shift.cancelled ≠ 0 → shift.stopped = true) : shift.Sound workers where
  staffed := staffed
  troubled := troubled
  aborted := aborted
  cancelled := cancelled
  done settled := absurd unsettled settled
  succeeded s settled := by cases unsettled.symm.trans settled
  failed fault settled := by cases unsettled.symm.trans settled

theorem not_done_of_queued {gv : GroupVersion} {rest : Multiset GroupVersion}
    (queued : shift.queued = gv ::ₘ rest) : ¬ shift.Done := fun done =>
  Multiset.cons_ne_zero (queued.symm.trans done.1)

theorem not_done_of_busy (busy : shift.busy ≠ 0) : ¬ shift.Done := fun done => busy done.2

theorem card_busy (shift : Shift) :
    shift.busy.card = shift.heeded.card + shift.cleared.card + shift.running.card := by
  rw [busy, Multiset.card_add, Multiset.card_add]

/-- Every scan under way holds a worker: it takes one to be begun, and keeps it until it ends. -/
theorem Step.staffed (step : Step gives workers shift next) (staffed : shift.busy.card ≤ workers) :
    next.busy.card ≤ workers := by
  rw [card_busy] at staffed ⊢
  cases step with
  | heed _ room _ =>
    rw [card_busy] at room
    simp only [Multiset.card_cons]
    omega
  | clear _ heeded | drop _ heeded =>
    rw [heeded, Multiset.card_cons] at staffed
    simp only [Multiset.card_cons]
    omega
  | request cleared =>
    rw [cleared, Multiset.card_cons] at staffed
    simp only [Multiset.card_cons]
    omega
  | merge running | fail running =>
    rw [running, Multiset.card_cons] at staffed
    simp only
    omega
  | _ => exact staffed

/-- Every step keeps a sound pass sound. -/
theorem Sound.step (sound : shift.Sound workers) (step : Step gives workers shift next) :
    next.Sound workers := by
  have staffed : next.busy.card ≤ workers := step.staffed sound.staffed
  cases step with
  | heed _ _ queued | withdraw _ queued =>
    exact .of_unsettled (sound.unsettled (not_done_of_queued queued)) staffed
      sound.troubled sound.aborted sound.cancelled
  | cancel set _ queued =>
    exact .of_unsettled (sound.unsettled (not_done_of_queued queued)) staffed
      (fun _ => .inr Multiset.cons_ne_zero) sound.aborted fun _ => set
  | clear _ heeded | drop _ heeded =>
    exact .of_unsettled (sound.unsettled (not_done_of_busy (by simp [busy, heeded]))) staffed
      sound.troubled sound.aborted sound.cancelled
  | request cleared =>
    exact .of_unsettled (sound.unsettled (not_done_of_busy (by simp [busy, cleared]))) staffed
      sound.troubled sound.aborted sound.cancelled
  | merge running =>
    exact .of_unsettled (sound.unsettled (not_done_of_busy (by simp [busy, running]))) staffed
      sound.troubled sound.aborted sound.cancelled
  | fail running =>
    exact .of_unsettled (sound.unsettled (not_done_of_busy (by simp [busy, running]))) staffed
      (fun _ => .inl Multiset.cons_ne_zero) (fun _ => rfl) sound.cancelled
  | abort troubled going =>
    exact { sound with troubled := fun _ => troubled, aborted := fun _ => rfl }
  | stop unset =>
    exact
      { sound with
          cancelled := fun _ => rfl
          failed := fun fault settled => (sound.failed fault settled).imp_right
            fun stopped => ⟨rfl, stopped.2⟩ }
  | settle done unsettled handsOut =>
    refine { sound with done := fun _ => done, succeeded := ?_, failed := ?_ }
    · rintro s settled
      cases settled
      cases handsOut with
      | results untroubled unset => exact ⟨untroubled, rfl⟩
    · rintro fault settled
      cases settled
      cases handsOut with
      | failure failed => exact .inl ⟨_, failed⟩
      | cancelled cancelled => exact .inr ⟨sound.cancelled cancelled, rfl⟩
      | stopped untroubled set => exact .inr ⟨set, rfl⟩

theorem Sound.run (sound : shift.Sound workers) (run : Run gives workers shift next) :
    next.Sound workers := by
  induction run with
  | refl => exact sound
  | tail _ step ih => exact ih.step step

/-! ## Every schedule ends -/

/-- How many steps are left at most. -/
def remaining (shift : Shift) : Nat :=
  4 * shift.queued.card + 3 * shift.heeded.card + 2 * shift.cleared.card + shift.running.card +
    (!shift.aborted).toNat + (!shift.stopped).toNat + (!shift.verdict.isSome).toNat

theorem Step.remaining_lt (step : Step gives workers shift next) :
    next.remaining < shift.remaining := by
  cases step with
  | heed _ _ queued | cancel _ _ queued | withdraw _ queued =>
    simp only [remaining, queued, Multiset.card_cons]
    omega
  | clear _ heeded | drop _ heeded =>
    simp only [remaining, heeded, Multiset.card_cons]
    omega
  | request cleared =>
    simp only [remaining, cleared, Multiset.card_cons]
    omega
  | merge running =>
    simp only [remaining, running, Multiset.card_cons]
    omega
  | fail running =>
    simp only [remaining, running, Multiset.card_cons, Bool.not_true, Bool.toNat_false]
    omega
  | abort _ going => simp [remaining, going]
  | stop unset => simp [remaining, unset]
  | settle _ unsettled => simp [remaining, unsettled]

/-- Something can be handed out once all scans have ended. -/
theorem exists_handsOut (shift : Shift) : ∃ result, shift.HandsOut result := by
  by_cases failures : shift.failures = 0
  · by_cases cancelled : shift.cancelled = 0
    · have untroubled : ¬ shift.Troubled := not_or.mpr ⟨not_not.mpr failures, not_not.mpr cancelled⟩
      cases stopped : shift.stopped with
      | true => exact ⟨_, .stopped untroubled stopped⟩
      | false => exact ⟨_, .results untroubled stopped⟩
    · exact ⟨_, .cancelled cancelled⟩
  · obtain ⟨⟨gv, fault⟩, failed⟩ := Multiset.exists_mem_of_ne_zero failures
    exact ⟨_, .failure failed⟩

/-- With at least one worker, and answers to all requests, something can happen until the pass has
taken its last look. -/
theorem exists_step (staffed : 1 ≤ workers) (answered : ∀ gv, ∃ result, gives gv result)
    (unsettled : shift.verdict = none) : ∃ next, Step gives workers shift next := by
  have taken : ∀ {scans : Multiset GroupVersion}, scans ≠ 0 → ∃ gv rest, scans = gv ::ₘ rest := by
    intro scans some
    obtain ⟨gv, member⟩ := Multiset.exists_mem_of_ne_zero some
    exact ⟨gv, Multiset.exists_cons_of_mem member⟩
  -- The scan that has come furthest goes on; with none under way, one that is queued is taken.
  by_cases running : shift.running = 0
  · by_cases cleared : shift.cleared = 0
    · by_cases heeded : shift.heeded = 0
      · have idle : shift.busy = 0 := by simp [busy, running, cleared, heeded]
        by_cases queued : shift.queued = 0
        · obtain ⟨result, handsOut⟩ := shift.exists_handsOut
          exact ⟨_, .settle ⟨queued, idle⟩ unsettled handsOut⟩
        · obtain ⟨gv, rest, queued⟩ := taken queued
          have room := room_of_idle staffed idle
          cases stopped : shift.stopped with
          | true => exact ⟨_, .cancel stopped room queued⟩
          | false => exact ⟨_, .heed stopped room queued⟩
      · obtain ⟨gv, rest, heeded⟩ := taken heeded
        cases aborted : shift.aborted with
        | true => exact ⟨_, .drop aborted heeded⟩
        | false => exact ⟨_, .clear aborted heeded⟩
    · obtain ⟨gv, rest, cleared⟩ := taken cleared
      exact ⟨_, .request cleared⟩
  · obtain ⟨gv, rest, running⟩ := taken running
    obtain ⟨result, given⟩ := answered gv
    cases result with
    | ok resources => exact ⟨_, .merge running given⟩
    | error fault => exact ⟨_, .fail running given⟩

/-- Whatever has happened so far, the pass comes to take its last look. -/
theorem exists_settled (staffed : 1 ≤ workers) (answered : ∀ gv, ∃ result, gives gv result)
    (shift : Shift) : ∃ next, Run gives workers shift next ∧ next.verdict ≠ none := by
  induction left : shift.remaining using Nat.strong_induction_on generalizing shift with
  | _ left ih =>
    by_cases unsettled : shift.verdict = none
    · obtain ⟨mid, step⟩ : ∃ mid, Step gives workers shift mid :=
        exists_step staffed answered unsettled
      obtain ⟨next, run, settled⟩ := ih mid.remaining (left ▸ step.remaining_lt) mid rfl
      exact ⟨next, .head step run, settled⟩
    · exact ⟨shift, .refl, unsettled⟩

/-! ## The signal is set -/

/-- How a pass goes on in whose schedule the signal is set. No more is requested than was or had
been looked for, and what had been looked for holds its worker beside what is under way. Unless the
pass has taken its last look already, what it hands out in the end is the failure of a scan or that
a stop was seen. It comes to that, and each step brings it nearer. -/
structure Winds (gives : MayGive) (workers : Nat) (shift : Shift) : Prop where
  requests : ∀ later, Run gives workers shift later →
    later.requested ≤ shift.requested + (shift.heeded + shift.cleared)
  few : (shift.heeded + shift.cleared).card + shift.running.card ≤ workers
  fails : shift.verdict = none → ∀ later, Run gives workers shift later →
    ∀ result, later.verdict = some result → ∃ fault, result = .error fault ∧
      ((∃ gv, (gv, fault) ∈ later.failures) ∨ fault = Fault.stopDuringCollection)
  ends : ∃ later, Run gives workers shift later ∧ later.verdict ≠ none
  nearer : ∀ mid later, Run gives workers shift mid → Step gives workers mid later →
    later.remaining < mid.remaining

/-- On every schedule a pass winds down once the signal is set. -/
theorem Run.winds {listed : List GroupVersion} {stopped : Bool} (staffed : 1 ≤ workers)
    (answered : ∀ gv, ∃ result, gives gv result)
    (run : Run gives workers (start listed stopped) shift) (set : shift.stopped = true) :
    shift.Winds gives workers := by
  have sound : shift.Sound workers := (Sound.start listed stopped).run run
  refine
    { requests := fun later further => ?_
      few := ?_
      fails := fun unsettled later further result settled => ?_
      ends := exists_settled staffed answered shift
      nearer := fun mid later _ step => step.remaining_lt }
  · exact (Multiset.le_add_right ..).trans (Run.pledged_le further set).2
  · have busy := sound.staffed
    rwa [card_busy, ← Multiset.card_add] at busy
  · have fruitless : shift.Fruitless := ⟨set, fun s handed => by cases unsettled.symm.trans handed⟩
    cases result with
    | ok s => exact absurd settled ((Run.fruitless further fruitless).2 s)
    | error fault =>
      exact ⟨fault, rfl, ((sound.run further).failed fault settled).imp_right And.right⟩

/-- The pool in which scans that have looked once are still queued, and scans that have looked twice
are requested. -/
def pool (shift : Shift) : Pool :=
  { shift.toPool with
    queued := shift.queued + shift.heeded
    running := shift.cleared + shift.running
    requested := shift.cleared + shift.requested }

section Pool

variable {scans : Scans}

/-- A step of a pass that no stop reaches is a step of its pool, or nothing that shows there. -/
theorem Step.pool_run (sound : shift.Sound workers)
    (step : Step (fun gv result => scans gv = result) workers shift next)
    (unset : next.stopped = false) : Pool.Run scans workers shift.pool next.pool := by
  have unstopped : shift.stopped = false :=
    Bool.eq_false_iff.mpr fun set => Bool.eq_false_iff.mp unset (step.stopped set)
  have failed : shift.aborted = true → shift.failures ≠ 0 := fun aborted =>
    (sound.troubled aborted).resolve_right fun cancelled =>
      Bool.eq_false_iff.mp unstopped (sound.cancelled cancelled)
  -- A first look shows nothing: the scan is still queued there. The second one issues it, so the
  -- request shows nothing either.
  cases step with
  | heed _ _ queued =>
    simp only [pool, queued, Multiset.cons_add, Multiset.add_cons]
    exact .refl
  | cancel set => cases unstopped.symm.trans set
  | @clear gv rest going heeded =>
    have busy := sound.staffed
    rw [card_busy, heeded, Multiset.card_cons] at busy
    have room : (shift.cleared + shift.running).card < workers := by
      rw [Multiset.card_add]
      omega
    have untroubled : shift.failures = 0 :=
      by_contra fun failures => Bool.eq_false_iff.mp going (sound.aborted failures)
    have queued : shift.pool.queued = gv ::ₘ (shift.queued + rest) := by
      rw [pool, heeded, Multiset.add_cons]
    have issued : Pool.Step scans workers shift.pool _ := .issue untroubled room queued
    simpa only [pool, Multiset.cons_add] using Relation.ReflTransGen.single issued
  | @drop gv rest aborted heeded =>
    have queued : shift.pool.queued = gv ::ₘ (shift.queued + rest) := by
      rw [pool, heeded, Multiset.add_cons]
    exact .single (.drop (failed aborted) queued)
  | @withdraw gv rest aborted queued =>
    have queued : shift.pool.queued = gv ::ₘ (rest + shift.heeded) := by
      rw [pool, queued, Multiset.cons_add]
    exact .single (.drop (failed aborted) queued)
  | request cleared =>
    simp only [pool, cleared, Multiset.cons_add, Multiset.add_cons]
    exact .refl
  | @merge gv rest resources running scanned =>
    have running : shift.pool.running = gv ::ₘ (shift.cleared + rest) := by
      rw [pool, running, Multiset.add_cons]
    exact .single (.merge running scanned)
  | @fail gv rest fault running scanned =>
    have running : shift.pool.running = gv ::ₘ (shift.cleared + rest) := by
      rw [pool, running, Multiset.add_cons]
    exact .single (.fail running scanned)
  | abort => exact .refl
  | stop => cases unset
  | settle => exact .refl

/-- A schedule that no stop reaches is one of the pool. -/
theorem Run.pool_run (sound : shift.Sound workers)
    (run : Run (fun gv result => scans gv = result) workers shift next)
    (unset : next.stopped = false) : Pool.Run scans workers shift.pool next.pool := by
  induction run with
  | refl => exact .refl
  | tail before step ih =>
    have unsetBefore := Bool.eq_false_iff.mpr fun set =>
      Bool.eq_false_iff.mp unset (step.stopped set)
    exact (ih unsetBefore).trans (step.pool_run (sound.run before) unset)

/-- What a pass that no stop reaches requests and hands out is what it would without looking. -/
theorem Run.ends {listed : List GroupVersion} {result : Except Fault Snapshot}
    (run : Run (fun gv result => scans gv = result) workers (start listed false) shift)
    (unset : shift.stopped = false) (settled : shift.verdict = some result) :
    Pool.Ends scans workers listed shift.requested result := by
  have sound : shift.Sound workers := (Sound.start listed false).run run
  have began : (start listed false).pool = Pool.start listed := by simp [pool, start, Pool.start]
  have ran := Run.pool_run (Sound.start listed false) run unset
  rw [began] at ran
  obtain ⟨queued, busy⟩ := sound.done (by simp [settled])
  have idle := congrArg Multiset.card busy
  simp only [card_busy, Multiset.card_zero, Nat.add_eq_zero_iff, Multiset.card_eq_zero] at idle
  obtain ⟨⟨heeded, cleared⟩, running⟩ := idle
  refine ⟨shift.pool, ran, ⟨?_, ?_⟩, ?_, ?_⟩
  · simp [pool, queued, heeded]
  · simp [pool, cleared, running]
  · simp [pool, cleared]
  · cases result with
    | ok s =>
      obtain ⟨untroubled, rfl⟩ := sound.succeeded s settled
      exact .results (not_not.mp (not_or.mp untroubled).1)
    | error fault =>
      rcases sound.failed fault settled with ⟨gv, failed⟩ | ⟨set, _⟩
      · exact .failure failed
      · cases unset.symm.trans set

end Pool

end Shift

end ApiSurface
