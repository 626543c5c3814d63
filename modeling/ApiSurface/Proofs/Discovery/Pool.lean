import Mathlib.Data.Multiset.Bind
import Mathlib.Data.Multiset.Filter
import Mathlib.Logic.Relation
import ApiSurface.Fault
import ApiSurface.Proofs.Snapshot.Merge
import ApiSurface.Proofs.Snapshot.Reordering

/-!
# Scanning with a pool of workers

The scans of a discovery pass may be shared out among workers. A worker takes any scan
that is queued, requests its resources and, some time later, merges what it was given or
fails; once a scan has failed, scans that are still queued end without a request. A step
relation says what may happen next, in every order and with every overlap of the scans
under way.

No scan is lost on any schedule: whatever was listed is queued, under way, merged, failed
or dropped. So a pass hands out a snapshot exactly if every scan succeeds, and then up to
order always the same one. Every schedule ends.

No stop reaches these passes; `Shift` adds the stop signal.
-/

namespace ApiSurface

/-- A discovery pass that is under way in a pool of workers. -/
structure Pool where
  /-- Scans that were not begun. -/
  queued : Multiset GroupVersion
  /-- Scans that were requested and have not ended. -/
  running : Multiset GroupVersion
  /-- Everything that was requested so far. -/
  requested : Multiset GroupVersion
  merged : Multiset GroupVersion
  failures : Multiset (GroupVersion × Fault)
  /-- Scans that ended without a request. -/
  dropped : Multiset GroupVersion
  results : Snapshot

/-- What scanning each group-version gives, whenever it is scanned. -/
abbrev Scans := GroupVersion → Except Fault (List Resource)

namespace Scans

/-- The resources that a scan gives, none if it fails. -/
def given (scans : Scans) (gv : GroupVersion) : List Resource :=
  match scans gv with
  | .ok resources => resources
  | .error _ => []

/-- What scans give under a key, all together. -/
def together (scans : Scans) (key : Text) (groupVersions : Multiset GroupVersion) :
    Multiset Resource :=
  (groupVersions.filter fun gv => gv.key = key).bind fun gv => (scans.given gv : Multiset Resource)

variable {scans : Scans}

theorem together_cons (key : Text) (gv : GroupVersion) (groupVersions : Multiset GroupVersion) :
    scans.together key (gv ::ₘ groupVersions) =
      (if gv.key = key then (scans.given gv : Multiset Resource) else 0) +
        scans.together key groupVersions := by
  by_cases same : gv.key = key
  · simp [together, same]
  · simp [together, same]

/-- Of a list, what scans give together are their results one after the other. -/
theorem together_coe (key : Text) (groupVersions : List GroupVersion) :
    scans.together key groupVersions =
      ((groupVersions.filter fun gv => gv.key = key).flatMap scans.given : List Resource) := by
  rw [together, Multiset.filter_coe, Multiset.coe_bind]

end Scans

namespace Pool

/-- A pass that has not begun. -/
def start (listed : List GroupVersion) : Pool where
  queued := listed
  running := 0
  requested := 0
  merged := 0
  failures := 0
  dropped := 0
  results := Snapshot.empty

/-- What may happen next in a pool of a number of workers. -/
inductive Step (scans : Scans) (workers : Nat) : Pool → Pool → Prop where
  | issue {pool : Pool} {gv : GroupVersion} {rest : Multiset GroupVersion}
      (going : pool.failures = 0) (room : pool.running.card < workers)
      (queued : pool.queued = gv ::ₘ rest) :
      Step scans workers pool
        { pool with
            queued := rest
            running := gv ::ₘ pool.running
            requested := gv ::ₘ pool.requested }
  | drop {pool : Pool} {gv : GroupVersion} {rest : Multiset GroupVersion}
      (failed : pool.failures ≠ 0) (queued : pool.queued = gv ::ₘ rest) :
      Step scans workers pool { pool with queued := rest, dropped := gv ::ₘ pool.dropped }
  | merge {pool : Pool} {gv : GroupVersion} {rest : Multiset GroupVersion}
      {resources : List Resource} (running : pool.running = gv ::ₘ rest)
      (scanned : scans gv = .ok resources) :
      Step scans workers pool
        { pool with
            running := rest
            merged := gv ::ₘ pool.merged
            results := pool.results.add gv.key resources }
  | fail {pool : Pool} {gv : GroupVersion} {rest : Multiset GroupVersion} {fault : Fault}
      (running : pool.running = gv ::ₘ rest) (scanned : scans gv = .error fault) :
      Step scans workers pool
        { pool with running := rest, failures := (gv, fault) ::ₘ pool.failures }

/-- One pool comes of another in any number of steps. -/
abbrev Run (scans : Scans) (workers : Nat) : Pool → Pool → Prop :=
  Relation.ReflTransGen (Step scans workers)

/-- No scan is queued or under way any more. -/
def Done (pool : Pool) : Prop := pool.queued = 0 ∧ pool.running = 0

/-- What a pass hands out when all scans have ended: one of its failures, or what was put
together. -/
inductive HandsOut (pool : Pool) : Except Fault Snapshot → Prop where
  | results (none : pool.failures = 0) : HandsOut pool (.ok pool.results)
  | failure {gv : GroupVersion} {fault : Fault} (failed : (gv, fault) ∈ pool.failures) :
      HandsOut pool (.error fault)

/-- What a pass over listed group-versions may have requested and may hand out in the end. -/
def Ends (scans : Scans) (workers : Nat) (listed : List GroupVersion)
    (requested : Multiset GroupVersion) (result : Except Fault Snapshot) : Prop :=
  ∃ pool, Run scans workers (start listed) pool ∧ pool.Done ∧ pool.requested = requested ∧
    pool.HandsOut result

variable {scans : Scans} {workers : Nat} {pool next : Pool}

/-! ## One scan at a time -/

section OneByOne

variable {gv : GroupVersion} {rest : Multiset GroupVersion}
variable (staffed : 1 ≤ workers) (idle : pool.running = 0) (going : pool.failures = 0)
  (queued : pool.queued = gv ::ₘ rest)
include staffed idle going queued

/-- A worker of an idle pool may request the resources of any scan that is queued. -/
theorem Step.issue_of_idle :
    Step scans workers pool
      { pool with
          queued := rest
          running := gv ::ₘ pool.running
          requested := gv ::ₘ pool.requested } := by
  apply Step.issue going _ queued
  rw [idle, Multiset.card_zero]
  omega

/-- A scan that is queued may be requested and merged before any other is. -/
theorem Run.scanned {resources : List Resource} (succeeds : scans gv = .ok resources) :
    Run scans workers pool
      { pool with
          queued := rest
          requested := gv ::ₘ pool.requested
          merged := gv ::ₘ pool.merged
          results := pool.results.add gv.key resources } :=
  .head (.issue_of_idle staffed idle going queued) (.single (.merge rfl succeeds))

/-- A scan that is queued may be requested and fail before any other is requested. -/
theorem Run.failed {fault : Fault} (fails : scans gv = .error fault) :
    Run scans workers pool
      { pool with
          queued := rest
          requested := gv ::ₘ pool.requested
          failures := (gv, fault) ::ₘ pool.failures } :=
  .head (.issue_of_idle staffed idle going queued) (.single (.fail rfl fails))

end OneByOne

/-! ## Nothing is lost -/

/-- The scans that failed. -/
def failed (pool : Pool) : Multiset GroupVersion := pool.failures.map Prod.fst

/-- Everything listed is accounted for, and the results are those of the scans merged. -/
structure Sound (scans : Scans) (listed : Multiset GroupVersion) (pool : Pool) : Prop where
  listed : pool.queued + pool.dropped + pool.requested = listed
  requested : pool.running + pool.merged + pool.failed = pool.requested
  merged : ∀ gv ∈ pool.merged, ∃ resources, scans gv = .ok resources
  failures : ∀ failure ∈ pool.failures, scans failure.1 = .error failure.2
  dropped : pool.failures = 0 → pool.dropped = 0
  keys : ∀ key, key ∈ pool.results.keys ↔ ∃ gv ∈ pool.merged, gv.key = key
  resources : ∀ key, (pool.results.resourcesAt key : Multiset Resource) =
    scans.together key pool.merged

theorem Sound.start (listed : List GroupVersion) : Sound scans listed (start listed) where
  listed := by simp [Pool.start]
  requested := rfl
  merged := nofun
  failures := nofun
  dropped _ := rfl
  keys _ := by simp [Pool.start, Snapshot.keys, Snapshot.empty]
  resources _ := rfl

/-- Every step keeps a sound pool sound. -/
theorem Sound.step {listed : Multiset GroupVersion} (sound : Sound scans listed pool)
    (step : Step scans workers pool next) : Sound scans listed next := by
  have accounted := sound.listed
  have requested := sound.requested
  cases step with
  | @issue gv rest going room queued =>
    rw [queued] at accounted
    refine { sound with listed := ?_, requested := ?_ }
    · rw [← accounted]
      simp only [Multiset.cons_add, Multiset.add_cons]
    · change gv ::ₘ pool.running + pool.merged + pool.failed = gv ::ₘ pool.requested
      rw [← requested]
      simp only [Multiset.cons_add]
  | @drop gv rest failed queued =>
    rw [queued] at accounted
    refine { sound with listed := ?_, dropped := fun none => absurd none failed }
    rw [← accounted]
    simp only [Multiset.cons_add, Multiset.add_cons]
  | @merge gv rest resources running scanned =>
    have given : scans.given gv = resources := by rw [Scans.given, scanned]
    rw [running] at requested
    refine { sound with requested := ?_, merged := ?_, keys := fun key => ?_, resources := ?_ }
    · change rest + gv ::ₘ pool.merged + pool.failed = pool.requested
      rw [← requested]
      simp only [Multiset.cons_add, Multiset.add_cons]
    · intro other member
      rcases Multiset.mem_cons.mp member with rfl | before
      · exact ⟨resources, scanned⟩
      · exact sound.merged other before
    · rw [Snapshot.mem_keys_add, sound.keys]
      constructor
      · rintro (⟨other, before, same⟩ | rfl)
        · exact ⟨other, Multiset.mem_cons_of_mem before, same⟩
        · exact ⟨gv, Multiset.mem_cons_self .., rfl⟩
      · rintro ⟨other, member, same⟩
        rcases Multiset.mem_cons.mp member with rfl | before
        · exact .inr same.symm
        · exact .inl ⟨other, before, same⟩
    · intro key
      rw [Snapshot.resourcesAt_add, Scans.together_cons, given, ← sound.resources key]
      by_cases same : key = gv.key
      · rw [if_pos same, if_pos same.symm, same, ← Multiset.coe_add, add_comm]
      · rw [if_neg same, if_neg (Ne.symm same), zero_add]
  | @fail gv rest fault running scanned =>
    rw [running] at requested
    refine { sound with requested := ?_, failures := ?_, dropped := fun none => ?_ }
    · change rest + pool.merged + Multiset.map Prod.fst ((gv, fault) ::ₘ pool.failures) =
        pool.requested
      rw [Multiset.map_cons, ← requested, Multiset.add_cons, Multiset.cons_add, Multiset.cons_add]
      rfl
    · intro failure member
      rcases Multiset.mem_cons.mp member with rfl | before
      · exact scanned
      · exact sound.failures failure before
    · exact absurd none (Multiset.cons_ne_zero)

/-- So does every run. -/
theorem Sound.run {listed : Multiset GroupVersion} (sound : Sound scans listed pool)
    (run : Run scans workers pool next) : Sound scans listed next := by
  induction run with
  | refl => exact sound
  | tail _ step ih => exact ih.step step

/-! ## How a pass ends -/

/-- Where nothing is queued or under way any more and nothing failed, everything listed was
requested and merged. -/
theorem Sound.merged_eq {listed : Multiset GroupVersion} (sound : Sound scans listed pool)
    (done : pool.Done) (none : pool.failures = 0) :
    pool.requested = listed ∧ pool.merged = listed := by
  have accounted := sound.listed
  have requested := sound.requested
  have failed : pool.failed = 0 := by rw [failed, none, Multiset.map_zero]
  rw [done.1, sound.dropped none, zero_add, zero_add] at accounted
  rw [done.2, failed, zero_add, add_zero] at requested
  exact ⟨accounted, requested.trans accounted⟩

namespace Ends

variable {listed : List GroupVersion} {requested : Multiset GroupVersion}
  {result : Except Fault Snapshot} {s : Snapshot} {fault : Fault}

/-- A snapshot that is handed out holds the scans of everything listed, each requested once. -/
theorem of_ok (ends : Ends scans workers listed requested (.ok s)) :
    requested = listed ∧ (∀ gv ∈ listed, ∃ resources, scans gv = .ok resources) ∧
      (∀ key, key ∈ s.keys ↔ ∃ gv ∈ listed, gv.key = key) ∧
      ∀ key, (s.resourcesAt key).Perm
        ((listed.filter fun gv => gv.key = key).flatMap scans.given) := by
  obtain ⟨pool, run, done, rfl, handsOut⟩ := ends
  have sound : Sound scans listed pool := (Sound.start listed).run run
  cases handsOut with
  | results none =>
    obtain ⟨requested, merged⟩ := sound.merged_eq done none
    have scanned := sound.merged
    have keys := sound.keys
    have resources := sound.resources
    rw [merged] at scanned keys resources
    refine ⟨requested, scanned, keys, fun key => ?_⟩
    rw [← Multiset.coe_eq_coe, resources, Scans.together_coe]

/-- A failure that a pass ends with is that of something listed which was requested, and nothing was
requested more often than it was listed. -/
theorem of_error (ends : Ends scans workers listed requested (.error fault)) :
    requested ≤ listed ∧ ∃ gv ∈ requested, scans gv = .error fault := by
  obtain ⟨pool, run, done, rfl, handsOut⟩ := ends
  have sound : Sound scans listed pool := (Sound.start listed).run run
  cases handsOut with
  | @failure gv fault failed =>
    refine ⟨?_, gv, ?_, sound.failures _ failed⟩
    · rw [← sound.listed]
      exact Multiset.le_add_left ..
    · rw [← sound.requested]
      exact Multiset.mem_add.mpr (.inr (Multiset.mem_map_of_mem Prod.fst failed))

/-- On every schedule a pass succeeds exactly if every scan does. -/
theorem ok_iff (ends : Ends scans workers listed requested result) :
    (∃ s, result = .ok s) ↔ ∀ gv ∈ listed, ∃ resources, scans gv = .ok resources := by
  cases result with
  | ok s => exact ⟨fun _ => ends.of_ok.2.1, fun _ => ⟨s, rfl⟩⟩
  | error fault =>
    obtain ⟨within, gv, inRequested, scanned⟩ := ends.of_error
    constructor
    · rintro ⟨s, succeeded⟩
      cases succeeded
    · intro all
      obtain ⟨resources, succeeded⟩ := all gv (Multiset.mem_of_le within inRequested)
      rw [scanned] at succeeded
      cases succeeded

/-- Snapshots handed out over the same group-versions in any order, on any schedules, are the same
up to order. -/
theorem reordered {others : List GroupVersion} {requested' : Multiset GroupVersion} {t : Snapshot}
    {workers' : Nat} (perm : listed.Perm others)
    (ends : Ends scans workers listed requested (.ok s))
    (endsOther : Ends scans workers' others requested' (.ok t)) : s.Reordered t := by
  obtain ⟨_, _, keys, resources⟩ := ends.of_ok
  obtain ⟨_, _, keysOther, resourcesOther⟩ := endsOther.of_ok
  constructor
  · intro key
    rw [keys, keysOther]
    exact exists_congr fun gv => and_congr_left' perm.mem_iff
  · intro key
    have members : (listed.filter fun gv => gv.key = key).Perm
        (others.filter fun gv => gv.key = key) := perm.filter _
    exact ((resources key).trans (members.flatMap_right _)).trans (resourcesOther key).symm

end Ends

/-! ## Every schedule ends -/

/-- How many steps are left at most. -/
def remaining (pool : Pool) : Nat := 2 * pool.queued.card + pool.running.card

theorem Step.remaining_lt (step : Step scans workers pool next) :
    next.remaining < pool.remaining := by
  cases step with
  | issue going room queued =>
    simp only [remaining, queued, Multiset.card_cons]
    omega
  | drop failed queued =>
    simp only [remaining, queued, Multiset.card_cons]
    omega
  | merge running scanned =>
    simp only [remaining, running, Multiset.card_cons]
    omega
  | fail running scanned =>
    simp only [remaining, running, Multiset.card_cons]
    omega

/-- With at least one worker something can happen until all scans have ended. -/
theorem exists_step (staffed : 1 ≤ workers) (unfinished : ¬ pool.Done) :
    ∃ next, Step scans workers pool next := by
  by_cases idle : pool.running = 0
  · have waiting : pool.queued ≠ 0 := fun none => unfinished ⟨none, idle⟩
    obtain ⟨gv, member⟩ := Multiset.exists_mem_of_ne_zero waiting
    obtain ⟨rest, queued⟩ := Multiset.exists_cons_of_mem member
    by_cases going : pool.failures = 0
    · have room : pool.running.card < workers := by
        rw [idle, Multiset.card_zero]
        omega
      exact ⟨_, .issue going room queued⟩
    · exact ⟨_, .drop going queued⟩
  · obtain ⟨gv, member⟩ := Multiset.exists_mem_of_ne_zero idle
    obtain ⟨rest, running⟩ := Multiset.exists_cons_of_mem member
    cases scanned : scans gv with
    | ok resources => exact ⟨_, .merge running scanned⟩
    | error fault => exact ⟨_, .fail running scanned⟩

/-- Whatever has happened so far, all scans will have ended. -/
theorem exists_done (staffed : 1 ≤ workers) (pool : Pool) :
    ∃ next, Run scans workers pool next ∧ next.Done := by
  induction left : pool.remaining using Nat.strong_induction_on generalizing pool with
  | _ left ih =>
    by_cases done : pool.Done
    · exact ⟨pool, .refl, done⟩
    · obtain ⟨mid, step⟩ : ∃ mid, Step scans workers pool mid := exists_step staffed done
      obtain ⟨next, run, done⟩ := ih mid.remaining (left ▸ step.remaining_lt) mid rfl
      exact ⟨next, .head step run, done⟩

end Pool

end ApiSurface
