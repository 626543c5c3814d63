import ApiSurface.Proofs.Discovery.Pool
import ApiSurface.Proofs.Scan.Tidy
import ApiSurface.Proofs.Tracker.Pass

/-!
# The order of a pass does not matter

Where the answer to a request depends on nothing but what is requested, a pass that scans
group-versions one after the other goes along one of the schedules of a pool of workers.
So all that holds of every schedule holds of it: in whatever order the group-versions are
scanned and merged, a pass succeeds exactly if every scan does, requests what is listed
once each, and hands out the same resources.
-/

namespace ApiSurface.Tracker

variable {τ : Type} {ctx : Context τ} {stop : Signal} {w : World τ}
  {assigned : Text → Except Fault Listing}

/-- The surroundings answer every request for resources with what is assigned to its key, and do
nothing else. -/
def Surroundings.Assigns (around : Surroundings τ) (assigned : Text → Except Fault Listing) :
    Prop :=
  ∀ key journal, around.resources key journal = { actions := [], outcome := assigned key }

/-- What scanning a group-version gives, if its key is assigned an answer. -/
def scansOf (assigned : Text → Except Fault Listing) : Scans := fun gv =>
  match assigned gv.key with
  | .error fault => .error fault
  | .ok listing =>
    match Scan.resources gv listing with
    | .ok resources => .ok resources
    | .error kind => .error (.misuse kind)

/-- The key that an entry says was asked for, if it says so. -/
def Entry.requested? : Entry τ → Option Text
  | requestedResources key => some key
  | _ => none

/-- The keys whose resources were asked for. -/
def requestsIn (journal : Journal τ) : List Text := journal.filterMap Entry.requested?

/-- What scans of tidy answers give is tidy. -/
theorem tidy_given_scansOf (tidy : ∀ key listing, assigned key = .ok listing → listing.Tidy)
    (gv : GroupVersion) : ∀ r ∈ (scansOf assigned).given gv, r.Tidy := by
  intro r member
  cases answer : assigned gv.key with
  | error fault => simp [Scans.given, scansOf, answer] at member
  | ok listing =>
    cases scanned : Scan.resources gv listing with
    | error kind => simp [Scans.given, scansOf, answer, scanned] at member
    | ok resources =>
      have given : r ∈ resources := by simpa [Scans.given, scansOf, answer, scanned] using member
      exact Scan.tidy_resources (tidy _ _ answer) scanned r given

/-- The world in which these entries were written. -/
def World.wrote (w : World τ) (news : Journal τ) : World τ :=
  { w with journal := news ++ w.journal }

namespace Pass

/-- A pass shows what went on in a pool in which nothing is under way. -/
structure Shows (pass : Pass) (pool : Pool) : Prop where
  idle : pool.running = 0
  results : pool.results = pass.results
  going : pass.failure = none ↔ pool.failures = 0
  failed : ∀ fault, pass.failure = some fault → ∃ gv, (gv, fault) ∈ pool.failures

/-- One request is answered as its key is assigned, and is all that is requested. -/
theorem request_apply (assigns : ctx.around.Assigns assigned) (gv : GroupVersion) (w : World τ) :
    ∃ news, requestsIn news = [gv.key] ∧
      request ctx gv w = (scansOf assigned gv, w.wrote news) := by
  have asked : ctx.ask (.requestedResources gv.key) (ctx.around.resources gv.key) w =
      (assigned gv.key, w.wrote [.requestedResources gv.key]) := by
    rw [Context.ask_apply, assigns]
    rfl
  rw [request, scansOf]
  cases answer : assigned gv.key with
  | error fault =>
    rw [answer] at asked
    exact ⟨_, rfl, Op.bind_of_error asked⟩
  | ok listing =>
    rw [answer] at asked
    refine ⟨[.answeredResources gv listing, .requestedResources gv.key], rfl, ?_⟩
    rw [Op.bind_of_ok asked, Op.bind_of_ok (Op.record_apply ..)]
    cases scanned : Scan.resources gv listing with
    | ok resources =>
      simp only [scanned]
      rfl
    | error kind =>
      simp only [scanned]
      rfl

/-- One scan of a pass is what happens next in a pool that the pass shows. -/
theorem scan_shows {workers : Nat} (staffed : 1 ≤ workers) (assigns : ctx.around.Assigns assigned)
    (unset : w.isSet stop = false) {pass : Pass} {pool : Pool} (shows : pass.Shows pool)
    {gv : GroupVersion} {rest : Multiset GroupVersion} (queued : pool.queued = gv ::ₘ rest) :
    ∃ next news pool', scan ctx stop pass gv w = (.ok next, w.wrote news) ∧
      Pool.Run (scansOf assigned) workers pool pool' ∧ next.Shows pool' ∧ pool'.queued = rest ∧
      pool'.requested.map GroupVersion.key =
        requestsIn news + pool.requested.map GroupVersion.key := by
  rw [scan, Op.bind_of_ok (Context.stopSet_apply stop w), unset, if_neg Bool.false_ne_true]
  cases failure : pass.failure with
  | some fault =>
    -- A scan that finds the pass failed is dropped.
    have failed : pool.failures ≠ 0 := fun none => by simp [shows.going.mpr none] at failure
    refine ⟨pass, [], _, rfl, .single (.drop failed queued), ?_, rfl, ?_⟩
    · exact ⟨shows.idle, shows.results, shows.going, shows.failed⟩
    · simp [requestsIn]
  | none =>
    have going : pool.failures = 0 := shows.going.mp failure
    obtain ⟨news, requests, requested⟩ := request_apply assigns gv w
    rw [Option.isSome_none, if_neg Bool.false_ne_true, attemptScan, Op.bind_apply,
      Op.attempt_apply, requested]
    cases scanned : scansOf assigned gv with
    | ok resources =>
      refine ⟨pass.add gv.key resources, news, _, rfl,
        .scanned staffed shows.idle going queued scanned, ?_, rfl, ?_⟩
      · refine ⟨shows.idle, ?_, shows.going, shows.failed⟩
        exact congrArg (Snapshot.add · gv.key resources) shows.results
      · rw [requests, Multiset.map_cons]
        rfl
    | error fault =>
      refine ⟨pass.fail fault,
        .logged ⟨.error, "Failed to discover API resources for " ++ gv.key⟩ ::
          .counted .scanErrors :: news, _, rfl,
        .failed staffed shows.idle going queued scanned, ?_, rfl, ?_⟩
      · refine ⟨shows.idle, shows.results, ?_, fun other same => ⟨gv, ?_⟩⟩
        · simp [Pass.fail]
        · have isFirst : fault = other := by simpa [Pass.fail, failure] using same
          simp [isFirst]
      · change _ = (requestsIn news : Multiset Text) + _
        rw [requests, Multiset.map_cons]
        rfl

/-- So are all scans of a pass, one after the other. -/
theorem scanAll_shows {workers : Nat} (staffed : 1 ≤ workers)
    (assigns : ctx.around.Assigns assigned) (groupVersions : List GroupVersion)
    (unset : w.isSet stop = false) {pass : Pass} {pool : Pool} (shows : pass.Shows pool)
    (queued : pool.queued = groupVersions) :
    ∃ last news final, scanAll ctx stop groupVersions pass w = (.ok last, w.wrote news) ∧
      Pool.Run (scansOf assigned) workers pool final ∧ last.Shows final ∧ final.queued = 0 ∧
      final.requested.map GroupVersion.key =
        requestsIn news + pool.requested.map GroupVersion.key := by
  induction groupVersions generalizing w pass pool with
  | nil => exact ⟨pass, [], pool, rfl, .refl, shows, queued, by simp [requestsIn]⟩
  | cons gv rest ih =>
    have first : pool.queued = gv ::ₘ (rest : Multiset GroupVersion) := queued
    obtain ⟨next, news, mid, scanned, run, showsNext, queuedNext, requested⟩ :=
      scan_shows staffed assigns unset shows first
    obtain ⟨last, later, final, scannedRest, runRest, showsLast, done, requestedRest⟩ :=
      ih (w := w.wrote news) unset showsNext queuedNext
    refine ⟨last, later ++ news, final, ?_, run.trans runRest, showsLast, done, ?_⟩
    · rw [scanAll, Op.bind_of_ok scanned, scannedRest]
      simp [World.wrote]
    · rw [requestedRest, requested, requestsIn, requestsIn, requestsIn, List.filterMap_append,
        ← Multiset.coe_add, add_assoc]

/-- A pass that no stop reaches writes which keys it requests, and ends on one of the schedules of a
pool. -/
theorem run_ends {workers : Nat} (staffed : 1 ≤ workers) (assigns : ctx.around.Assigns assigned)
    (unset : w.isSet stop = false) (listed : List GroupVersion) :
    ∃ news requested, (run ctx stop listed w).2 = w.wrote news ∧
      (requestsIn news : Multiset Text) = requested.map GroupVersion.key ∧
      Pool.Ends (scansOf assigned) workers listed requested (run ctx stop listed w).1 := by
  have showsStart : start.Shows (Pool.start listed) :=
    ⟨rfl, rfl, ⟨fun _ => rfl, fun _ => rfl⟩, nofun⟩
  obtain ⟨last, news, final, scanned, ran, shows, queued, requested⟩ :=
    scanAll_shows staffed assigns listed unset showsStart rfl
  have requests : (requestsIn news : Multiset Text) = final.requested.map GroupVersion.key := by
    rw [requested]
    exact (add_zero _).symm
  have done : final.Done := ⟨queued, shows.idle⟩
  have unsetStill : (w.wrote news).isSet stop = false := unset
  rw [run, Op.bind_of_ok scanned, finish]
  cases failure : last.failure with
  | some fault =>
    obtain ⟨gv, failed⟩ := shows.failed fault failure
    exact ⟨news, final.requested, rfl, requests, final, ran, done, rfl, .failure failed⟩
  | none =>
    dsimp only
    rw [Op.bind_of_ok (Context.stopSet_apply stop _), unsetStill, if_neg Bool.false_ne_true]
    refine ⟨news, final.requested, rfl, requests, final, ran, done, rfl, ?_⟩
    rw [← shows.results]
    exact .results (shows.going.mp failure)

/-- Whatever answers are assigned to the keys, a pass over listed group-versions that no stop
reaches goes along a schedule of a pool of workers, and no schedule gets stuck or goes on forever.
On each the pass succeeds exactly if every scan does. Then it has requested everything listed once,
holds exactly the keys listed and, under each, the scans of all group-versions with that key; and a
pass over the same in another order succeeds with a snapshot that is found equal either way round,
unless it holds something that cannot be compared. Otherwise nothing is handed out, and nothing was
requested more often than it is listed. -/
theorem order_irrelevant (tidy : ∀ key listing, assigned key = .ok listing → listing.Tidy)
    {workers : Nat} (staffed : 1 ≤ workers) {listed others : List GroupVersion}
    (perm : listed.Perm others) :
    let scans := scansOf assigned
    (∀ (ctx : Context τ) stop w, ctx.around.Assigns assigned → w.isSet stop = false →
      ∃ news requested, (run ctx stop listed w).2 = w.wrote news ∧
        (requestsIn news : Multiset Text) = requested.map GroupVersion.key ∧
        Pool.Ends scans workers listed requested (run ctx stop listed w).1) ∧
    (∀ pool, ∃ next, Pool.Run scans workers pool next ∧ next.Done) ∧
    (∀ pool next, Pool.Step scans workers pool next → next.remaining < pool.remaining) ∧
    ∀ requested result, Pool.Ends scans workers listed requested result →
      ((∃ s, result = .ok s) ↔ ∀ gv ∈ listed, ∃ resources, scans gv = .ok resources) ∧
      (∀ s, result = .ok s →
        requested = listed ∧ (∀ key, key ∈ s.keys ↔ ∃ gv ∈ listed, gv.key = key) ∧
        (∀ key, (s.resourcesAt key).Perm
          ((listed.filter fun gv => gv.key = key).flatMap scans.given)) ∧
        ∀ requested' result', Pool.Ends scans workers others requested' result' →
          ∃ t, result' = .ok t ∧
            s.equals t = (if s.isComparable then .ok true else .error .wrongType) ∧
            t.equals s = if s.isComparable then .ok true else .error .wrongType) ∧
      ∀ fault, result = .error fault →
        requested ≤ listed ∧ ∃ gv ∈ listed, scans gv = .error fault := by
  intro scans
  refine ⟨fun ctx stop w assigns unset => run_ends staffed assigns unset listed,
    fun pool => Pool.exists_done staffed pool, fun pool next step => step.remaining_lt, ?_⟩
  intro requested result ends
  refine ⟨ends.ok_iff, ?_, ?_⟩
  · rintro s rfl
    obtain ⟨once, succeeded, keys, resources⟩ := ends.of_ok
    refine ⟨once, keys, resources, fun requested' result' endsOther => ?_⟩
    obtain ⟨t, rfl⟩ := endsOther.ok_iff.mpr fun gv member => succeeded gv (perm.mem_iff.mpr member)
    have reordered : s.Reordered t := Pool.Ends.reordered perm ends endsOther
    have tidyHere : ∀ key, ∀ r ∈ s.resourcesAt key, r.Tidy := by
      intro key r member
      obtain ⟨gv, _, given⟩ := List.mem_flatMap.mp ((resources key).mem_iff.mp member)
      exact tidy_given_scansOf tidy gv r given
    have tidyThere : ∀ key, ∀ r ∈ t.resourcesAt key, r.Tidy := fun key r member =>
      tidyHere key r ((reordered.resources key).mem_iff.mpr member)
    refine ⟨t, rfl, reordered.equals_eq tidyHere, ?_⟩
    rw [reordered.symm.equals_eq tidyThere, reordered.isComparable_eq]
  · rintro fault rfl
    obtain ⟨within, gv, inRequested, scanned⟩ := ends.of_error
    exact ⟨within, gv, Multiset.mem_of_le within inRequested, scanned⟩

/-- Two of three group-versions have the same key, and one name is listed under it twice. Scanned in
another order they give snapshots that are found equal. -/
theorem order_irrelevant_same_key :
    let core : GroupVersion := ⟨"", "v1"⟩
    let apps : GroupVersion := ⟨"apps", "v1"⟩
    let slashed : GroupVersion := ⟨"", "apps/v1"⟩
    let assigned (key : Text) : Except Fault Listing :=
      .ok (if key = core.key then some [.ofTexts "pods" true "Pod" ["get"]]
        else some [.ofTexts "scales" true "Scale" ["get"], .ofTexts "scales" true "" []])
    let around : Surroundings Rat := .steady (.ok []) assigned (.ok [])
    let ctx : Context Rat := .nested around none 0
    let w := World.fresh .exact 0
    apps.key = slashed.key ∧
      ∃ s t, (run ctx 0 [core, apps, slashed] w).1 = .ok s ∧
        (run ctx 0 [slashed, core, apps] w).1 = .ok t ∧ s.keys ≠ t.keys ∧
        (s.resourcesAt slashed.key).length = 8 ∧ s.equals t = .ok true ∧ t.equals s = .ok true := by
  intro core apps slashed assigned around ctx w
  have tidy : ∀ key listing, assigned key = .ok listing → listing.Tidy := by
    intro key listing answer found member
    cases answer
    split at member
    · cases List.mem_singleton.mp member
      exact Scan.tidy_ofTexts ..
    · rcases List.mem_pair.mp member with rfl | rfl <;> exact Scan.tidy_ofTexts ..
  have assigns : ctx.around.Assigns assigned := fun _ _ => rfl
  have perm : [core, apps, slashed].Perm [slashed, core, apps] :=
    (List.perm_append_comm : ([core, apps] ++ [slashed]).Perm ([slashed] ++ [core, apps]))
  obtain ⟨s, t, first, second, keys, length, comparable⟩ : ∃ s t,
      (run ctx 0 [core, apps, slashed] w).1 = .ok s ∧
        (run ctx 0 [slashed, core, apps] w).1 = .ok t ∧ s.keys ≠ t.keys ∧
        (s.resourcesAt slashed.key).length = 8 ∧ s.isComparable = true :=
    ⟨_, _, rfl, rfl, by decide, rfl, rfl⟩
  obtain ⟨goes, _, _, settled⟩ := order_irrelevant (τ := Rat) tidy (le_refl 1) perm
  obtain ⟨goesOther, _⟩ := order_irrelevant (τ := Rat) tidy (le_refl 1) perm.symm
  obtain ⟨_, requested, _, _, ends⟩ := goes ctx 0 w assigns rfl
  obtain ⟨_, requested', _, _, endsOther⟩ := goesOther ctx 0 w assigns rfl
  rw [first] at ends
  rw [second] at endsOther
  obtain ⟨_, succeeds, _⟩ := settled requested _ ends
  obtain ⟨_, _, _, same⟩ := succeeds s rfl
  obtain ⟨_, isOther, equal, equalBack⟩ := same requested' _ endsOther
  cases isOther
  rw [comparable] at equal equalBack
  exact ⟨rfl, s, t, first, second, keys, length, equal, equalBack⟩

/-- A kind that is a list keeps the snapshots of two orders from being found equal. -/
theorem reordered_incomparable :
    ¬ ∀ {assigned : Text → Except Fault Listing} {listed others : List GroupVersion}
        {ctx : Context Rat} {stop : Signal} {w : World Rat} {s t : Snapshot},
      ctx.around.Assigns assigned → w.isSet stop = false → listed.Perm others →
        (run ctx stop listed w).1 = .ok s → (run ctx stop others w).1 = .ok t →
          s.equals t = .ok true := by
  intro equal
  let core : GroupVersion := ⟨"", "v1"⟩
  let apps : GroupVersion := ⟨"apps", "v1"⟩
  let odd : ApiSurface.Discovered :=
    { name := .text "pods", namespaced := .bool true, kind := .list [.text "Pod"],
      verbs := .list [.text "get"] }
  let assigned (key : Text) : Except Fault Listing :=
    .ok (if key = core.key then some [odd] else none)
  let ctx : Context Rat := .nested (.steady (.ok []) assigned (.ok [])) none 0
  let w := World.fresh .exact 0
  obtain ⟨s, t, first, second, failed⟩ : ∃ s t, (run ctx 0 [core, apps] w).1 = .ok s ∧
      (run ctx 0 [apps, core] w).1 = .ok t ∧ s.equals t = .error .wrongType :=
    ⟨_, _, rfl, rfl, rfl⟩
  have assigns : ctx.around.Assigns assigned := fun _ _ => rfl
  have found := equal assigns rfl (.swap apps core []) first second
  rw [failed] at found
  cases found

end Pass

end ApiSurface.Tracker
