import Mathlib.Tactic.Ring
import ApiSurface.Proofs.Tracker.Operations

/-!
# Rebuilds by their outcome

A rebuild posts its attempt and one count to the ledger: its outcome if it ends with one,
a failure if it does not. One ending is posted nowhere: a pass that was completed and
cannot be compared with the snapshot in place has neither an outcome nor is it counted as
a failure. So the counts add up to the attempts less the passes that are left undecided.
-/

namespace ApiSurface.Tracker

variable {τ : Type} {ctx : Context τ} {stop : Signal} {w mid after : World τ}
variable {result : Except Fault Outcome}

/-- The counter that a rebuild is to be counted under, by how it ended. -/
def Counter.ofResult : Except Fault Outcome → Counter
  | .ok outcome => .ofOutcome outcome
  | .error _ => .failed

namespace Ledger

/-- The ledger with one attempt more. -/
def attempted (ledger : Ledger) : Ledger := { ledger with attempts := ledger.attempts + 1 }

/-- The ledger in which an attempt was posted by how it ended. An attempt that was skipped
balances itself. -/
def posted (ledger : Ledger) (result : Except Fault Outcome) : Ledger :=
  { ledger with
    attempts := ledger.attempts + if Counter.ofResult result = .skipped then 0 else 1
    changed := ledger.changed + if Counter.ofResult result = .changed then 1 else 0
    unchanged := ledger.unchanged + if Counter.ofResult result = .unchanged then 1 else 0
    failed := ledger.failed + if Counter.ofResult result = .failed then 1 else 0 }

end Ledger

theorem ledgerOf_beganRebuild (journal : Journal τ) :
    ledgerOf (.beganRebuild :: journal) = (ledgerOf journal).attempted := by
  simp [ledgerOf, Ledger.attempted, countOf_cons, openingsIn_cons, attemptsIn_cons, Entry.isCount,
    Entry.isOpening, Entry.isAttempt, add_sub_right_comm]

/-- An attempt that was not skipped is posted once it is counted. -/
theorem ledgerOf_counted {journal earlier : Journal τ} (result : Except Fault Outcome)
    (unskipped : Counter.ofResult result ≠ .skipped)
    (attempted : ledgerOf journal = (ledgerOf earlier).attempted) :
    ledgerOf (.counted (.ofResult result) :: journal) = (ledgerOf earlier).posted result := by
  simp only [ledgerOf, Ledger.attempted, Ledger.mk.injEq] at attempted
  obtain ⟨attempts, changed, unchanged, failed, watchErrors, reconnects, openings⟩ := attempted
  have counts : ∀ counter, countOf counter (.counted (.ofResult result) :: journal) =
      countOf counter journal + if Counter.ofResult result = counter then 1 else 0 := by
    simp [countOf_cons, Entry.isCount]
  have booked : Counter.ofResult result ≠ .watchErrors ∧ Counter.ofResult result ≠ .reconnects := by
    rcases result with fault | (_ | _ | _) <;> simp [Counter.ofResult, Counter.ofOutcome]
  have unattempted : attemptsIn (.counted (.ofResult result) :: journal) = attemptsIn journal := rfl
  have unopened : openingsIn (.counted (.ofResult result) :: journal) = openingsIn journal := rfl
  rw [ledgerOf, Ledger.posted, if_neg unskipped, Ledger.mk.injEq]
  simp only [counts, unattempted, unopened, if_neg unskipped, if_neg booked.1, if_neg booked.2]
  exact ⟨attempts, congrArg (· + _) changed, congrArg (· + _) unchanged, congrArg (· + _) failed,
    watchErrors, reconnects, openings⟩

/-! ## One rebuild -/

/-- A rebuild that began in one world ended with a completed pass that it could not compare with
the snapshot in place. -/
def World.Undecided (w : World τ) (ended : Except Fault Outcome × World τ) : Prop :=
  ∃ collected kind earlier, collected.equals w.tracker.snapshot = .error kind ∧
    ended.1 = .error (.misuse kind) ∧ ended.2.journal = .completedPass collected :: earlier

/-- What happens from the beginning of a rebuild to the end of its pass posts its attempt. -/
theorem Held.attempted {β : Type} {view : History → β} (held : Held view w.begun mid) :
    ledgerOf mid.journal = (ledgerOf w.journal).attempted :=
  held.booked.trans (ledgerOf_beganRebuild _)

theorem Collected.attempted {around : Surroundings τ} {collected : Snapshot}
    (pass : Collected around collected w.begun mid) :
    ledgerOf (mid.completed collected).journal = (ledgerOf w.journal).attempted :=
  (ledgerOf_cons_of_unbooked rfl _).trans pass.held.attempted

/-- The number of completed passes that were given no outcome. -/
def undecidedIn (journal : Journal τ) : Nat :=
  (roundsOf journal).countP fun round => round.outcome.isNone

/-- What a rebuild came to in the ledger: its attempt was posted with how it ended, or it was left
undecided and its attempt was posted alone. -/
inductive World.Posts (w : World τ) (ended : Except Fault Outcome × World τ) : Prop where
  | undecided (undecided : w.Undecided ended)
      (ledger : ledgerOf ended.2.journal = (ledgerOf w.journal).attempted)
      (rounds : undecidedIn ended.2.journal = undecidedIn w.journal + 1)
  | decided (decided : ¬ w.Undecided ended)
      (ledger : ledgerOf ended.2.journal = (ledgerOf w.journal).posted ended.1)
      (rounds : undecidedIn ended.2.journal = undecidedIn w.journal)

/-- A rebuild that returns leaves no pass undecided. -/
theorem Rebuilt.undecidedIn_of_ok {outcome : Outcome}
    (rebuilt : Rebuilt ctx stop w (.ok outcome) after) :
    undecidedIn after.journal = undecidedIn w.journal := by
  obtain ⟨round, rounds, ended, _⟩ := rebuilt.rounds_of_ok
  rw [undecidedIn, rounds]
  exact List.countP_cons_of_neg (by simp [ended])

/-- A rebuild that finds the lock free posts what it came to. -/
theorem Rebuilt.posts (rebuilt : Rebuilt ctx stop w result after) : w.Posts (result, after) := by
  have returned : ∀ {outcome : Outcome}, ¬ w.Undecided (.ok outcome, after) := by
    rintro outcome ⟨_, _, _, _, fails, _⟩
    cases fails
  have rounds : ∀ {outcome}, result = .ok outcome →
      undecidedIn after.journal = undecidedIn w.journal := by
    rintro outcome rfl
    exact rebuilt.undecidedIn_of_ok
  cases rebuilt with
  | @failed fault mid held hindered =>
    have decided : ¬ w.Undecided (.error fault, mid.failed.released) := by
      rintro ⟨_, _, _, _, _, newest⟩
      cases newest
    have rounds : roundsOf mid.journal = roundsOf w.begun.journal := held.viewed
    exact .decided decided (ledgerOf_counted (.error fault) nofun held.attempted)
      (congrArg (List.countP _) rounds)
  | @undecided collected mid kind pass fails =>
    have rounds : roundsOf mid.journal = roundsOf w.begun.journal := pass.held.viewed
    refine .undecided ⟨collected, kind, _, fails, rfl, rfl⟩ pass.attempted ?_
    change (mid.history.current :: roundsOf mid.journal).countP _ = _
    rw [List.countP_cons_of_pos (by simp [pass.pending]), rounds]
    rfl
  | @unchanged collected mid pass equal =>
    refine .decided returned (ledgerOf_counted (.ok .unchanged) nofun ?_) (rounds rfl)
    exact (ledgerOf_cons_of_unbooked rfl _).trans pass.attempted
  | @changed collected mid pass different =>
    refine .decided returned (ledgerOf_counted (.ok .changed) nofun ?_) (rounds rfl)
    rw [ledgerOf_cons_of_unbooked rfl, ledgerOf_cons_of_unbooked rfl, pass.attempted]

/-- Every rebuild posts what it came to, whether it finds the lock free or taken. -/
theorem rebuild_posts (calm : ctx.IsCalm) (given : Option Signal) (w : World τ) :
    w.Posts (rebuild ctx given w) := by
  cases lock : w.tracker.rebuilding with
  | false => exact (rebuild_spec calm given lock).posts
  | true =>
    rw [rebuild_of_locked ctx given lock]
    refine .decided ?_ ((ledgerOf_skipped _).trans ?_) rfl
    · rintro ⟨_, _, _, _, fails, _⟩
      cases fails
    · simp [Ledger.posted, Counter.ofResult, Counter.ofOutcome]

/-- A ledger of a longer journal holds what was counted in between. -/
theorem ledgerOf_append (news journal : Journal τ) :
    ledgerOf (news ++ journal) =
      { attempts := (ledgerOf news).attempts + (ledgerOf journal).attempts
        changed := countOf .changed news + countOf .changed journal
        unchanged := countOf .unchanged news + countOf .unchanged journal
        failed := countOf .failed news + countOf .failed journal
        watchErrors := countOf .watchErrors news + countOf .watchErrors journal
        reconnects := countOf .reconnects news + countOf .reconnects journal
        openings := openingsIn news + openingsIn journal } := by
  simp only [ledgerOf, attemptsIn_append, countOf_append, openingsIn, List.countP_append]
  push_cast
  congr 1
  ring

/-- The counters of rebuilds that were not skipped. -/
def Counter.ofEnded : List Counter := [.changed, .unchanged, .failed]

/-- What was written while a rebuild lasted: attempts that were skipped, each of them counted, and
besides one count of how the rebuild ended, or none if it was left undecided. -/
structure CountedOnce (result : Except Fault Outcome) (undecided : Prop) (news : Journal τ) :
    Prop where
  skipped : countOf .skipped news + 1 =
    attemptsIn news + if Counter.ofResult result = .skipped then 1 else 0
  counted : ¬ undecided → ∀ counter ∈ Counter.ofEnded,
    countOf counter news = if Counter.ofResult result = counter then 1 else 0
  uncounted : undecided → ∀ counter ∈ Counter.ofEnded, countOf counter news = 0

theorem World.Posts.countedOnce {news : Journal τ} (posts : w.Posts (result, after))
    (journal : after.journal = news ++ w.journal) :
    CountedOnce result (w.Undecided (result, after)) news := by
  have each : ∀ {property : Counter → Prop}, property .changed → property .unchanged →
      property .failed → ∀ counter ∈ Counter.ofEnded, property counter := by
    intro property changed unchanged failed
    simp only [Counter.ofEnded, List.forall_mem_cons]
    exact ⟨changed, unchanged, failed, nofun⟩
  cases posts with
  | undecided undecided ledger _ =>
    obtain ⟨_, kind, _, _, rfl, _⟩ := id undecided
    rw [journal, ledgerOf_append] at ledger
    simp only [ledgerOf, Ledger.attempted, Ledger.mk.injEq] at ledger
    obtain ⟨attempts, changed, unchanged, failed, _⟩ := ledger
    refine ⟨?_, fun decided => absurd undecided decided, fun _ => ?_⟩
    · change _ = attemptsIn news + 0
      omega
    · exact each (by omega) (by omega) (by omega)
  | decided decided ledger _ =>
    rw [journal, ledgerOf_append] at ledger
    simp only [ledgerOf, Ledger.posted, Ledger.mk.injEq] at ledger
    obtain ⟨attempts, changed, unchanged, failed, _⟩ := ledger
    refine ⟨?_, fun _ => each (by omega) (by omega) (by omega), fun undecided =>
      absurd undecided decided⟩
    by_cases skipped : Counter.ofResult result = .skipped
    · simp only [skipped, if_true] at attempts ⊢
      omega
    · simp only [skipped, if_false] at attempts ⊢
      omega

/-! ## Runs -/

/-- What the attempts are ahead of their counts and of the passes left undecided. -/
def tallyOf (journal : Journal τ) : Int :=
  (ledgerOf journal).attempts - (ledgerOf journal).changed - (ledgerOf journal).unchanged -
    (ledgerOf journal).failed - undecidedIn journal

/-- Between these worlds attempts were counted, or left undecided, one by one. -/
def Evens (w w' : World τ) : Prop := tallyOf w'.journal = tallyOf w.journal

/-- A rebuild is counted once or left undecided. -/
theorem World.Posts.evens {ended : Except Fault Outcome × World τ} (posts : w.Posts ended) :
    Evens w ended.2 := by
  cases posts with
  | undecided _ ledger rounds =>
    rw [Evens, tallyOf, ledger, rounds, tallyOf, Ledger.attempted]
    push_cast
    ring
  | decided _ ledger rounds =>
    rw [Evens, tallyOf, ledger, rounds, tallyOf, Ledger.posted]
    cases ended.1 with
    | error fault =>
      simp [Counter.ofResult]
      ring
    | ok outcome =>
      cases outcome <;>
        · simp [Counter.ofResult, Counter.ofOutcome]
          try ring

/-- Whether an entry is an attempt to rebuild or a count of how one ended. -/
def Entry.isTallied (entry : Entry τ) : Bool :=
  entry.isAttempt || [Counter.changed, .unchanged, .skipped, .failed].any entry.isCount

/-- The tally stands still where nothing is attempted and nothing counted. -/
theorem tallyOf_cons {entry : Entry τ} {journal : Journal τ} (untallied : entry.isTallied = false)
    (rounds : roundsOf (entry :: journal) = roundsOf journal) :
    tallyOf (entry :: journal) = tallyOf journal := by
  simp only [Entry.isTallied, List.any_cons, List.any_nil, Bool.or_eq_false_iff] at untallied
  obtain ⟨unattempted, changed, unchanged, skipped, failed, _⟩ := untallied
  simp [tallyOf, ledgerOf, undecidedIn, rounds, attemptsIn_cons, countOf_cons, unattempted, changed,
    unchanged, skipped, failed]

instance : Heedless (Evens : World τ → World τ → Prop) where
  refl _ := rfl
  trans _ _ _ first second := Eq.trans second first
  ofCalm {w w'} calm := by
    have rounds : roundsOf w'.journal = roundsOf w.journal := congrArg History.rounds calm.viewed
    rw [Evens, tallyOf, calm.booked, undecidedIn, rounds]
    rfl
  ofNotice {entry w} notice := by
    obtain rfl | ⟨name, rfl⟩ | ⟨place, rfl⟩ | rfl := Entry.isNotice_cases notice
    all_goals exact tallyOf_cons rfl rfl

instance : Following (Evens : World τ → World τ → Prop) where
  ofReplayed _ := tallyOf_cons rfl rfl
  ofLearned _ := tallyOf_cons rfl rfl
  ofTuned _ := rfl
  ofSignal := rfl
  ofRegistered _ := tallyOf_cons rfl rfl
  ofRelisted _ := (tallyOf_cons rfl rfl).trans (tallyOf_cons rfl rfl)
  ofOpened {w} := by
    refine (tallyOf_cons rfl rfl).trans ?_
    unfold World.streamCounted
    dsimp only
    split
    · exact tallyOf_cons rfl rfl
    · rfl
  ofStreamFailed := tallyOf_cons rfl rfl

variable [Scalar τ]

/-- At every depth of nesting, attempts made by calls back are counted or left undecided. -/
theorem Context.nested_evens (around : Surroundings τ) (outer : Option Signal) (depth : Nat) :
    (Context.nested around outer depth).Lawful Evens :=
  nested_lawful_of_rebuild around outer
    (fun depth given w => (rebuild_posts (nested_locked_calm around outer depth) given w).evens)
    depth

/-- In every world that a run comes to, the counts of changed, unchanged, skipped and failed
rebuilds add up to the attempts less the passes that are left undecided; and whenever a rebuild is
asked for, one of the counts grows by one, the one of how the rebuild ended, unless its pass is left
undecided, and then none grows. Of the attempts that calls back make meanwhile each is skipped and
counted so. -/
theorem Reachable.rebuilds_counted {settings : Settings τ} (reachable : Reachable settings w) :
    countOf .changed w.journal + countOf .unchanged w.journal + countOf .skipped w.journal +
        countOf .failed w.journal + undecidedIn w.journal = attemptsIn w.journal ∧
    ∀ (around : Surroundings τ) outer depth given (start : World τ),
      let ended := rebuild (Context.nested around outer depth) given start
      ∃ news, ended.2.journal = news ++ start.journal ∧
        CountedOnce ended.1 (start.Undecided ended) news := by
  refine ⟨?_, fun around outer depth given start => ?_⟩
  · obtain ⟨clock, evens⟩ := reachable.follows Context.nested_evens
    have tally : tallyOf w.journal = 0 := evens
    simp only [tallyOf, ledgerOf] at tally
    omega
  · have calm := Context.nested_locked_calm around outer depth
    obtain ⟨news, journal⟩ := (rebuild_quiet calm given start).journal
    exact ⟨news, journal.symm, (rebuild_posts calm given start).countedOnce journal.symm⟩

/-- After a rebuild that was refused, and counted as failed, one in healthy surroundings is counted
as changed and nothing else. -/
theorem rebuilds_counted_after_refusal :
    let core : GroupVersion := ⟨"", "v1"⟩
    let listing : Listing := some [.ofTexts "pods" true "Pod" ["get", "list"]]
    let refused : Request Rat :=
      { around := .steady (.error (.refused (.int 503) .null)) (fun _ => .ok listing) (.ok [])
        given := none, depth := 1, operation := .rebuild }
    let around : Surroundings Rat := .steady (.ok [core]) (fun _ => .ok listing) (.ok [])
    let w := (World.fresh .exact 0).after [refused]
    let ended := rebuild (Context.nested around none 1) none w
    Reachable .exact w ∧ attemptsIn w.journal = 1 ∧ countOf .failed w.journal = 1 ∧
      countOf .changed w.journal + countOf .unchanged w.journal + countOf .skipped w.journal +
        countOf .failed w.journal + undecidedIn w.journal = attemptsIn w.journal ∧
      ended.1 = .ok .changed ∧
        ∃ news, ended.2.journal = news ++ w.journal ∧
          CountedOnce ended.1 (w.Undecided ended) news := by
  intro core listing refused around w ended
  have reachable : Reachable .exact w := .performed (.fresh (by decide) (by decide) 0) refused
  obtain ⟨balance, counted⟩ := Reachable.rebuilds_counted reachable
  exact ⟨reachable, rfl, rfl, balance, rfl, counted around none 1 none w⟩

/-- After a listing whose one resource has a list for its kind, another rebuild completes its pass
and raises, and no outcome is counted for it. -/
theorem rebuild_uncounted :
    let core : GroupVersion := ⟨"", "v1"⟩
    let listing : Listing :=
      some [{ name := .text "pods", namespaced := .bool true, kind := .list [.text "Pod"],
              verbs := .list [.text "get"] }]
    let around : Surroundings Rat := .steady (.ok [core]) (fun _ => .ok listing) (.ok [])
    let first : Request Rat := { around, given := none, depth := 1, operation := .rebuild }
    let w := (World.fresh .exact 0).after [first]
    let ended := rebuild (Context.nested around none 1) none w
    Reachable .exact w ∧ ended.1 = .error (.misuse .wrongType) ∧
      attemptsIn ended.2.journal = attemptsIn w.journal + 1 ∧
        ∀ counter ∈ [Counter.changed, .unchanged, .skipped, .failed],
          countOf counter ended.2.journal = countOf counter w.journal := by
  intro core listing around first w ended
  exact ⟨.performed (.fresh (by decide) (by decide) 0) first, rfl, by decide +kernel,
    by decide +kernel⟩

end ApiSurface.Tracker
