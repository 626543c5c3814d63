import Mathlib.Algebra.Group.Basic
import Mathlib.Algebra.Group.Int.Defs
import ApiSurface.Tracker.State

/-!
# The ledger

Attempts to rebuild, the outcomes they are counted under, streams opened and streams gone
wrong are read off the journal entry by entry. An attempt that finds another under way is
counted as skipped at once and so balances itself; the ledger keeps what is left of the
attempts beside the other counts, and most of what happens leaves it as it is.
-/

namespace ApiSurface.Tracker

variable {τ : Type} {entry : Entry τ} {journal : Journal τ}

/-- Whether an entry is an attempt to rebuild: one that began, or one that found another under
way. -/
def Entry.isAttempt : Entry τ → Bool
  | beganRebuild => true
  | logged entry => entry == ⟨.debug, "API resource collection already in progress; skipping"⟩
  | _ => false

/-- The number of attempts to rebuild. -/
def attemptsIn (journal : Journal τ) : Nat := journal.countP Entry.isAttempt

/-- Whether the ledger has a place for what is counted. -/
def Counter.isBooked : Counter → Bool
  | scanErrors => false
  | subscriberErrors => false
  | passes => false
  | _ => true

/-- Whether an entry goes into the ledger. -/
def Entry.isBooked : Entry τ → Bool
  | counted counter => counter.isBooked
  | openedStream _ => true
  | entry => entry.isAttempt

/-- What a journal accounts for. -/
structure Ledger where
  /-- Attempts, less those that were skipped. -/
  attempts : Int
  changed : Nat
  unchanged : Nat
  failed : Nat
  watchErrors : Nat
  reconnects : Nat
  openings : Nat
deriving DecidableEq

/-- The ledger of a journal. -/
def ledgerOf (journal : Journal τ) : Ledger where
  attempts := attemptsIn journal - countOf .skipped journal
  changed := countOf .changed journal
  unchanged := countOf .unchanged journal
  failed := countOf .failed journal
  watchErrors := countOf .watchErrors journal
  reconnects := countOf .reconnects journal
  openings := openingsIn journal

theorem countOf_cons (counter : Counter) (entry : Entry τ) (journal : Journal τ) :
    countOf counter (entry :: journal) =
      countOf counter journal + if entry.isCount counter then 1 else 0 := List.countP_cons

theorem attemptsIn_cons (entry : Entry τ) (journal : Journal τ) :
    attemptsIn (entry :: journal) = attemptsIn journal + if entry.isAttempt then 1 else 0 :=
  List.countP_cons

theorem openingsIn_cons (entry : Entry τ) (journal : Journal τ) :
    openingsIn (entry :: journal) = openingsIn journal + if entry.isOpening then 1 else 0 :=
  List.countP_cons

theorem attemptsIn_append (later earlier : Journal τ) :
    attemptsIn (later ++ earlier) = attemptsIn later + attemptsIn earlier := List.countP_append

theorem countOf_append (counter : Counter) (later earlier : Journal τ) :
    countOf counter (later ++ earlier) = countOf counter later + countOf counter earlier :=
  List.countP_append

/-- What does not go into the ledger leaves it as it is. -/
theorem ledgerOf_cons_of_unbooked (unbooked : entry.isBooked = false) (journal : Journal τ) :
    ledgerOf (entry :: journal) = ledgerOf journal := by
  have unattempted : entry.isAttempt = false := by
    cases entry with
    | counted | openedStream => rfl
    | _ => exact unbooked
  have unopened : entry.isOpening = false := by
    cases entry with
    | openedStream => cases unbooked
    | _ => rfl
  have kept : ∀ counter : Counter, counter.isBooked = true →
      countOf counter (entry :: journal) = countOf counter journal := by
    intro counter booked
    refine List.countP_cons_of_neg (Bool.eq_false_iff.mp ?_)
    cases entry with
    | counted other =>
      refine beq_false_of_ne ?_
      rintro rfl
      cases booked.symm.trans unbooked
    | _ => rfl
  rw [ledgerOf, attemptsIn_cons, openingsIn_cons, unattempted, unopened, kept .skipped rfl,
    kept .changed rfl, kept .unchanged rfl, kept .failed rfl, kept .watchErrors rfl,
    kept .reconnects rfl]
  rfl

/-- An attempt that is skipped balances itself. -/
theorem ledgerOf_skipped (journal : Journal τ) :
    ledgerOf (.counted .skipped ::
      .logged ⟨.debug, "API resource collection already in progress; skipping"⟩ :: journal) =
        ledgerOf journal := by
  have attempt : (Entry.logged
      ⟨.debug, "API resource collection already in progress; skipping"⟩ : Entry τ).isAttempt =
        true := beq_self_eq_true _
  have attempts : attemptsIn (.counted .skipped ::
      .logged ⟨.debug, "API resource collection already in progress; skipping"⟩ :: journal) =
        attemptsIn journal + 1 := by
    rw [attemptsIn_cons, attemptsIn_cons, attempt]
    rfl
  simp [ledgerOf, attempts, countOf_cons, openingsIn_cons, Entry.isCount, Entry.isOpening,
    add_sub_add_right_eq_sub]

end ApiSurface.Tracker
