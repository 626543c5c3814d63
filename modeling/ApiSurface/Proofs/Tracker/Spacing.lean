import ApiSurface.Proofs.RateLimit
import ApiSurface.Proofs.Tracker.StepwiseRuns

/-!
# Rebuilds through the limiter

Watch events and short-interval ticks ask one limiter for their rebuilds. What it lets
through is attempted at once, so the journal tells these attempts from all others: they
stand right after the question. They are an interval apart, in exact arithmetic and
whatever the clock does; a question that comes to nothing came less than an interval after
the last of them. A full rescan makes its attempt without asking.
-/

namespace ApiSurface

namespace Tracker

section Attempts

variable {τ : Type}

/-- The clock reading of an attempt that was made at once when the limiter was asked. -/
def Entry.limited? (next : Entry τ) : Journal τ → Option τ
  | .asked reading _ :: _ => if next.isAttempt then some reading else none
  | _ => none

/-- The clock readings of the attempts made at once when the limiter was asked, newest first. -/
def limitedAttemptsIn : Journal τ → List τ
  | [] => []
  | next :: earlier => (next.limited? earlier).toList ++ limitedAttemptsIn earlier

/-- The newest entry is no question to the limiter. -/
def Settled (journal : Journal τ) : Prop := ∀ entry ∈ journal.head?, entry.isAsk = false

variable {journal : Journal τ} {next : Entry τ}

theorem Settled.cons (unasked : next.isAsk = false) : Settled (next :: journal) := by
  rintro _ ⟨⟩
  exact unasked

/-- An attempt that does not come right after a question is not one of the limited. -/
theorem limitedAttemptsIn_cons (settled : Settled journal) (next : Entry τ) :
    limitedAttemptsIn (next :: journal) = limitedAttemptsIn journal := by
  rw [limitedAttemptsIn]
  cases journal with
  | nil => rfl
  | cons entry earlier =>
    cases entry with
    | asked reading admitted => cases settled _ rfl
    | _ => rfl

/-- What comes right after a question is a limited attempt, if it is one. -/
theorem limitedAttemptsIn_asked (settled : Settled journal) (next : Entry τ) (reading : τ)
    (admitted : Bool) :
    limitedAttemptsIn (next :: .asked reading admitted :: journal) =
      if next.isAttempt then reading :: limitedAttemptsIn journal
      else limitedAttemptsIn journal := by
  rw [limitedAttemptsIn, limitedAttemptsIn_cons settled, Entry.limited?]
  cases next.isAttempt <;> rfl

/-- Where the limiter was never asked there is no limited attempt. -/
theorem limitedAttemptsIn_of_unasked (unasked : asksIn journal = 0) :
    limitedAttemptsIn journal = [] := by
  induction journal with
  | nil => rfl
  | cons next earlier ih =>
    have none := List.countP_eq_zero.mp unasked
    have settled : Settled earlier := fun entry newest =>
      Bool.eq_false_iff.mpr (none entry (List.mem_cons_of_mem _ (List.mem_of_mem_head? newest)))
    rw [limitedAttemptsIn_cons settled]
    exact ih (List.countP_eq_zero.mpr fun entry member =>
      none entry (List.mem_cons_of_mem _ member))

/-- A question to the limiter is never the newest entry once its step is done. -/
theorem Step.settled [Scalar τ] {heeded : Option Signal} {kind : Kind} {w w' : World τ}
    (step : Step heeded kind w w') (settled : Settled w.journal) : Settled w'.journal := by
  cases step with
  | @remarked _ entry remark =>
    refine .cons ?_
    cases entry with
    | asked reading admitted => cases remark
    | _ => rfl
  | @waited _ entry wait =>
    refine .cons ?_
    cases entry with
    | asked reading admitted => cases wait
    | _ => rfl
  | streamCounted =>
    unfold World.streamCounted
    dsimp only
    split
    · exact .cons rfl
    · exact settled
  | unlooped | elapsed | released | gauged | watching | adopted | signalTaken | becameReady
  | looped => exact settled
  | _ => exact .cons rfl

end Attempts

/-! ## Spacing -/

/-- Limited attempts are an interval apart, the limiter goes by the newest of them, and a question
that was followed by no attempt came less than an interval after the newest before it. -/
structure Spaced (rate : Seconds Rat) (limiter : Limiter Rat) (journal : Journal Rat) : Prop where
  interval : limiter.interval = rate
  last : limiter.last = (limitedAttemptsIn journal).head?
  apart : (limitedAttemptsIn journal).Pairwise fun later earlier => rate.amount ≤ later - earlier
  early : ∀ next reading admitted earlier, next :: .asked reading admitted :: earlier <:+ journal →
    next.isAttempt = false →
      ∃ last, (limitedAttemptsIn earlier).head? = some last ∧ reading - last < rate.amount

namespace Spaced

variable {rate : Seconds Rat} {limiter : Limiter Rat} {journal : Journal Rat} {next : Entry Rat}

theorem noted (spaced : Spaced rate limiter journal) (settled : Settled journal)
    (next : Entry Rat) : Spaced rate limiter (next :: journal) := by
  have same := limitedAttemptsIn_cons settled next
  refine ⟨spaced.interval, same ▸ spaced.last, same ▸ spaced.apart, ?_⟩
  intro other reading admitted earlier within idle
  rcases List.suffix_cons_iff.mp within with here | before
  · obtain ⟨rfl, rfl⟩ := List.cons.inj here
    cases settled _ rfl
  · exact spaced.early other reading admitted earlier before idle

/-- What the limiter lets through is an interval later than every limited attempt so far. -/
theorem admits_apart (spaced : Spaced rate limiter journal) (nonneg : 0 ≤ rate.amount) {now : Rat}
    (admits : limiter.admits now = true) :
    ∀ earlier ∈ limitedAttemptsIn journal, rate.amount ≤ now - earlier := by
  have due : rate.Due (limitedAttemptsIn journal) now :=
    spaced.interval ▸ (Limiter.admits_iff_due spaced.last now).mp admits
  exact due.apart nonneg spaced.apart

/-- What the limiter drops came less than an interval after the newest limited attempt. -/
theorem refuses_early (spaced : Spaced rate limiter journal) {now : Rat}
    (refuses : limiter.admits now = false) :
    ∃ last, (limitedAttemptsIn journal).head? = some last ∧ now - last < rate.amount := by
  rw [← spaced.last, ← spaced.interval]
  unfold Limiter.admits at refuses
  cases last : limiter.last with
  | none =>
    rw [last] at refuses
    cases refuses
  | some last' =>
    rw [last] at refuses
    exact ⟨last', rfl, Seconds.exceeds_iff.mp (by simpa using refuses)⟩

/-- Once the limiter has answered, an attempt follows at once or none does, as it answered. -/
theorem answered (spaced : Spaced rate limiter journal) (settled : Settled journal)
    (nonneg : 0 ≤ rate.amount) {now : Rat} (attempt : next.isAttempt = limiter.admits now) :
    Spaced rate (if limiter.admits now then limiter.admitted now else limiter)
      (next :: .asked now (limiter.admits now) :: journal) := by
  have attempts := limitedAttemptsIn_asked settled next now (limiter.admits now)
  have before : ∀ next' reading admitted earlier,
      next' :: .asked reading admitted :: earlier <:+ .asked now (limiter.admits now) :: journal →
      next'.isAttempt = false →
        ∃ last, (limitedAttemptsIn earlier).head? = some last ∧ reading - last < rate.amount := by
    intro next' reading admitted earlier within idle
    rcases List.suffix_cons_iff.mp within with here | before
    · obtain ⟨rfl, rfl⟩ := List.cons.inj here
      cases settled _ rfl
    · exact spaced.early next' reading admitted earlier before idle
  cases admits : limiter.admits now with
  | true =>
    rw [admits] at attempts attempt before
    rw [attempt, if_pos rfl] at attempts
    refine ⟨spaced.interval, attempts ▸ rfl, ?_, ?_⟩
    · rw [attempts]
      exact .cons (spaced.admits_apart nonneg admits) spaced.apart
    · intro next' reading admitted earlier within idle
      rcases List.suffix_cons_iff.mp within with here | within
      · obtain ⟨rfl, _⟩ := List.cons.inj here
        cases attempt.symm.trans idle
      · exact before next' reading admitted earlier within idle
  | false =>
    rw [admits] at attempts attempt before
    rw [attempt, if_neg Bool.false_ne_true] at attempts
    refine ⟨spaced.interval, attempts ▸ spaced.last, attempts ▸ spaced.apart, ?_⟩
    intro next' reading admitted earlier within idle
    rcases List.suffix_cons_iff.mp within with here | within
    · obtain ⟨rfl, rest⟩ := List.cons.inj here
      cases rest
      exact spaced.refuses_early admits
    · exact before next' reading admitted earlier within idle

end Spaced

/-- The limiter goes on by what it has let through. -/
theorem World.asked_limiter {τ : Type} [Scalar τ] (w : World τ) :
    w.asked.tracker.limiter =
      if w.tracker.limiter.admits w.clock then w.tracker.limiter.admitted w.clock
      else w.tracker.limiter := by
  unfold World.asked
  cases w.tracker.limiter.admits w.clock <;> rfl

/-- Every step keeps limited attempts an interval apart. -/
theorem Step.spaced {rate : Seconds Rat} (nonneg : 0 ≤ rate.amount) {heeded : Option Signal}
    {kind : Kind} {w w' : World Rat} (step : Step heeded kind w w') (settled : Settled w.journal)
    (spaced : Spaced rate w.tracker.limiter w.journal) :
    Spaced rate w'.tracker.limiter w'.journal := by
  have answered : ∀ {next : Entry Rat}, next.isAttempt = w.tracker.limiter.admits w.clock →
      Spaced rate w.asked.tracker.limiter (next :: w.asked.journal) := fun attempt =>
    w.asked_limiter ▸ spaced.answered settled nonneg attempt
  have once : ∀ next, Spaced rate w.tracker.limiter (next :: w.journal) := spaced.noted settled
  have twice : ∀ {next}, next.isAsk = false → ∀ newest,
      Spaced rate w.tracker.limiter (newest :: next :: w.journal) := fun unasked newest =>
    (once _).noted (.cons unasked) newest
  cases step with
  | attempted admits free => exact answered admits.symm
  | attemptedInVain admits locked =>
    have found : (Entry.logged
        ⟨.debug, "API resource collection already in progress; skipping"⟩ : Entry Rat).isAttempt =
          true := beq_self_eq_true _
    exact (answered (found.trans admits.symm)).noted (.cons rfl) _
  | dropped refuses => exact answered (refuses ▸ rfl)
  | skipped | confirmed | relisted => exact twice rfl _
  | replaced => exact (twice rfl _).noted (.cons rfl) _
  | streamCounted =>
    unfold World.streamCounted
    dsimp only
    split
    · exact once _
    · exact spaced
  | remarked | waited | read | joined | signalled | began | requested | applied | opened
  | decoded | registered | startedLoop => exact once _
  | _ => exact spaced

end Tracker

end ApiSurface
