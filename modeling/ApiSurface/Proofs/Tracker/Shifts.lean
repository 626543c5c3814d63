import ApiSurface.Proofs.Discovery.Stopping
import ApiSurface.Proofs.Tracker.Requests

/-!
# A pass is a schedule of its workers

A pass that scans group-versions one after the other goes along one of the schedules that
any number of workers may take under the same stop signal, whoever sets the signal while a
request is under way. So whatever holds of every schedule holds of it.
-/

namespace ApiSurface.Tracker

variable {τ : Type} {ctx : Context τ} {stop : Signal} {w after : World τ}

/-- What a request may give in a context, in whatever world it is made. -/
def Context.mayGive (ctx : Context τ) : MayGive := fun gv result =>
  ∃ w, (Pass.request ctx gv w).1 = result

namespace Pass

/-- A pass and its world show what went on in a shift in which nothing is under way, given the keys
that had been requested before it. -/
structure Follows (stop : Signal) (before : Multiset Text) (pass : Pass) (w : World τ)
    (shift : Shift) : Prop where
  idle : shift.busy = 0
  unsettled : shift.verdict = none
  stopped : shift.stopped = w.isSet stop
  results : shift.results = pass.results
  going : pass.failure = none → shift.aborted = false ∧ ¬ shift.Troubled
  aborted : w.isSet stop = false → pass.failure ≠ none → shift.aborted = true
  failed : ∀ fault, pass.failure = some fault →
    (∃ gv, (gv, fault) ∈ shift.failures) ∨
      shift.cancelled ≠ 0 ∧ fault = Fault.stopDuringCollection
  lock : w.tracker.rebuilding = true
  requests : (requestsIn w.journal : Multiset Text) =
    shift.requested.map GroupVersion.key + before

variable {before : Multiset Text} {pass : Pass} {shift : Shift} {gv : GroupVersion}
  {rest : Multiset GroupVersion} {workers : Nat}

/-- A pass before its first scan. -/
theorem Follows.start (locked : w.tracker.rebuilding = true) (listed : List GroupVersion) :
    Pass.start.Follows stop (requestsIn w.journal) w (Shift.start listed (w.isSet stop)) where
  idle := rfl
  unsettled := rfl
  stopped := rfl
  results := rfl
  going _ := ⟨rfl, not_or.mpr ⟨not_not.mpr rfl, not_not.mpr rfl⟩⟩
  aborted _ failed := absurd rfl failed
  failed := nofun
  lock := locked
  requests := (zero_add _).symm

end Pass

end ApiSurface.Tracker
