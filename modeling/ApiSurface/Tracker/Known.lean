import ApiSurface.Tracker.Operation

/-!
# The known definitions

The identities of the definitions that exist are listed at startup and with every
full rescan, and what was listed replaces what was known. Objects without identity
are left out; an object that cannot be read at all makes the whole listing fail,
and then what was known stays.
-/

namespace ApiSurface.Tracker

variable {τ : Type}

/-- The UIDs of listed objects in order. -/
def collectUids : List Value → Op τ (List Text)
  | [] => pure []
  | item :: rest =>
    match Crd.Info.ofValue item with
    | .ok info => do
      let uids ← collectUids rest
      pure (info.uid :: uids)
    | .error .withoutUid => do
      Op.log .warning "Skipping listed CRD without uid"
      collectUids rest
    | .error (.misuse kind) => Op.raise (.misuse kind)

/-- Makes listed UIDs the known ones. -/
def replaceKnown (uids : List Text) : Op τ Unit := do
  Op.update fun tracker =>
    { tracker with known := Crd.IdentitySet.ofList uids, crdsGauge := uids.length }
  Op.record (.replacedKnown uids)
  Op.log .debug ("Refreshed CRD identity set with " ++ toString uids.length ++ " CRDs")

/-- Lists the definitions and makes theirs the known identities. -/
def refreshKnown (ctx : Context τ) : Op τ Unit := do
  let items ← ctx.ask .listedCrds ctx.around.crds
  let uids ← collectUids items
  replaceKnown uids

end ApiSurface.Tracker
