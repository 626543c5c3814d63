import ApiSurface.Tracker.Known
import ApiSurface.Tracker.Watch

/-!
# Ticks

Two tickers make up for what a watch may miss. The short one asks for a rebuild
through the limiter; the long one lists the known definitions anew and rebuilds in
any case. Both stop ticking at the first wait that sees a stop.
-/

namespace ApiSurface.Tracker

variable {τ : Type}

/-- Lists the known definitions; a failure is reported, and what was known stays. -/
def refreshOrReport (ctx : Context τ) : Op τ Unit := do
  match ← Op.attempt (refreshKnown ctx) with
  | .ok () => pure ()
  | .error _ => Op.log .error "Failed to refresh CRD identity set during full rescan"

/-- What is logged about a full rescan that is done, if its rebuild gave an outcome. -/
def rescanReport : Option Outcome → Op τ Unit
  | some .changed => Op.log .info "Full rescan completed with changes"
  | some outcome => Op.log .debug ("Full rescan completed (" ++ outcome.name ++ ")")
  | none => pure ()

/-- Lists the known definitions and rebuilds the snapshot, whatever the limiter says. -/
def fullRescan (ctx : Context τ) (given : Option Signal) : Op τ (Option Outcome) := do
  Op.log .info "Performing full rescan to account for missed events"
  refreshOrReport ctx
  let stop ← Context.stopOr given
  let outcome ← collectAndNotify ctx (some stop)
  rescanReport outcome
  pure outcome

variable [Scalar τ]

/-- Ticks after every wait until a stop is seen, for a number of rounds, and tells whether
the loop ended by then. -/
def ticking (ctx : Context τ) (interval : Seconds τ) (stop : Signal) (tick : Op τ Unit) :
    Nat → Op τ Bool
  | 0 => pure false
  | rounds + 1 => do
    if ← ctx.wait (.paused interval) interval.amount stop then pure true
    else
      tick
      ticking ctx interval stop tick rounds

/-- Runs a ticker and reports its beginning and its end. -/
def runTicker (ctx : Context τ) (name : String) (interval : Seconds τ) (stop : Signal)
    (tick : Op τ Unit) (rounds : Nat) : Op τ Bool := do
  Op.log .info ("Starting " ++ name ++ " (interval=" ++ interval.text ++ "s)")
  let ended ← ticking ctx interval stop tick rounds
  if ended then Op.log .info ("Stopping " ++ name)
  pure ended

/-- The short ticker. -/
def collectPeriodically (ctx : Context τ) (stop : Signal) (rounds : Nat) : Op τ Bool := do
  let interval := (← Op.tracker).settings.collectionInterval
  let tick : Op τ Unit := do
    let _ ← trigger ctx (some stop)
  runTicker ctx "periodic API resource collection" interval stop tick rounds

/-- The long ticker. -/
def rescanPeriodically (ctx : Context τ) (stop : Signal) (rounds : Nat) : Op τ Bool := do
  let interval := (← Op.tracker).settings.fullRescanInterval
  let tick : Op τ Unit := do
    let _ ← fullRescan ctx (some stop)
  runTicker ctx "periodic full rescan" interval stop tick rounds

end ApiSurface.Tracker
