import ApiSurface.Crd.Name
import ApiSurface.Text.Digit
import ApiSurface.Text.Quoted

/-!
# Configuration

The configuration is read from environment variables, seven of them integers with
bounds and one a list of custom resource definitions to wait for. The first check
that fails is reported; a configuration that is returned satisfies all of them.
-/

namespace ApiSurface

open Crd (GroupVersionKind)

/-- What a process finds in its environment. -/
abbrev Environment := Text → Option Text

/-- The settings of one process. -/
structure Config where
  rateLimitSeconds : Int
  collectionIntervalSeconds : Int
  fullRescanIntervalSeconds : Int
  discoveryWorkers : Int
  watchTimeoutSeconds : Int
  healthPort : Int
  awaitedCrds : List GroupVersionKind
  crdWaitTimeoutSeconds : Int
deriving DecidableEq, Repr

/-- Why a configuration is refused. -/
inductive ConfigFault where
  | notAnInteger (name : Text)
  | belowLeast (name : Text) (least value : Int)
  | aboveGreatest (name : Text) (greatest value : Int)
  | rescanNotLonger
  | badEntry (entry : Text)
deriving DecidableEq, Repr

/-- The wording of a refused configuration. -/
def ConfigFault.message : ConfigFault → Text
  | notAnInteger name => name ++ " must be an integer"
  | belowLeast name least value =>
    name ++ " must be >= " ++ toString least ++ ", got: " ++ toString value
  | aboveGreatest name greatest value =>
    name ++ " must be <= " ++ toString greatest ++ ", got: " ++ toString value
  | rescanNotLonger =>
    "FULL_RESCAN_INTERVAL_SECONDS must be greater than COLLECTION_INTERVAL_SECONDS"
  | badEntry entry =>
    "WAIT_FOR_CRDS entries must look like group/version/Kind, got: " ++ Text.quoted entry

/-- An integer variable: its name, the value it has when unset, and its bounds. -/
structure IntegerSetting where
  name : Text
  default : Int
  least : Option Int
  greatest : Option Int
deriving DecidableEq, Repr

namespace IntegerSetting

/-- The value of a variable before its bounds are checked. -/
def unchecked (setting : IntegerSetting) (env : Environment) : Except ConfigFault Int :=
  match env setting.name with
  | none => .ok setting.default
  | some raw =>
    match Text.readInteger raw with
    | some value => .ok value
    | none => .error (.notAnInteger setting.name)

/-- Checks a value against the bounds, the lower one first. -/
def check (setting : IntegerSetting) (value : Int) : Except ConfigFault Int :=
  match setting.least.filter (value < ·) with
  | some least => .error (.belowLeast setting.name least value)
  | none =>
    match setting.greatest.filter (· < value) with
    | some greatest => .error (.aboveGreatest setting.name greatest value)
    | none => .ok value

/-- The value of a variable. -/
def read (setting : IntegerSetting) (env : Environment) : Except ConfigFault Int :=
  match setting.unchecked env with
  | .ok value => setting.check value
  | .error fault => .error fault

end IntegerSetting

namespace Config

/-- Least spacing of rebuilds asked for by the watch and the short-interval ticker. -/
def rateLimit : IntegerSetting := ⟨"RATE_LIMIT_SECONDS", 5, some 0, none⟩

/-- Period of the rate-limited rebuild. -/
def collectionInterval : IntegerSetting := ⟨"COLLECTION_INTERVAL_SECONDS", 30, some 1, none⟩

/-- Period of the unconditional rebuild. -/
def fullRescanInterval : IntegerSetting := ⟨"FULL_RESCAN_INTERVAL_SECONDS", 900, some 1, none⟩

/-- Scans that run at a time within one rebuild. -/
def workers : IntegerSetting := ⟨"DISCOVERY_WORKERS", 16, some 1, some 256⟩

/-- How long the server keeps one watch stream open. -/
def watchTimeout : IntegerSetting := ⟨"WATCH_TIMEOUT_SECONDS", 300, some 1, none⟩

/-- Port of the health and metrics server. -/
def port : IntegerSetting := ⟨"HEALTH_PORT", 8081, some 1, some 65535⟩

/-- How long definitions are waited for, all together. -/
def crdWaitTimeout : IntegerSetting := ⟨"CRD_WAIT_TIMEOUT_SECONDS", 150, some 1, none⟩

/-- The variable that lists the definitions to wait for. -/
def awaitedCrdsName : Text := "WAIT_FOR_CRDS"

/-- One entry of the list, already trimmed and not blank. -/
def readEntry (entry : Text) : Except ConfigFault GroupVersionKind :=
  match (Text.fields (.char '/') entry).map Text.trim with
  | [group, version, kind] =>
    if group.isEmpty || version.isEmpty || kind.isEmpty then .error (.badEntry entry)
    else .ok ⟨group, version, kind⟩
  | _ => .error (.badEntry entry)

/-- The entries of a list in order, up to the first that is refused. -/
def readEntries : List Text → Except ConfigFault (List GroupVersionKind)
  | [] => .ok []
  | entry :: entries =>
    let trimmed := Text.trim entry
    if trimmed.isEmpty then readEntries entries
    else
      match readEntry trimmed with
      | .error fault => .error fault
      | .ok gvk =>
        match readEntries entries with
        | .error fault => .error fault
        | .ok gvks => .ok (gvk :: gvks)

/-- The definitions of a comma-separated list of `group/version/Kind` entries. -/
def readAwaitedCrds (raw : Text) : Except ConfigFault (List GroupVersionKind) :=
  readEntries (Text.fields (.char ',') raw)

/-- The integer settings of a configuration with their values. -/
def integers (config : Config) : List (IntegerSetting × Int) :=
  [(rateLimit, config.rateLimitSeconds), (collectionInterval, config.collectionIntervalSeconds),
    (fullRescanInterval, config.fullRescanIntervalSeconds), (workers, config.discoveryWorkers),
    (watchTimeout, config.watchTimeoutSeconds), (port, config.healthPort),
    (crdWaitTimeout, config.crdWaitTimeoutSeconds)]

/-- Reads the configuration. -/
def load (env : Environment) : Except ConfigFault Config := do
  let collectionIntervalSeconds ← collectionInterval.read env
  let fullRescanIntervalSeconds ← fullRescanInterval.read env
  if fullRescanIntervalSeconds ≤ collectionIntervalSeconds then .error .rescanNotLonger
  else
    let rateLimitSeconds ← rateLimit.read env
    let discoveryWorkers ← workers.read env
    let watchTimeoutSeconds ← watchTimeout.read env
    let healthPort ← port.read env
    let awaitedCrds ← readAwaitedCrds ((env awaitedCrdsName).getD "")
    let crdWaitTimeoutSeconds ← crdWaitTimeout.read env
    .ok { rateLimitSeconds, collectionIntervalSeconds, fullRescanIntervalSeconds,
          discoveryWorkers, watchTimeoutSeconds, healthPort, awaitedCrds, crdWaitTimeoutSeconds }

end Config

end ApiSurface
