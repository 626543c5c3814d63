import ApiSurface.Config
import ApiSurface.LogEntry
import ApiSurface.WatchEvent

/-!
# Faults

Everything that can end an operation without a result and be caught, by its cause. A
collaborator's own failures are passed on as they are; the library's own have one
constructor each, and their wording is the function `Fault.message`. What no handler
takes for a failure, a request to leave the program at once or an interrupt, is no fault.
-/

namespace ApiSurface

/-- Kinds of failure a collaborator may raise. -/
inductive Trouble where
  | badValue
  | runtime
  | badConfig
  | malformedEvent
  | noClusterConfig
  | timeout
  | connectionReset
  | system
  | missingFile
  | notStarted
  | startFailed
  | other (name : Text)
deriving DecidableEq, Repr

/-- Why an operation ended without a result. -/
inductive Fault where
  /-- The API server refused a request. -/
  | refused (status reason : Value)
  /-- A stop request ended the work. -/
  | cancelled (message : Text)
  /-- A collaborator failed in some other way. -/
  | outside (trouble : Trouble) (message : Text)
  /-- A value was used as what it is not. -/
  | misuse (kind : Misuse)
  /-- A listed object is no custom resource definition. -/
  | withoutUid
  | malformed (why : MalformedEvent)
  | badConfig (why : ConfigFault)
  /-- A text that names no log level was asked for as one. -/
  | badLevel (text : Text)
  /-- A tracker was asked for with no worker. -/
  | noWorkers
  /-- A limiter was asked for with a negative interval. -/
  | negativeInterval
  /-- A waiter was asked for with no attempt. -/
  | noAttempts
  /-- A definition was not established before the deadline or the last attempt. -/
  | notEstablished (crd : Text)
  /-- The snapshot was asked for before there was one. -/
  | notStarted
  /-- The known definitions could not be listed at startup. -/
  | startFailed (cause : Fault)
  /-- Operations were nested deeper than the bound set for a run. -/
  | nestedTooDeep
deriving Inhabited

namespace Fault

/-- The wording of a fault. -/
def message : Fault → Text
  | refused status reason => "(" ++ status.toText ++ ")\nReason: " ++ reason.toText ++ "\n"
  | cancelled message => message
  | outside _ message => message
  | misuse _ => ""
  | withoutUid => Crd.withoutUidMessage
  | malformed why => why.message
  | badConfig why => why.message
  | badLevel text => "Unknown level: " ++ Text.quoted text
  | noWorkers => "discovery_workers must be >= 1"
  | negativeInterval => "interval must be >= 0"
  | noAttempts => "max_attempts must be >= 1"
  | notEstablished crd => "failed waiting for CRD " ++ crd ++ ": not established in time"
  | notStarted => "resource tracker not started"
  | startFailed _ => "unable to initialize CRD identity set"
  | nestedTooDeep => "maximum depth exceeded"

/-- A stop was seen while an operation was retried. -/
def stopRequested : Fault := cancelled "stop requested"

/-- A stop was seen during a discovery pass. -/
def stopDuringCollection : Fault := cancelled "stop requested during API resource collection"

/-- A stop was seen while a definition was waited for. -/
def stopWhileWaiting (crd : Text) : Fault := cancelled ("stopped while waiting for CRD " ++ crd)

/-- Whether a fault reports that work was stopped on request. -/
def isCancelled : Fault → Bool
  | cancelled _ => true
  | _ => false

/-- The fault of a payload that is no custom resource definition. -/
def ofInfo : Crd.InfoFault → Fault
  | .withoutUid => withoutUid
  | .misuse kind => misuse kind

/-- The fault of a level that cannot be set. -/
def ofLevel : LevelFault → Fault
  | .unknown text => badLevel text
  | .wrongType => misuse .wrongType

/-- The fault of an event that cannot be decoded. -/
def ofDecode : DecodeFault → Fault
  | .malformed why => malformed why
  | .misuse kind => misuse kind

end Fault

end ApiSurface
