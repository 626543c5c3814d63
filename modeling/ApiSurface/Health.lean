import ApiSurface.Metrics
import ApiSurface.Text.Basic

/-!
# The health server

Three routes are served: whether the process lives, whether it has collected its
first snapshot, and its metrics. The route is the path up to the first question
mark, and nothing else of a request matters.
-/

namespace ApiSurface.Health

/-- What a request asks for. -/
inductive Route where
  | health
  | readiness
  | metrics
  | unknown
deriving DecidableEq, Repr

/-- The route of a path. -/
def routeOf (path : Text) : Route :=
  let route := path.takeWhile (· != .char '?')
  if route == "/healthz" then .health
  else if route == "/readyz" then .readiness
  else if route == "/metrics" then .metrics
  else .unknown

/-- The status of an answer. -/
inductive Status where
  | ok
  | notFound
  | unavailable
deriving DecidableEq, Repr

namespace Status

/-- The number of a status. -/
def code : Status → Nat
  | ok => 200
  | notFound => 404
  | unavailable => 503

/-- The phrase of a status. -/
def phrase : Status → String
  | ok => "OK"
  | notFound => "Not Found"
  | unavailable => "Service Unavailable"

/-- The first line of an answer. -/
def line (status : Status) : String :=
  "HTTP/1.0 " ++ toString status.code ++ " " ++ status.phrase

end Status

/-- What an answer holds: text, or the metrics as they are at that moment. -/
inductive Body where
  | text (content : String)
  | metrics (headers : List String)
deriving DecidableEq, Repr

/-- An answer. -/
structure Answer where
  status : Status
  contentType : String
  body : Body
deriving DecidableEq, Repr

/-- The content type of plain answers. -/
def plainText : String := "text/plain; charset=utf-8"

/-- The content type of the metrics. -/
def metricsText : String := "text/plain"

/-- The answer to a request, given whether the first snapshot has been collected. -/
def answer (ready : Bool) (path : Text) : Answer :=
  match routeOf path with
  | .health => ⟨.ok, plainText, .text "ok\n"⟩
  | .readiness =>
    if ready then ⟨.ok, plainText, .text "ready\n"⟩
    else ⟨.unavailable, plainText, .text "initial API discovery pending\n"⟩
  | .metrics => ⟨.ok, metricsText, .metrics Metrics.headers⟩
  | .unknown => ⟨.notFound, plainText, .text "not found\n"⟩

/-- How the server is set up. -/
structure Server where
  host : String
  port : Int
  /-- Threads that serve requests do not keep the process alive. -/
  daemonThreads : Bool
  /-- Closing the server does not wait for requests being served. -/
  blockOnClose : Bool
deriving DecidableEq, Repr

/-- The server on a port. -/
def serverOn (port : Int) : Server :=
  { host := "0.0.0.0", port, daemonThreads := true, blockOnClose := false }

/-- The message with which a server on a bound port reports. -/
def listeningMessage (bound : Int) : String := "Health server listening on :" ++ toString bound

end ApiSurface.Health
