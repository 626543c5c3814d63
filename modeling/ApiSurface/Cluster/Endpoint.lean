import ApiSurface.Fault
import ApiSurface.Resource
import ApiSurface.Scalar

/-!
# Discovery endpoints

The core group's versions are served under one root path and all named groups under
another. Which of them a group-version is served under is read off its key: only
the keys of named groups hold a slash. Every request of a client carries the
client's time limit.
-/

namespace ApiSurface.Cluster

/-- A named group with its versions. -/
structure ApiGroup where
  name : Text
  versions : Option (List Text)
deriving DecidableEq, Repr

/-- The two lists of versions that discovery starts from. -/
inductive VersionList where
  | core
  | groups
deriving DecidableEq, Repr

/-- The root path of the group-version with a given key. -/
def rootOf (key : Text) : Text := if key.contains (.char '/') then "/apis" else "/api"

/-- The path of the group-version with a given key. -/
def pathOf (key : Text) : Text := rootOf key ++ "/" ++ key

/-- A request for the resources of one group-version. -/
structure Request (τ : Type) where
  path : Text
  method : Text
  /-- The form in which an answer is accepted. -/
  accept : Text
  /-- The type that an answer is read as. -/
  answerType : Text
  /-- The ways to authenticate. -/
  authentication : List Text
  /-- Only the body of an answer matters. -/
  bodyOnly : Bool
  timeout : Option (Seconds τ)

/-- A client of the discovery endpoints, with the time limit of its requests. -/
structure Client (τ : Type) where
  timeout : Option (Seconds τ)

/-- The time limit of requests where none is given, in seconds. -/
def defaultTimeout {τ : Type} : Seconds τ := .whole 30

/-- The number of pooled connections where none is given. -/
def defaultPoolSize : Int := 16

/-- The group-versions of the core group. -/
def coreGroupVersions (versions : Option (List Text)) : List GroupVersion :=
  (versions.getD []).map fun version => { group := "", version }

/-- The group-versions of a named group. -/
def groupVersionsOf (group : ApiGroup) : List GroupVersion :=
  (group.versions.getD []).map fun version => { group := group.name, version }

/-- The group-versions of all named groups. -/
def namedGroupVersions (groups : Option (List ApiGroup)) : List GroupVersion :=
  (groups.getD []).flatMap groupVersionsOf

namespace Client

variable {τ : Type}

/-- The request for the resources of a group-version, by its key. -/
def request (client : Client τ) (key : Text) : Request τ :=
  { path := pathOf key
    method := "GET"
    accept := "application/json"
    answerType := "V1APIResourceList"
    authentication := ["BearerToken"]
    bodyOnly := true
    timeout := client.timeout }

end Client

/-- Lists the served group-versions, the core group's first, and tells which lists of
versions were asked for. -/
def listGroupVersions (core : Except Fault (Option (List Text)))
    (groups : Except Fault (Option (List ApiGroup))) :
    List VersionList × Except Fault (List GroupVersion) :=
  match core with
  | .error fault => ([.core], .error fault)
  | .ok versions =>
    match groups with
    | .error fault => ([.core, .groups], .error fault)
    | .ok groups =>
      ([.core, .groups], .ok (coreGroupVersions versions ++ namedGroupVersions groups))

end ApiSurface.Cluster
