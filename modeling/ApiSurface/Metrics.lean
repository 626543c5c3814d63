/-!
# Metrics

The metrics that are exposed, in the order in which they are exposed, and how their
names read there: a counter's name ends in `_total`, an information metric's in
`_info`.
-/

namespace ApiSurface.Metrics

/-- What a metric measures with. -/
inductive Kind where
  | counter
  | gauge
  | histogram
  | info
deriving DecidableEq, Repr

/-- One metric: its name without prefix and ending, what it measures with, and what it
means. -/
structure Family where
  name : String
  kind : Kind
  help : String
deriving DecidableEq, Repr

/-- What every exposed name starts with. -/
def namePrefix : String := "auth_operator_"

namespace Family

/-- The name under which a metric is exposed. -/
def exposedName (family : Family) : String :=
  namePrefix ++ family.name ++
    match family.kind with
    | .counter => "_total"
    | .info => "_info"
    | _ => ""

/-- The type under which a metric is exposed; information is exposed as a gauge. -/
def exposedType (family : Family) : String :=
  match family.kind with
  | .counter => "counter"
  | .histogram => "histogram"
  | _ => "gauge"

/-- The two lines that announce a metric. -/
def header (family : Family) : List String :=
  ["# HELP " ++ family.exposedName ++ " " ++ family.help,
    "# TYPE " ++ family.exposedName ++ " " ++ family.exposedType]

end Family

/-- Every metric, in order. -/
def families : List Family :=
  [⟨"api_discovery_duration_seconds", .histogram,
      "Duration of full API discovery passes in seconds"⟩,
    ⟨"api_discovery_errors", .counter, "Total API discovery errors"⟩,
    ⟨"api_resource_rebuilds", .counter, "Total API resource snapshot rebuild attempts by outcome"⟩,
    ⟨"api_resource_subscriber_errors", .counter,
      "Total errors returned by API resource change subscribers"⟩,
    ⟨"crd_watch_errors", .counter, "Total CustomResourceDefinition watch errors"⟩,
    ⟨"crd_watch_reconnects", .counter,
      "Total CRD watch stream reconnects after the initial connection"⟩,
    ⟨"tracked_group_versions", .gauge,
      "Number of group-versions in the current API resource snapshot"⟩,
    ⟨"tracked_crds", .gauge, "Number of CustomResourceDefinition identities currently known"⟩,
    ⟨"discovery_tracker", .info, "Build information for the discovery tracker"⟩]

/-- The lines that announce all metrics. -/
def headers : List String := families.flatMap Family.header

end ApiSurface.Metrics
