import ApiSurface.Fault
import ApiSurface.LogEntry

/-!
# Access to the cluster

Inside a cluster access is configured by the cluster itself. Only where there is no
such configuration is the local one loaded; any other failure is final.
-/

namespace ApiSurface.Cluster

/-- Where access may be configured. -/
inductive AccessSource where
  | inCluster
  | localFile
deriving DecidableEq, Repr

/-- What is reported once access is configured. -/
def AccessSource.report : AccessSource → LogEntry
  | inCluster => ⟨.info, "Loaded in-cluster Kubernetes configuration"⟩
  | localFile => ⟨.info, "Loaded local kubeconfig"⟩

/-- An attempt to configure access: the sources tried, what was reported, and how it ended. -/
structure AccessAttempt where
  tried : List AccessSource
  reports : List LogEntry
  ending : Except Fault Unit

/-- Whether a failure means that there is no configuration to be found. -/
def meansNoConfiguration : Fault → Bool
  | .outside .noClusterConfig _ => true
  | _ => false

/-- The attempt that tried these sources and ended with the answer of the last. -/
def attemptEnding (tried : List AccessSource) (last : AccessSource) (answer : Except Fault Unit) :
    AccessAttempt :=
  match answer with
  | .ok () => { tried, reports := [last.report], ending := .ok () }
  | .error fault => { tried, reports := [], ending := .error fault }

/-- Whether the local configuration is to be tried after the cluster's own. -/
def fallsBack : Except Fault Unit → Bool
  | .error fault => meansNoConfiguration fault
  | .ok () => false

/-- Configures access, given what each source answers. -/
def configureAccess (load : AccessSource → Except Fault Unit) : AccessAttempt :=
  if fallsBack (load .inCluster) then
    attemptEnding [.inCluster, .localFile] .localFile (load .localFile)
  else attemptEnding [.inCluster] .inCluster (load .inCluster)

end ApiSurface.Cluster
