import ApiSurface.Resource
import ApiSurface.Value.Text

/-!
# Scanning one group-version

Discovery omits verbs and subresources that access rules can still refer to, so
what it lists is augmented:

- subresources named `*/status` and `*/finalizers` can be listed and watched;
- in version `v1` of the access-control group, roles and role bindings can be bound
  and roles escalated;
- every top-level resource has a `<name>/finalizers` subresource;
- the nodes of the core group's `v1` have a `nodes/metrics` subresource.
-/

namespace ApiSurface

/-- One resource as discovery lists it, before anything is known about its fields. -/
structure Discovered where
  name : Value
  namespaced : Value
  kind : Value
  verbs : Value

/-- What discovery answers for one group-version: a list, or nothing at all. -/
abbrev Listing := Option (List Discovered)

namespace Scan

/-- The group whose roles get extra verbs. -/
def rbacGroup : Text := "rbac.authorization.k8s.io"

/-- The verbs of a finalizers subresource. -/
def finalizerVerbs : List Text := ["update", "list", "watch"]

/-- The verbs of the node metrics subresource. -/
def nodeMetricsVerbs : List Text := ["get", "list", "watch"]

/-- Whether a group-version is the access-control one. -/
def isRbac (gv : GroupVersion) : Bool := gv.group == rbacGroup && gv.version == "v1"

/-- Whether a name is that of a subresource. Names that are no text are searched for a
slash among what they hold. -/
def isSubresource : Value → Except Misuse Bool
  | .text name => .ok (name.contains (.char '/'))
  | .list items => .ok (items.any (Value.isText "/"))
  | .record entries => .ok (entries.any fun entry => entry.1 == "/")
  | _ => .error .wrongType

/-- The endings of the names of subresources that can be listed. -/
def listableEndings : List Text := ["/status", "/finalizers"]

/-- Whether a subresource's name ends in one of the two that can be listed. -/
def isListable : Value → Except Misuse Bool
  | .text name => .ok (listableEndings.any fun ending => ending.isSuffixOf name)
  | _ => .error .missingMember

/-- The verbs discovery omits on subresources. -/
def subresourceVerbs (name : Value) (subresource : Bool) : Except Misuse (List Text) :=
  if subresource then
    match isListable name with
    | .ok listable => .ok (if listable then ["list", "watch"] else [])
    | .error kind => .error kind
  else .ok []

/-- The verbs discovery omits for a name in the access-control group. -/
def verbsOfRole (name : Value) : List Text :=
  if name.isText "roles" then ["bind", "escalate"]
  else if name.isText "rolebindings" then ["bind"]
  else []

/-- The verbs discovery omits on roles and role bindings. -/
def roleVerbs (gv : GroupVersion) (name : Value) : Except Misuse (List Text) :=
  if isRbac gv then
    if name.isLookupKey then .ok (verbsOfRole name) else .error .wrongType
  else .ok []

/-- The verbs of a discovered resource. -/
def discoveredVerbs (found : Discovered) : Except Misuse (List Value) := found.verbs.itemsIfGiven

/-- The kind of a discovered resource, empty if none is given. -/
def kindOf (found : Discovered) : Value := if found.kind.isTruthy then found.kind else .text ""

/-- The subresources discovery omits for a top-level resource. -/
def omitted (gv : GroupVersion) (resource : Resource) : List Resource :=
  { resource with
      name := .text (resource.name.toText ++ "/finalizers")
      verbs := finalizerVerbs.map .text } ::
    (if gv.group.isEmpty && gv.version == "v1" && resource.name.isText "nodes" then
      [{ resource with name := .text "nodes/metrics", verbs := nodeMetricsVerbs.map .text }]
    else [])

/-- A discovered resource with its omitted verbs, followed by its omitted subresources. -/
def augment (gv : GroupVersion) (found : Discovered) : Except Misuse (List Resource) := do
  let reported ← discoveredVerbs found
  let subresource ← isSubresource found.name
  let forSubresource ← subresourceVerbs found.name subresource
  let forRole ← roleVerbs gv found.name
  let resource : Resource :=
    { name := found.name
      namespaced := found.namespaced.isTruthy
      kind := kindOf found
      verbs := reported ++ (forSubresource ++ forRole).map .text }
  .ok (resource :: if subresource then [] else omitted gv resource)

/-- The resources of a group-version in the order discovered, up to the first that
cannot be read. -/
def augmentAll (gv : GroupVersion) : List Discovered → Except Misuse (List Resource)
  | [] => .ok []
  | found :: rest =>
    match augment gv found with
    | .error kind => .error kind
    | .ok resources =>
      match augmentAll gv rest with
      | .error kind => .error kind
      | .ok more => .ok (resources ++ more)

/-- The resources of a group-version. -/
def resources (gv : GroupVersion) (listing : Listing) : Except Misuse (List Resource) :=
  augmentAll gv (listing.getD [])

end Scan

end ApiSurface
