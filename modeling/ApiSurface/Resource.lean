import ApiSurface.Value.Number

/-!
# Resources

A resource is what a group-version serves under a name, or the subresource of one
under `<name>/<subresource>`. Its name, kind and verbs are kept as they came, since
the cluster's answer is not trusted to hold text there.

Two resources are *alike* if they agree in name, scope and kind and in the set of
their verbs; the order and repetition of verbs mean nothing.
-/

namespace ApiSurface

/-- A group and one of its versions. The core group has no name. -/
structure GroupVersion where
  group : Text
  version : Text
deriving DecidableEq, Repr

namespace GroupVersion

/-- The key of a group-version: the version alone for the core group. -/
def key (gv : GroupVersion) : Text :=
  if gv.group.isEmpty then gv.version else gv.group ++ "/" ++ gv.version

end GroupVersion

/-- One resource or subresource. -/
structure Resource where
  name : Value
  namespaced : Bool
  kind : Value
  verbs : List Value

namespace Resource

/-- Whether every value of one list has an equal one in another. -/
def verbsWithin (verbs others : List Value) : Bool :=
  verbs.all fun verb => others.any verb.same

/-- Whether two resources agree in name, scope, kind and set of verbs. -/
def alike (r s : Resource) : Bool :=
  r.name.same s.name && r.namespaced == s.namespaced && r.kind.same s.kind &&
    verbsWithin r.verbs s.verbs && verbsWithin s.verbs r.verbs

/-- Whether a resource can be compared with others: nothing in it may be a list or a
record. -/
def isComparable (r : Resource) : Bool :=
  r.name.isLookupKey && r.kind.isLookupKey && r.verbs.all Value.isLookupKey

/-- A resource whose name, kind and verbs are text. -/
structure WellTyped (r : Resource) : Prop where
  name : ∃ text, r.name = .text text
  kind : ∃ text, r.kind = .text text
  verbs : ∀ verb ∈ r.verbs, ∃ text, verb = .text text

end Resource

end ApiSurface
