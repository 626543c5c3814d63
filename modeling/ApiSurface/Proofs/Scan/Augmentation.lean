import Mathlib.Data.Finset.Dedup
import Mathlib.Data.Finset.Lattice.Lemmas
import Mathlib.Data.Finset.SDiff
import Mathlib.Data.Multiset.Bind
import ApiSurface.Proofs.Snapshot.Signature
import ApiSurface.Scan

/-!
# What scanning adds

For a well-typed listing a scan always succeeds, and as a multiset its result is what
was reported, with the verbs that discovery omits, together with the subresources that
discovery omits. The latter are determined by the former and are never top-level, so
the reported entries can be read off the result (`Scan.eq_of_add_bind_eq`).
-/

namespace ApiSurface

/-- A discovered resource as the cluster documents it: its name is text, its kind text or
null, its verbs a list of texts or null. -/
structure Discovered.WellTyped (found : Discovered) : Prop where
  name : ∃ text, found.name = .text text
  kind : found.kind = .null ∨ ∃ text, found.kind = .text text
  verbs : found.verbs = .null ∨ ∃ verbs : List Text, found.verbs = .list (verbs.map .text)

/-- A discovered resource with all its fields given as documented. -/
def Discovered.ofTexts (name : Text) (namespaced : Bool) (kind : Text) (verbs : List Text) :
    Discovered :=
  { name := .text name, namespaced := .bool namespaced, kind := .text kind
    verbs := .list (verbs.map .text) }

theorem Discovered.wellTyped_ofTexts (name : Text) (namespaced : Bool) (kind : Text)
    (verbs : List Text) : (ofTexts name namespaced kind verbs).WellTyped :=
  ⟨⟨name, rfl⟩, .inr ⟨kind, rfl⟩, .inr ⟨verbs, rfl⟩⟩

/-- The discovered resources of a listing; a missing listing has none. -/
def Listing.found (listing : Listing) : List Discovered := listing.getD []

/-- Every discovered resource of a listing is well-typed. -/
def Listing.WellTyped (listing : Listing) : Prop := ∀ found ∈ listing.found, found.WellTyped

namespace Scan

/-! ## Names -/

/-- A name with a slash, which is that of a subresource. -/
def HasSlash (name : Text) : Prop := CodePoint.char '/' ∈ name

instance (name : Text) : Decidable (HasSlash name) :=
  inferInstanceAs (Decidable (CodePoint.char '/' ∈ name))

theorem isSubresource_text (name : Text) :
    isSubresource (.text name) = .ok (decide (HasSlash name)) := by
  rw [isSubresource, Except.ok.injEq, Bool.eq_iff_iff, decide_eq_true_iff]
  exact List.contains_iff_mem

theorem HasSlash.append_right {name : Text} (slash : HasSlash name) (front : Text) :
    HasSlash (front ++ name) :=
  List.mem_append_right front slash

theorem hasSlash_finalizers : HasSlash "/finalizers" := by decide

/-- Whether a name ends in one of the two that can be listed. -/
def EndsListable (name : Text) : Prop :=
  Text.ofString "/status" <:+ name ∨ Text.ofString "/finalizers" <:+ name

instance (name : Text) : Decidable (EndsListable name) :=
  inferInstanceAs (Decidable (_ ∨ _))

theorem EndsListable.hasSlash {name : Text} (ends : EndsListable name) : HasSlash name := by
  rcases ends with ⟨front, rfl⟩ | ⟨front, rfl⟩
  · exact HasSlash.append_right (by decide) front
  · exact HasSlash.append_right (by decide) front

theorem isListable_text (name : Text) :
    isListable (.text name) = .ok (decide (EndsListable name)) := by
  rw [isListable, Except.ok.injEq, Bool.eq_iff_iff, decide_eq_true_iff]
  simp [listableEndings, EndsListable]

/-! ## Verbs -/

/-- The access-control group-version. -/
def rbac : GroupVersion := ⟨rbacGroup, "v1"⟩

theorem isRbac_iff {gv : GroupVersion} : isRbac gv = true ↔ gv = rbac := by
  cases gv
  simp [isRbac, rbac]

/-- The verbs that scanning adds to the entry of a name: `list` and `watch` where it ends in
`/status` or `/finalizers`; `bind` on roles and role bindings and `escalate` on roles of the
access-control group-version; and none elsewhere. -/
def addedVerbs (gv : GroupVersion) (name : Text) : Finset Text :=
  (if EndsListable name then {Text.ofString "list", Text.ofString "watch"} else ∅) ∪
    (if gv = rbac ∧ (name = Text.ofString "roles" ∨ name = Text.ofString "rolebindings") then
      {Text.ofString "bind"} else ∅) ∪
    (if gv = rbac ∧ name = Text.ofString "roles" then {Text.ofString "escalate"} else ∅)

theorem subresourceVerbs_text (name : Text) :
    subresourceVerbs (.text name) (decide (HasSlash name)) =
      .ok (if EndsListable name then ["list", "watch"] else []) := by
  rw [subresourceVerbs, isListable_text]
  by_cases ends : EndsListable name
  · simp [ends, ends.hasSlash]
  · simp [ends]

theorem roleVerbs_text (gv : GroupVersion) (name : Text) :
    roleVerbs gv (.text name) = .ok (if gv = rbac then verbsOfRole (.text name) else []) := by
  rw [roleVerbs]
  by_cases isAccess : gv = rbac
  · rw [if_pos (isRbac_iff.mpr isAccess), if_pos isAccess]
    rfl
  · have other : isRbac gv = false := by
      rw [← Bool.not_eq_true, isRbac_iff]
      exact isAccess
    simp [other, isAccess]

/-- The verbs added to the entry of a name, in the order in which they are added. -/
def verbsAdded (gv : GroupVersion) (name : Text) : List Text :=
  ((if EndsListable name then ["list", "watch"] else []) : List Text) ++
    if gv = rbac then verbsOfRole (.text name) else []

theorem toFinset_verbsAdded (gv : GroupVersion) (name : Text) :
    (verbsAdded gv name).toFinset = addedVerbs gv name := by
  have distinct : Text.ofString "rolebindings" ≠ Text.ofString "roles" := by decide
  rw [verbsAdded, List.toFinset_append, addedVerbs, Finset.union_assoc]
  congr 1
  · split <;> rfl
  · by_cases isAccess : gv = rbac
    · by_cases roles : name = Text.ofString "roles"
      · simp [verbsOfRole, Value.isText, isAccess, roles]
      · by_cases bindings : name = Text.ofString "rolebindings"
        · simp [verbsOfRole, Value.isText, isAccess, bindings, distinct]
        · simp [verbsOfRole, Value.isText, isAccess, roles, bindings]
    · simp [isAccess]

/-! ## One discovered resource -/

/-- The texts among the reported verbs. -/
def reportedVerbs (found : Discovered) : List Text :=
  match found.verbs with
  | .list verbs => verbs.filterMap Value.asText?
  | _ => []

/-- The signature under which a discovered resource is stored, with the verbs added to it. -/
def storedSignature (gv : GroupVersion) (found : Discovered) : Signature where
  name := found.name.textOrEmpty
  namespaced := found.namespaced.isTruthy
  kind := found.kind.textOrEmpty
  verbs := (reportedVerbs found).toFinset ∪ addedVerbs gv found.name.textOrEmpty

/-- The signatures of the subresources that discovery omits for a resource. -/
def omittedSignatures (gv : GroupVersion) (stored : Signature) : Multiset Signature :=
  if HasSlash stored.name then 0
  else
    { stored with
      name := stored.name ++ Text.ofString "/finalizers"
      verbs := finalizerVerbs.toFinset } ::ₘ
      if gv = ⟨[], "v1"⟩ ∧ stored.name = Text.ofString "nodes" then
        {{ stored with
            name := Text.ofString "nodes/metrics"
            verbs := nodeMetricsVerbs.toFinset }}
      else 0

theorem discoveredVerbs_of_wellTyped {found : Discovered} (typed : found.WellTyped) :
    discoveredVerbs found = .ok ((reportedVerbs found).map .text) := by
  rcases typed.verbs with null | ⟨verbs, list⟩
  · simp [discoveredVerbs, reportedVerbs, null, Value.itemsIfGiven, Value.isTruthy]
  · have texts : (verbs.map Value.text).filterMap Value.asText? = verbs := by
      rw [List.filterMap_map]
      exact List.filterMap_some
    cases verbs with
    | nil => simp [discoveredVerbs, reportedVerbs, list, Value.itemsIfGiven, Value.isTruthy]
    | cons verb verbs =>
      simp only [discoveredVerbs, reportedVerbs, list, texts]
      rfl

theorem kindOf_of_wellTyped {found : Discovered} (typed : found.WellTyped) :
    kindOf found = .text found.kind.textOrEmpty := by
  rcases typed.kind with null | ⟨kind, text⟩
  · simp [kindOf, null, Value.isTruthy, Value.textOrEmpty, Value.asText?, Text.ofString,
      Text.ofChars]
  · cases kind with
    | nil => simp [kindOf, text, Value.isTruthy, Text.ofString, Text.ofChars]
    | cons point rest => simp [kindOf, text, Value.isTruthy]

/-- A resource made of texts. -/
def resourceOfTexts (name : Text) (namespaced : Bool) (kind : Text) (verbs : List Text) :
    Resource :=
  { name := .text name, namespaced, kind := .text kind, verbs := verbs.map .text }

theorem wellTyped_resourceOfTexts (name : Text) (namespaced : Bool) (kind : Text)
    (verbs : List Text) : (resourceOfTexts name namespaced kind verbs).WellTyped where
  name := ⟨name, rfl⟩
  kind := ⟨kind, rfl⟩
  verbs := by
    intro verb member
    obtain ⟨text, _, rfl⟩ := List.mem_map.mp member
    exact ⟨text, rfl⟩

theorem signature_resourceOfTexts (name : Text) (namespaced : Bool) (kind : Text)
    (verbs : List Text) :
    (resourceOfTexts name namespaced kind verbs).signature =
      ⟨name, namespaced, kind, verbs.toFinset⟩ := by
  have texts : (verbs.map Value.text).filterMap Value.asText? = verbs := by
    rw [List.filterMap_map]
    exact List.filterMap_some
  simp [Resource.signature, resourceOfTexts, texts]

/-- The omitted subresources of a resource made of texts are made of texts. -/
theorem omitted_resourceOfTexts (gv : GroupVersion) (name : Text) (namespaced : Bool) (kind : Text)
    (verbs : List Text) :
    omitted gv (resourceOfTexts name namespaced kind verbs) =
      resourceOfTexts (name ++ "/finalizers") namespaced kind finalizerVerbs ::
        if gv = ⟨[], "v1"⟩ ∧ name = Text.ofString "nodes" then
          [resourceOfTexts "nodes/metrics" namespaced kind nodeMetricsVerbs]
        else [] := by
  obtain ⟨group, version⟩ := gv
  simp [omitted, resourceOfTexts, Value.toText, Value.isText, and_assoc]

/-- What is stored of a discovered resource itself. -/
def ownEntry (gv : GroupVersion) (found : Discovered) : Resource :=
  resourceOfTexts found.name.textOrEmpty found.namespaced.isTruthy found.kind.textOrEmpty
    (reportedVerbs found ++ verbsAdded gv found.name.textOrEmpty)

theorem signature_ownEntry (gv : GroupVersion) (found : Discovered) :
    (ownEntry gv found).signature = storedSignature gv found := by
  rw [ownEntry, signature_resourceOfTexts, List.toFinset_append, toFinset_verbsAdded]
  rfl

/-- A well-typed resource is stored, and followed by the omitted subresources if it is top-level. -/
theorem augment_eq_of_wellTyped (gv : GroupVersion) {found : Discovered}
    (typed : found.WellTyped) :
    augment gv found = .ok (ownEntry gv found ::
      if HasSlash found.name.textOrEmpty then [] else omitted gv (ownEntry gv found)) := by
  obtain ⟨name, nameText⟩ := typed.name
  simp [augment, nameText, discoveredVerbs_of_wellTyped typed, isSubresource_text,
    subresourceVerbs_text, roleVerbs_text, kindOf_of_wellTyped typed, bind, Except.bind,
    ownEntry, resourceOfTexts, verbsAdded]

/-- A well-typed resource is always augmented: by the verbs and the subresources that
discovery omits. -/
theorem augment_of_wellTyped (gv : GroupVersion) {found : Discovered} (typed : found.WellTyped) :
    ∃ resources, augment gv found = .ok resources ∧ (∀ r ∈ resources, r.WellTyped) ∧
      (resources.map Resource.signature : Multiset Signature) =
        storedSignature gv found ::ₘ omittedSignatures gv (storedSignature gv found) := by
  refine ⟨_, augment_eq_of_wellTyped gv typed, ?_, ?_⟩
  · intro r member
    simp only [ownEntry, omitted_resourceOfTexts] at member
    split at member <;> (try split at member) <;>
      simp only [List.mem_cons, List.not_mem_nil, or_false] at member
    · exact member ▸ wellTyped_resourceOfTexts ..
    · rcases member with rfl | rfl | rfl <;> exact wellTyped_resourceOfTexts ..
    · rcases member with rfl | rfl <;> exact wellTyped_resourceOfTexts ..
  · rw [List.map_cons, ← Multiset.cons_coe, signature_ownEntry, omittedSignatures]
    congr 1
    by_cases slash : HasSlash found.name.textOrEmpty
    · simp [slash, storedSignature]
    · have slashStored : ¬ HasSlash (storedSignature gv found).name := slash
      rw [if_neg slash, if_neg slashStored, ownEntry, omitted_resourceOfTexts]
      simp only [List.map_cons, signature_resourceOfTexts, ← Multiset.cons_coe]
      congr 1
      simp only [storedSignature]
      by_cases nodes : gv = ⟨[], "v1"⟩ ∧ found.name.textOrEmpty = Text.ofString "nodes"
      · simp [nodes, signature_resourceOfTexts]
      · simp only [nodes, if_false]
        rfl

/-! ## A whole listing -/

/-- The signatures under which the discovered resources of a listing are stored. -/
def stored (gv : GroupVersion) (listing : Listing) : Multiset Signature :=
  listing.found.map (storedSignature gv)

/-- The signatures that a scan of a listing gives: the stored ones and those omitted. -/
def served (gv : GroupVersion) (listing : Listing) : Multiset Signature :=
  stored gv listing + (stored gv listing).bind (omittedSignatures gv)

theorem augmentAll_of_wellTyped {gv : GroupVersion} {found : List Discovered}
    (typed : ∀ one ∈ found, one.WellTyped) :
    ∃ resources, augmentAll gv found = .ok resources ∧ (∀ r ∈ resources, r.WellTyped) ∧
      (resources.map Resource.signature : Multiset Signature) =
        found.map (storedSignature gv) +
          (found.map (storedSignature gv) : Multiset Signature).bind (omittedSignatures gv) := by
  induction found with
  | nil => exact ⟨[], rfl, by simp, rfl⟩
  | cons one rest ih =>
    obtain ⟨here, augmented, typedHere, signaturesHere⟩ :=
      augment_of_wellTyped gv (typed one List.mem_cons_self)
    obtain ⟨more, augmentedRest, typedRest, signaturesRest⟩ :=
      ih fun other member => typed other (List.mem_cons_of_mem _ member)
    refine ⟨here ++ more, by rw [augmentAll, augmented, augmentedRest], ?_, ?_⟩
    · intro r member
      rcases List.mem_append.mp member with inHere | inMore
      · exact typedHere r inHere
      · exact typedRest r inMore
    · rw [List.map_append, ← Multiset.coe_add, signaturesHere, signaturesRest, List.map_cons,
        ← Multiset.cons_coe, Multiset.cons_bind, Multiset.cons_add, Multiset.cons_add,
        add_left_comm]

/-- A well-typed listing is always scanned, and gives the signatures it serves. -/
theorem resources_of_wellTyped (gv : GroupVersion) {listing : Listing}
    (typed : listing.WellTyped) :
    ∃ resources, Scan.resources gv listing = .ok resources ∧ (∀ r ∈ resources, r.WellTyped) ∧
      (resources.map Resource.signature : Multiset Signature) = served gv listing :=
  augmentAll_of_wellTyped typed

/-! ## Reading the listing off the result -/

/-- The signatures omitted for a resource are never those of top-level resources. -/
theorem hasSlash_of_mem_omittedSignatures {gv : GroupVersion} {stored signature : Signature}
    (member : signature ∈ omittedSignatures gv stored) : HasSlash signature.name := by
  rw [omittedSignatures] at member
  split at member
  · simp at member
  · rcases Multiset.mem_cons.mp member with rfl | metrics
    · exact hasSlash_finalizers.append_right stored.name
    · split at metrics
      · have slash : HasSlash "nodes/metrics" := by decide
        exact Multiset.mem_singleton.mp metrics ▸ slash
      · simp at metrics

/-- Nothing is omitted for a subresource. -/
theorem omittedSignatures_of_hasSlash {gv : GroupVersion} {stored : Signature}
    (slash : HasSlash stored.name) : omittedSignatures gv stored = 0 := by
  rw [omittedSignatures, if_pos slash]

/-- A multiset is determined by itself together with what is derived from its members, if
only the members of some kind have anything derived from them and nothing derived is of
that kind. -/
theorem eq_of_add_bind_eq {α : Type} (kind : α → Prop) {derived : α → Multiset α}
    (derivedOther : ∀ x, ∀ y ∈ derived x, ¬ kind y) (otherBare : ∀ x, ¬ kind x → derived x = 0)
    {xs ys : Multiset α} (same : xs + xs.bind derived = ys + ys.bind derived) : xs = ys := by
  classical
  -- Only the members of the kind survive a filter, and they determine all that is derived.
  have filtered : ∀ zs : Multiset α,
      (zs + zs.bind derived).filter kind = zs.filter kind := by
    intro zs
    have none : (zs.bind derived).filter kind = 0 := by
      rw [Multiset.filter_eq_nil]
      intro y member
      obtain ⟨x, _, derivedFrom⟩ := Multiset.mem_bind.mp member
      exact derivedOther x y derivedFrom
    rw [Multiset.filter_add, none, add_zero]
  have fromKind : ∀ zs : Multiset α, (zs.filter kind).bind derived = zs.bind derived := by
    intro zs
    rw [Multiset.bind_filter]
    refine Multiset.bind_congr fun x _ => ?_
    by_cases ofKind : kind x
    · rw [if_pos ofKind]
    · rw [if_neg ofKind, otherBare x ofKind]
  have sameKind : xs.filter kind = ys.filter kind := by
    rw [← filtered xs, ← filtered ys, same]
  have sameDerived : xs.bind derived = ys.bind derived := by
    rw [← fromKind xs, ← fromKind ys, sameKind]
  rw [sameDerived] at same
  exact add_right_cancel same

/-- What a scan gives determines what was stored. -/
theorem stored_eq_of_served_eq {gv : GroupVersion} {listing other : Listing}
    (same : served gv listing = served gv other) : stored gv listing = stored gv other := by
  refine eq_of_add_bind_eq (fun signature => ¬ HasSlash signature.name) ?_ ?_ same
  · intro stored signature member
    exact not_not.mpr (hasSlash_of_mem_omittedSignatures member)
  · intro stored slash
    exact omittedSignatures_of_hasSlash (not_not.mp slash)

/-- A signature without the verbs that scanning adds under its name. -/
def withoutAdded (gv : GroupVersion) (signature : Signature) : Signature :=
  { signature with verbs := signature.verbs \ addedVerbs gv signature.name }

/-- The signature of a discovered resource as it was reported. -/
def reportedSignature (found : Discovered) : Signature where
  name := found.name.textOrEmpty
  namespaced := found.namespaced.isTruthy
  kind := found.kind.textOrEmpty
  verbs := (reportedVerbs found).toFinset

/-- What discovery reported in a listing, up to the verbs that scanning adds. -/
def reported (gv : GroupVersion) (listing : Listing) : Multiset Signature :=
  listing.found.map fun found => withoutAdded gv (reportedSignature found)

theorem reported_eq_map_stored (gv : GroupVersion) (listing : Listing) :
    reported gv listing = (stored gv listing).map (withoutAdded gv) := by
  rw [stored, Multiset.map_coe, List.map_map, reported]
  refine congrArg _ (List.map_congr_left fun found _ => ?_)
  simp [withoutAdded, reportedSignature, storedSignature, Finset.union_sdiff_right]

/-- What a scan gives determines what discovery reported, up to the verbs that scanning adds. -/
theorem reported_eq_of_served_eq {gv : GroupVersion} {listing other : Listing}
    (same : served gv listing = served gv other) : reported gv listing = reported gv other := by
  rw [reported_eq_map_stored, reported_eq_map_stored, stored_eq_of_served_eq same]

end Scan

end ApiSurface
