import ApiSurface.Proofs.Snapshot.Reordering
import ApiSurface.Proofs.Scan.Augmentation
import ApiSurface.Proofs.Success

/-!
# Scanning keeps values tidy

What scanning stores of a listing is what was listed, taken apart into its items, or text.
So a tidy listing gives tidy resources.
-/

namespace ApiSurface

/-- No record or model in the fields of the discovered resource has a field twice. -/
structure Discovered.Tidy (found : Discovered) : Prop where
  name : found.name.Tidy
  kind : found.kind.Tidy
  verbs : found.verbs.Tidy

/-- Every discovered resource of the listing is tidy. -/
def Listing.Tidy (listing : Listing) : Prop := ∀ found ∈ listing.found, found.Tidy

/-- What a tidy value holds is tidy. -/
theorem Value.Tidy.items {v : Value} (tidy : v.Tidy) {items : List Value}
    (held : v.items? = .ok items) : ∀ item ∈ items, item.Tidy := by
  cases v with
  | list held' =>
    cases held
    exact tidyItems_iff.mp tidy
  | record entries =>
    cases held
    intro item member
    obtain ⟨entry, _, rfl⟩ := List.mem_map.mp member
    trivial
  | text s =>
    cases held
    intro item member
    obtain ⟨point, _, rfl⟩ := List.mem_map.mp member
    trivial
  | _ => cases held

namespace Scan

variable {gv : GroupVersion} {found : Discovered} {resources : List Resource}

/-- The verbs of a tidy resource are tidy. -/
theorem tidy_discoveredVerbs (tidy : found.Tidy) {verbs : List Value}
    (listed : discoveredVerbs found = .ok verbs) : ∀ verb ∈ verbs, verb.Tidy := by
  unfold discoveredVerbs Value.itemsIfGiven at listed
  split at listed
  · exact tidy.verbs.items listed
  · cases listed
    exact nofun

theorem tidy_kindOf (tidy : found.Tidy) : (kindOf found).Tidy := by
  unfold kindOf
  split
  · exact tidy.kind
  · trivial

theorem tidy_texts (texts : List Text) : ∀ verb ∈ texts.map Value.text, verb.Tidy := by
  intro verb member
  obtain ⟨text, _, rfl⟩ := List.mem_map.mp member
  trivial

/-- Discovered resources whose fields are text are tidy. -/
theorem tidy_ofTexts (name : Text) (namespaced : Bool) (kind : Text) (verbs : List Text) :
    (Discovered.ofTexts name namespaced kind verbs).Tidy :=
  ⟨trivial, trivial, Value.tidyItems_iff.mpr (tidy_texts verbs)⟩

/-- The omitted subresources of a tidy resource are tidy. -/
theorem tidy_omitted {resource : Resource} (tidy : resource.Tidy) :
    ∀ r ∈ omitted gv resource, r.Tidy := by
  intro r member
  rcases List.mem_cons.mp member with rfl | metrics
  · exact ⟨trivial, tidy.kind, tidy_texts _⟩
  · split at metrics
    · cases List.mem_singleton.mp metrics
      exact ⟨trivial, tidy.kind, tidy_texts _⟩
    · cases metrics

/-- What a discovered resource is augmented to: itself, with more verbs, and what is omitted. -/
theorem augment_cases (augmented : augment gv found = .ok resources) :
    ∃ (reported : List Value) (added : List Text) (resource : Resource),
      discoveredVerbs found = .ok reported ∧
        resource = ⟨found.name, found.namespaced.isTruthy, kindOf found,
          reported ++ added.map .text⟩ ∧
        ∀ r ∈ resources, r = resource ∨ r ∈ omitted gv resource := by
  obtain ⟨reported, listed, augmented⟩ := bind_eq_ok_iff.mp augmented
  obtain ⟨subresource, _, augmented⟩ := bind_eq_ok_iff.mp augmented
  obtain ⟨forSubresource, _, augmented⟩ := bind_eq_ok_iff.mp augmented
  obtain ⟨forRole, _, augmented⟩ := bind_eq_ok_iff.mp augmented
  refine ⟨reported, forSubresource ++ forRole, _, listed, rfl, fun r member => ?_⟩
  cases augmented
  rcases List.mem_cons.mp member with itself | more
  · exact .inl itself
  · split at more
    · cases more
    · exact .inr more

theorem tidy_augment (tidy : found.Tidy) (augmented : augment gv found = .ok resources) :
    ∀ r ∈ resources, r.Tidy := by
  obtain ⟨reported, added, resource, listed, rfl, cases⟩ := augment_cases augmented
  have tidyResource : Resource.Tidy ⟨found.name, found.namespaced.isTruthy, kindOf found,
      reported ++ added.map .text⟩ := by
    refine ⟨tidy.name, tidy_kindOf tidy, fun verb member => ?_⟩
    rcases List.mem_append.mp member with here | more
    · exact tidy_discoveredVerbs tidy listed verb here
    · exact tidy_texts added verb more
  intro r member
  rcases cases r member with rfl | more
  · exact tidyResource
  · exact tidy_omitted tidyResource r more

theorem tidy_augmentAll {listed : List Discovered} (tidy : ∀ found ∈ listed, found.Tidy)
    (augmented : augmentAll gv listed = .ok resources) : ∀ r ∈ resources, r.Tidy := by
  induction listed generalizing resources with
  | nil =>
    cases augmented
    exact nofun
  | cons found rest ih =>
    obtain ⟨tidyHere, tidyRest⟩ := List.forall_mem_cons.mp tidy
    rw [augmentAll] at augmented
    cases here : augment gv found with
    | error kind => simp [here] at augmented
    | ok first =>
      cases there : augmentAll gv rest with
      | error kind => simp [here, there] at augmented
      | ok more =>
        simp only [here, there, Except.ok.injEq] at augmented
        intro r member
        rw [← augmented] at member
        rcases List.mem_append.mp member with inFirst | inMore
        · exact tidy_augment tidyHere here r inFirst
        · exact ih tidyRest there r inMore

/-- A tidy listing gives tidy resources. -/
theorem tidy_resources {listing : Listing} (tidy : listing.Tidy)
    (scanned : Scan.resources gv listing = .ok resources) : ∀ r ∈ resources, r.Tidy :=
  tidy_augmentAll tidy scanned

end Scan

end ApiSurface
