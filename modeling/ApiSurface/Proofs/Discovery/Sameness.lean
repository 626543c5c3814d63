import Mathlib.Data.Multiset.MapFold
import Mathlib.Data.Multiset.ZeroCons
import ApiSurface.Proofs.Discovery.Answers

/-!
# Answers that say the same

Discovery answers in no particular order, may repeat a verb and may leave an empty kind
and an empty list of verbs out. Answers are *the same* if they differ in nothing else.
The order is lost in multisets, repetitions are lost in the sets of verbs of signatures,
and what is left out is read as empty; so the same answers merge into snapshots that
agree, however often a name or a key is repeated in them.
-/

namespace ApiSurface

/-- Two discovered resources of the same name, scope and kind and with the same verbs, in any
order and number. A missing kind is empty, and missing verbs are none. -/
structure Discovered.Same (found other : Discovered) : Prop where
  name : found.name = other.name
  namespaced : found.namespaced = other.namespaced
  kind : found.kind.textOrEmpty = other.kind.textOrEmpty
  verbs : ∀ verb, verb ∈ Scan.reportedVerbs found ↔ verb ∈ Scan.reportedVerbs other

/-- Listings of the same resources, in any order. -/
def Listing.Same (listing other : Listing) : Prop :=
  Multiset.Rel Discovered.Same (listing.found : Multiset Discovered) other.found

/-- Answers with the same listings for the same group-versions, in any order. -/
def Answers.Same (answers others : Answers) : Prop :=
  Multiset.Rel (fun answer other : GroupVersion × Listing =>
      answer.1 = other.1 ∧ Listing.Same answer.2 other.2)
    (answers : Multiset (GroupVersion × Listing)) (others : Multiset (GroupVersion × Listing))

/-- Multisets of related members have the same images under functions that agree on related
members. -/
theorem map_eq_map_of_rel {α β γ : Type} {related : α → β → Prop} {f : α → γ} {g : β → γ}
    {xs : Multiset α} {ys : Multiset β} (rel : Multiset.Rel related xs ys)
    (agree : ∀ x y, related x y → f x = g y) : xs.map f = ys.map g := by
  rw [← Multiset.rel_eq, Multiset.rel_map]
  exact rel.mono fun x _ y _ => agree x y

namespace Discovered.Same

variable {found other : Discovered}

/-- Verbs in another order and number make no difference. -/
theorem ofTexts {name : Text} {namespaced : Bool} {kind : Text} {verbs others : List Text}
    (same : ∀ verb, verb ∈ verbs ↔ verb ∈ others) :
    (Discovered.ofTexts name namespaced kind verbs).Same
      (Discovered.ofTexts name namespaced kind others) where
  name := rfl
  namespaced := rfl
  kind := rfl
  verbs := by
    simpa [Scan.reportedVerbs, Discovered.ofTexts, List.filterMap_map, Function.comp_def,
      Value.asText?] using same

/-- The same resources are stored under the same signature. -/
theorem storedSignature_eq (same : found.Same other) (gv : GroupVersion) :
    Scan.storedSignature gv found = Scan.storedSignature gv other := by
  have verbs : (Scan.reportedVerbs found).toFinset = (Scan.reportedVerbs other).toFinset := by
    ext verb
    rw [List.mem_toFinset, List.mem_toFinset, same.verbs]
  simp only [Scan.storedSignature, same.name, same.namespaced, same.kind, verbs]

end Discovered.Same

namespace Listing.Same

variable {listing other : Listing}

/-- The same listings are stored alike, and so serve the same. -/
theorem served_eq (same : listing.Same other) (gv : GroupVersion) :
    Scan.served gv listing = Scan.served gv other := by
  have stored : Scan.stored gv listing = Scan.stored gv other :=
    map_eq_map_of_rel same fun _ _ sameOne => sameOne.storedSignature_eq gv
  rw [Scan.served, Scan.served, stored]

end Listing.Same

namespace Answers.Same

variable {answers others : Answers} {s t : Snapshot}

/-- The same listing for group-versions in another order. -/
theorem of_perm {groups others : List GroupVersion} {listing other : Listing}
    (perm : groups.Perm others) (same : listing.Same other) :
    Answers.Same (groups.map fun gv => (gv, listing)) (others.map fun gv => (gv, other)) := by
  rw [Answers.Same, ← Multiset.map_coe, ← Multiset.map_coe, Multiset.coe_eq_coe.mpr perm,
    Multiset.rel_map]
  exact Multiset.rel_refl_of_refl_on fun gv _ => ⟨rfl, same⟩

/-- The same answers are about the same group-versions, each as often. -/
theorem groupVersions_perm (same : answers.Same others) :
    answers.groupVersions.Perm others.groupVersions := by
  rw [← Multiset.coe_eq_coe]
  exact map_eq_map_of_rel same fun _ _ sameOne => sameOne.1

/-- The same answers serve the same under every key. -/
theorem servedAt_eq (same : answers.Same others) (key : Text) :
    answers.servedAt key = others.servedAt key := by
  have served : ∀ answer other : GroupVersion × Listing,
      answer.1 = other.1 ∧ Listing.Same answer.2 other.2 →
        (if key = answer.1.key then Scan.served answer.1 answer.2 else 0) =
          if key = other.1.key then Scan.served other.1 other.2 else 0 := by
    rintro ⟨gv, listing⟩ ⟨_, other⟩ ⟨rfl, sameListing⟩
    rw [sameListing.served_eq gv]
  rw [servedAt, servedAt, ← Multiset.sum_coe, ← Multiset.sum_coe, ← Multiset.map_coe,
    ← Multiset.map_coe, map_eq_map_of_rel same served]

/-- The same well-typed answers merge into snapshots that agree. -/
theorem agrees (same : answers.Same others) (typed : answers.WellTyped)
    (typedOthers : others.WellTyped) (merged : answers.merged = .ok s)
    (mergedOthers : others.merged = .ok t) : s.Agrees t := by
  obtain ⟨_, mergedHere, _, keys, served⟩ := typed.merged
  obtain ⟨_, mergedThere, _, keysOthers, servedOthers⟩ := typedOthers.merged
  cases merged.symm.trans mergedHere
  cases mergedOthers.symm.trans mergedThere
  constructor
  · intro key
    simp only [keys, keysOthers, same.groupVersions_perm.mem_iff]
  · intro key
    calc s.signaturesAt key
        = answers.servedAt key := served key
      _ = others.servedAt key := same.servedAt_eq key
      _ = t.signaturesAt key := (servedOthers key).symm

end Answers.Same

end ApiSurface
