import Mathlib.Data.Finset.Dedup
import ApiSurface.Resource

/-!
# Signatures

What change detection sees of a resource: its name, scope and kind and the set of its
verbs. For resources whose fields are text two are alike exactly if their signatures
are equal, and whatever is alike to such a resource has text in its fields too.
-/

namespace ApiSurface

/-- What change detection sees of a resource. -/
@[ext]
structure Signature where
  name : Text
  namespaced : Bool
  kind : Text
  verbs : Finset Text
deriving DecidableEq

namespace Value

/-- The text that a value is, and the empty one for a value that is no text. -/
def textOrEmpty (v : Value) : Text := v.asText?.getD []

@[simp] theorem textOrEmpty_text (text : Text) : (Value.text text).textOrEmpty = text := rfl

/-- Only a text is the same as a text, whichever of the two is compared with the other. -/
theorem same_text_iff {v : Value} {text : Text} : v.same (.text text) = true ↔ v = .text text := by
  cases v <;> simp [same, asInteger?]

theorem text_same_iff {text : Text} {v : Value} :
    (Value.text text).same v = true ↔ v = .text text := by
  cases v with
  | text other =>
    simp only [same, beq_iff_eq, Value.text.injEq]
    exact eq_comm
  | _ => simp [same]

end Value

namespace Resource

/-- The signature of a resource. -/
def signature (r : Resource) : Signature where
  name := r.name.textOrEmpty
  namespaced := r.namespaced
  kind := r.kind.textOrEmpty
  verbs := (r.verbs.filterMap Value.asText?).toFinset

theorem mem_verbs_signature {r : Resource} {verb : Text} :
    verb ∈ r.signature.verbs ↔ Value.text verb ∈ r.verbs := by
  simp only [signature, List.mem_toFinset, List.mem_filterMap]
  constructor
  · rintro ⟨v, member, isVerb⟩
    cases v with
    | text t =>
      cases isVerb
      exact member
    | _ => cases isVerb
  · intro member
    exact ⟨_, member, rfl⟩

theorem WellTyped.isComparable {r : Resource} (typed : r.WellTyped) : r.isComparable = true := by
  obtain ⟨name, nameText⟩ := typed.name
  obtain ⟨kind, kindText⟩ := typed.kind
  have verbs : ∀ verb ∈ r.verbs, verb.isLookupKey = true := by
    intro verb member
    obtain ⟨text, rfl⟩ := typed.verbs verb member
    rfl
  simpa [Resource.isComparable, nameText, kindText, Value.isLookupKey] using verbs

/-- The verbs of one list are within those of a list of texts exactly if they are texts
of that list. -/
theorem verbsWithin_texts_iff {verbs others : List Value}
    (typed : ∀ verb ∈ others, ∃ text, verb = Value.text text) :
    verbsWithin verbs others = true ↔ verbs ⊆ others := by
  simp only [verbsWithin, List.all_eq_true, List.any_eq_true]
  constructor
  · intro within verb member
    obtain ⟨other, otherMember, same⟩ := within verb member
    obtain ⟨text, rfl⟩ := typed other otherMember
    rwa [Value.same_text_iff.mp same]
  · intro subset verb member
    obtain ⟨text, rfl⟩ := typed verb (subset member)
    exact ⟨_, subset member, Value.same_text_iff.mpr rfl⟩

/-- A list of texts is within another list exactly if that list holds all of them. -/
theorem texts_verbsWithin_iff {verbs others : List Value}
    (typed : ∀ verb ∈ verbs, ∃ text, verb = Value.text text) :
    verbsWithin verbs others = true ↔ verbs ⊆ others := by
  simp only [verbsWithin, List.all_eq_true, List.any_eq_true]
  constructor
  · intro within verb member
    obtain ⟨other, otherMember, same⟩ := within verb member
    obtain ⟨text, rfl⟩ := typed verb member
    rwa [← Value.text_same_iff.mp same]
  · intro subset verb member
    obtain ⟨text, rfl⟩ := typed verb member
    exact ⟨_, subset member, Value.text_same_iff.mpr rfl⟩

/-- Well-typed resources hold the same verbs exactly if their signatures do. -/
theorem WellTyped.verbs_subset_iff {r s : Resource} (typed : r.WellTyped) :
    r.verbs ⊆ s.verbs ↔ r.signature.verbs ⊆ s.signature.verbs := by
  constructor
  · intro subset verb member
    exact mem_verbs_signature.mpr (subset (mem_verbs_signature.mp member))
  · intro subset verb member
    obtain ⟨text, rfl⟩ := typed.verbs verb member
    exact mem_verbs_signature.mp (subset (mem_verbs_signature.mpr member))

/-- Whatever is alike to a well-typed resource is well-typed and has its signature, and
nothing else is alike to it. -/
theorem WellTyped.alike_iff {r s : Resource} (typed : r.WellTyped) :
    r.alike s = true ↔ s.WellTyped ∧ s.signature = r.signature := by
  obtain ⟨name, nameText⟩ := typed.name
  obtain ⟨kind, kindText⟩ := typed.kind
  simp only [alike, Bool.and_eq_true, beq_iff_eq, nameText, kindText, Value.text_same_iff,
    verbsWithin_texts_iff typed.verbs, texts_verbsWithin_iff typed.verbs]
  constructor
  · rintro ⟨⟨⟨⟨sameName, sameScope⟩, sameKind⟩, within⟩, contains⟩
    have typedOther : s.WellTyped :=
      ⟨⟨name, sameName⟩, ⟨kind, sameKind⟩, fun verb member => typed.verbs verb (contains member)⟩
    refine ⟨typedOther, Signature.ext ?_ ?_ ?_ ?_⟩
    · simp [signature, sameName, nameText]
    · exact sameScope.symm
    · simp [signature, sameKind, kindText]
    · exact (typedOther.verbs_subset_iff.mp contains).antisymm (typed.verbs_subset_iff.mp within)
  · rintro ⟨typedOther, sameSignature⟩
    obtain ⟨otherName, otherNameText⟩ := typedOther.name
    obtain ⟨otherKind, otherKindText⟩ := typedOther.kind
    obtain ⟨sameName, sameScope, sameKind, sameVerbs⟩ := Signature.ext_iff.mp sameSignature
    simp only [signature, nameText, kindText, otherNameText, otherKindText,
      Value.textOrEmpty_text] at sameName sameScope sameKind
    refine ⟨⟨⟨⟨?_, sameScope.symm⟩, ?_⟩, ?_⟩, ?_⟩
    · rw [otherNameText, sameName]
    · rw [otherKindText, sameKind]
    · exact typed.verbs_subset_iff.mpr sameVerbs.ge
    · exact typedOther.verbs_subset_iff.mpr sameVerbs.le

end Resource

end ApiSurface
