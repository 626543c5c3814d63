import ApiSurface.Proofs.Snapshot.Equality

/-!
# Snapshots in another order

Being alike is an equivalence of tidy resources, whatever their fields hold. So the
pairing up of resources finds its way through any order of them, and comparing a snapshot
with one that holds the same resources in another order fails if something in them cannot
be compared, and finds them equal otherwise.
-/

namespace ApiSurface

namespace Resource

/-- No record or model in the fields of the resource has a field twice. -/
structure Tidy (r : Resource) : Prop where
  name : r.name.Tidy
  kind : r.kind.Tidy
  verbs : ∀ verb ∈ r.verbs, verb.Tidy

theorem verbsWithin_iff {verbs others : List Value} :
    verbsWithin verbs others = true ↔
      ∀ verb ∈ verbs, ∃ other ∈ others, verb.same other = true := by
  simp [verbsWithin]

/-- Verbs within equal verbs are within those. -/
theorem verbsWithin_trans {verbs others more : List Value} (tidy : ∀ verb ∈ verbs, verb.Tidy)
    (tidyOthers : ∀ verb ∈ others, verb.Tidy) (within : verbsWithin verbs others = true)
    (withinMore : verbsWithin others more = true) : verbsWithin verbs more = true := by
  rw [verbsWithin_iff] at within withinMore ⊢
  intro verb member
  obtain ⟨other, otherMember, same⟩ := within verb member
  obtain ⟨third, thirdMember, sameThird⟩ := withinMore other otherMember
  refine ⟨third, thirdMember, ?_⟩
  rw [Value.same_congr verb (tidy verb member) other (tidyOthers other otherMember) same]
  exact sameThird

namespace Tidy

variable {r s t : Resource}

/-- A tidy resource is alike to itself. -/
theorem alike_refl (tidy : r.Tidy) : r.alike r = true := by
  have verbs : verbsWithin r.verbs r.verbs = true :=
    verbsWithin_iff.mpr fun verb member =>
      ⟨verb, member, Value.same_refl verb (tidy.verbs _ member)⟩
  simp [alike, Value.same_refl _ tidy.name, Value.same_refl _ tidy.kind, verbs]

/-- What a tidy resource is alike to is alike to it. -/
theorem alike_symm (tidy : r.Tidy) (tidyOther : s.Tidy) (alike : r.alike s = true) :
    s.alike r = true := by
  simp only [Resource.alike, Bool.and_eq_true, beq_iff_eq] at alike ⊢
  obtain ⟨⟨⟨⟨name, scope⟩, kind⟩, within⟩, contains⟩ := alike
  exact ⟨⟨⟨⟨Value.same_symm tidy.name tidyOther.name name, scope.symm⟩,
    Value.same_symm tidy.kind tidyOther.kind kind⟩, contains⟩, within⟩

theorem alike_trans (tidy : r.Tidy) (tidyOther : s.Tidy) (tidyThird : t.Tidy)
    (first : r.alike s = true) (second : s.alike t = true) : r.alike t = true := by
  simp only [Resource.alike, Bool.and_eq_true, beq_iff_eq] at first second ⊢
  obtain ⟨⟨⟨⟨name, scope⟩, kind⟩, within⟩, contains⟩ := first
  obtain ⟨⟨⟨⟨nameThird, scopeThird⟩, kindThird⟩, withinThird⟩, containsThird⟩ := second
  refine ⟨⟨⟨⟨?_, scope.trans scopeThird⟩, ?_⟩, ?_⟩, ?_⟩
  · rw [Value.same_congr _ tidy.name _ tidyOther.name name, nameThird]
  · rw [Value.same_congr _ tidy.kind _ tidyOther.kind kind, kindThird]
  · exact verbsWithin_trans tidy.verbs tidyOther.verbs within withinThird
  · exact verbsWithin_trans tidyThird.verbs tidyOther.verbs containsThird contains

end Tidy

end Resource

namespace Snapshot

/-- Where being alike is an equivalence, lists with the same members in any order pair up. -/
theorem pairsUp_of_perm {α : Type} {alike : α → α → Bool} {xs ys : List α} (perm : xs.Perm ys)
    (refl : ∀ x ∈ xs, alike x x = true)
    (symm : ∀ x ∈ xs, ∀ y ∈ xs, alike x y = true → alike y x = true)
    (trans : ∀ x ∈ xs, ∀ y ∈ xs, ∀ z ∈ xs, alike x y = true → alike y z = true →
      alike x z = true) : pairsUp alike xs ys = true := by
  -- Alike members are those alike to the same members.
  let image (x z : α) : Prop := z ∈ xs ∧ alike x z = true
  have alike_iff : ∀ x ∈ xs, ∀ y ∈ ys, alike x y = true ↔ True ∧ image y = image x := by
    intro x member y inOthers
    have otherMember : y ∈ xs := perm.mem_iff.mpr inOthers
    constructor
    · intro isAlike
      have back := symm x member y otherMember isAlike
      refine ⟨trivial, funext fun z => propext (and_congr_right fun third => ?_)⟩
      exact ⟨trans x member y otherMember z third isAlike,
        trans y otherMember x member z third back⟩
    · rintro ⟨_, same⟩
      have itself : image y y := ⟨otherMember, refl y otherMember⟩
      rw [same] at itself
      exact itself.2
  exact (pairsUp_iff alike_iff).mpr ⟨fun _ _ => trivial, perm.map image⟩

/-- Tidy resources are equal to themselves in another order, unless something in them cannot be
compared. -/
theorem compareResources_of_perm {resources others : List Resource} (perm : resources.Perm others)
    (tidy : ∀ r ∈ resources, r.Tidy) :
    compareResources resources others =
      if resources.all Resource.isComparable then .ok true else .error .wrongType := by
  have pairs : pairsUp Resource.alike resources others = true :=
    pairsUp_of_perm perm (fun r member => (tidy r member).alike_refl)
      (fun r member s other => (tidy r member).alike_symm (tidy s other))
      fun r member s other t third =>
        (tidy r member).alike_trans (tidy s other) (tidy t third)
  have comparable : others.all Resource.isComparable = resources.all Resource.isComparable := by
    rw [Bool.eq_iff_iff, List.all_eq_true, List.all_eq_true]
    exact forall_congr' fun r => imp_congr perm.mem_iff.symm Iff.rfl
  rw [compareResources, comparable, Bool.and_self, pairs]

/-- Nothing in the snapshot is beyond comparison. -/
def isComparable (s : Snapshot) : Bool :=
  s.entries.all fun entry => entry.2.all Resource.isComparable

theorem isComparable_iff {s : Snapshot} :
    s.isComparable = true ↔ ∀ key, ∀ r ∈ s.resourcesAt key, r.isComparable = true := by
  simp only [isComparable, List.all_eq_true]
  constructor
  · intro comparable key r member
    by_cases present : key ∈ s.keys
    · exact comparable _ (mem_entries_of_mem_keys present) r member
    · rw [resourcesAt_of_not_mem present] at member
      cases member
  · intro comparable entry member r inEntry
    have found : s.resourcesAt entry.1 = entry.2 := resourcesAt_of_mem member
    exact comparable entry.1 r (found ▸ inEntry)

/-- Two snapshots have the same keys and, under each key, the same resources in any order. -/
structure Reordered (s t : Snapshot) : Prop where
  keys : ∀ key, key ∈ s.keys ↔ key ∈ t.keys
  resources : ∀ key, (s.resourcesAt key).Perm (t.resourcesAt key)

namespace Reordered

variable {s t : Snapshot}

theorem symm (reordered : s.Reordered t) : t.Reordered s :=
  ⟨fun key => (reordered.keys key).symm, fun key => (reordered.resources key).symm⟩

/-- A tidy snapshot is equal to itself in another order, unless something in it cannot be
compared. -/
theorem equals_eq (reordered : s.Reordered t) (tidy : ∀ key, ∀ r ∈ s.resourcesAt key, r.Tidy) :
    s.equals t = if s.isComparable then .ok true else .error .wrongType := by
  have compared : ∀ entries : List (Text × List Resource), entries ⊆ s.entries →
      compareEntries t entries =
        if entries.all (fun entry => entry.2.all Resource.isComparable) then .ok true
        else .error .wrongType := by
    intro entries within
    induction entries with
    | nil => rfl
    | cons entry rest ih =>
      obtain ⟨here, inRest⟩ := List.cons_subset.mp within
      have found : s.resourcesAt entry.1 = entry.2 := resourcesAt_of_mem here
      have resources := compareResources_of_perm (reordered.resources entry.1) (tidy entry.1)
      rw [found] at resources
      rw [compareEntries, resources, ih inRest, List.all_cons]
      cases entry.2.all Resource.isComparable <;> rfl
  rw [equals, if_pos (sameKeys_iff.mpr reordered.keys), compared _ (List.Subset.refl _)]
  rfl

/-- What cannot be compared does not depend on the order. -/
theorem isComparable_eq (reordered : s.Reordered t) : s.isComparable = t.isComparable := by
  rw [Bool.eq_iff_iff, isComparable_iff, isComparable_iff]
  apply forall_congr'
  intro key
  apply forall_congr'
  intro r
  rw [(reordered.resources key).mem_iff]

end Reordered

end Snapshot

end ApiSurface
