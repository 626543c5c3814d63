import ApiSurface.Proofs.Snapshot.Equality

/-!
# Putting snapshots together

Adding resources under a key adds their signatures there and leaves every other key
alone. A snapshot put together anew from its own entries is the same.
-/

namespace ApiSurface.Snapshot

theorem mem_keys_add {s : Snapshot} {key other : Text} {resources : List Resource} :
    other ∈ (s.add key resources).keys ↔ other ∈ s.keys ∨ other = key := by
  simp only [keys, add, keys_addTo]
  split
  next present =>
    constructor
    · exact .inl
    · rintro (member | rfl)
      · exact member
      · exact present
  next => simp

theorem lookup_addTo (key other : Text) (added : List Resource)
    (entries : List (Text × List Resource)) :
    ((addTo key added entries).lookup other).getD [] =
      if other = key then (entries.lookup key).getD [] ++ added
      else (entries.lookup other).getD [] := by
  induction entries with
  | nil =>
    by_cases same : other = key
    · simp [addTo, same]
    · simp [addTo, List.lookup_cons, beq_false_of_ne same, same]
  | cons entry rest ih =>
    obtain ⟨first, resources⟩ := entry
    rw [addTo]
    by_cases here : first = key
    · by_cases same : other = key
      · simp [here, same]
      · simp [here, List.lookup_cons, beq_false_of_ne same, same]
    · have differs : key ≠ first := Ne.symm here
      by_cases found : other = first
      · subst found
        simp [here]
      · simp [here, List.lookup_cons, beq_false_of_ne found, beq_false_of_ne differs, ih]

theorem resourcesAt_add (s : Snapshot) (key other : Text) (resources : List Resource) :
    (s.add key resources).resourcesAt other =
      if other = key then s.resourcesAt key ++ resources else s.resourcesAt other :=
  lookup_addTo key other resources s.entries

theorem signaturesAt_add (s : Snapshot) (key other : Text) (resources : List Resource) :
    (s.add key resources).signaturesAt other =
      s.signaturesAt other +
        if other = key then (resources.map Resource.signature : Multiset Signature) else 0 := by
  rw [signaturesAt, resourcesAt_add]
  by_cases same : other = key
  · simp [signaturesAt, same]
  · simp [signaturesAt, same]

theorem WellTyped.add {s : Snapshot} (typed : s.WellTyped) {key : Text} {resources : List Resource}
    (typedAdded : ∀ r ∈ resources, r.WellTyped) : (s.add key resources).WellTyped := by
  intro other r member
  rw [resourcesAt_add] at member
  split at member
  · rcases List.mem_append.mp member with before | added
    · exact typed key r before
    · exact typedAdded r added
  · exact typed other r member

/-- Resources added under a new key come last. -/
theorem addTo_of_not_mem {key : Text} {added : List Resource}
    {entries : List (Text × List Resource)} (new : key ∉ entries.map (·.1)) :
    addTo key added entries = entries ++ [(key, added)] := by
  induction entries with
  | nil => rfl
  | cons entry rest ih =>
    obtain ⟨other, resources⟩ := entry
    simp only [List.map_cons, List.mem_cons, not_or] at new
    rw [addTo, if_neg (by simpa using Ne.symm new.1), ih new.2]
    rfl

/-- Entries whose keys are new and differ come after those that are there, in order. -/
theorem entries_foldl_add {entries : List (Text × List Resource)} {s : Snapshot}
    (nodup : ((s.entries ++ entries).map (·.1)).Nodup) :
    (entries.foldl (fun s entry => s.add entry.1 entry.2) s).entries = s.entries ++ entries := by
  induction entries generalizing s with
  | nil => simp
  | cons entry rest ih =>
    have distinct := nodup
    rw [List.map_append, List.map_cons, List.nodup_append] at distinct
    have new : entry.1 ∉ s.entries.map (·.1) := fun member =>
      distinct.2.2 _ member _ List.mem_cons_self rfl
    have added : (s.add entry.1 entry.2).entries = s.entries ++ [entry] := addTo_of_not_mem new
    rw [List.foldl_cons, ih (by simpa [added] using nodup), added, List.append_assoc]
    rfl

/-- A copy is the snapshot itself. -/
theorem copy_eq (s : Snapshot) : s.copy = s := by
  have entries : s.copy.entries = s.entries := entries_foldl_add s.nodup
  generalize s.copy = t at entries ⊢
  cases s
  cases t
  simp only at entries
  subst entries
  rfl

end ApiSurface.Snapshot
