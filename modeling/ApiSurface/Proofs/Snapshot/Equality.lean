import Mathlib.Data.Multiset.MapFold
import ApiSurface.Proofs.Value.Equality
import ApiSurface.Snapshot

/-!
# Change detection as equality of multisets

Two snapshots *agree* if they have the same keys and, under each key, the same multiset
of signatures. Agreement is an equivalence. `Snapshot.equals` decides it for snapshots
whose resources are well-typed, and a snapshot found equal to a well-typed one is
well-typed itself. `Snapshot.equals_eq_error_iff` says when a comparison fails.
-/

namespace ApiSurface.Snapshot

/-! ## Looking up keys -/

/-- What stands beside a key among the entries is what is found under it. -/
theorem resourcesAt_of_mem {s : Snapshot} {key : Text} {resources : List Resource}
    (member : (key, resources) ∈ s.entries) : s.resourcesAt key = resources := by
  have found : s.entries.lookup key = some resources :=
    (lookup_eq_some_iff_mem s.nodup).mpr member
  simp [resourcesAt, found]

/-- A key stands among the entries together with what is found under it. -/
theorem mem_entries_of_mem_keys {s : Snapshot} {key : Text} (member : key ∈ s.keys) :
    (key, s.resourcesAt key) ∈ s.entries := by
  obtain ⟨⟨_, resources⟩, entryMember, rfl⟩ := List.mem_map.mp member
  rwa [resourcesAt_of_mem entryMember]

/-- Nothing is found under what is no key. -/
theorem resourcesAt_of_not_mem {s : Snapshot} {key : Text} (absent : key ∉ s.keys) :
    s.resourcesAt key = [] := by
  have notFound : s.entries.lookup key = none := by
    rw [List.lookup_eq_none_iff]
    intro entry member
    refine bne_iff_ne.mpr ?_
    rintro rfl
    exact absent (List.mem_map_of_mem member)
  simp [resourcesAt, notFound]

theorem sameKeys_iff {s t : Snapshot} :
    s.sameKeys t = true ↔ ∀ key, key ∈ s.keys ↔ key ∈ t.keys := by
  simp only [sameKeys, Bool.and_eq_true, List.all_eq_true, List.contains_iff_mem]
  constructor
  · rintro ⟨within, contains⟩ key
    exact ⟨within key, contains key⟩
  · intro same
    exact ⟨fun key member => (same key).mp member, fun key member => (same key).mpr member⟩

/-! ## Pairing up -/

section Pairing

variable {α β : Type}

/-- What is removed is the first member that fits. -/
theorem removeFirst_eq_some {fits : α → Bool} {xs rest : List α}
    (removed : removeFirst fits xs = some rest) :
    ∃ before x after, xs = before ++ x :: after ∧ fits x = true ∧ rest = before ++ after := by
  induction xs generalizing rest with
  | nil => cases removed
  | cons x xs ih =>
    rw [removeFirst] at removed
    split at removed
    next fitting =>
      cases removed
      exact ⟨[], x, xs, rfl, fitting, rfl⟩
    next =>
      obtain ⟨shorter, removedThere, rfl⟩ := Option.map_eq_some_iff.mp removed
      obtain ⟨before, y, after, rfl, fitting, rfl⟩ := ih removedThere
      exact ⟨x :: before, y, after, rfl, fitting, rfl⟩

/-- Nothing is removed only where nothing fits. -/
theorem removeFirst_eq_none {fits : α → Bool} {xs : List α} (kept : removeFirst fits xs = none) :
    ∀ x ∈ xs, fits x = false := by
  induction xs with
  | nil => simp
  | cons x xs ih =>
    rw [removeFirst] at kept
    split at kept
    next => cases kept
    next unfitting =>
      intro y member
      rcases List.mem_cons.mp member with rfl | inRest
      · simpa using unfitting
      · exact ih (Option.map_eq_none_iff.mp kept) y inRest

/-- Where being alike is having equal images under a function, up to a condition on the
other side, lists pair up exactly if the condition holds and the images are the same up to
order. -/
theorem pairsUp_iff {alike : α → α → Bool} {good : α → Prop} {image : α → β} {xs ys : List α}
    (alike_iff : ∀ x ∈ xs, ∀ y ∈ ys, alike x y = true ↔ good y ∧ image y = image x) :
    pairsUp alike xs ys = true ↔ (∀ y ∈ ys, good y) ∧ (xs.map image).Perm (ys.map image) := by
  induction xs generalizing ys with
  | nil => cases ys <;> simp [pairsUp]
  | cons x xs ih =>
    have alike_iff_rest : ∀ x ∈ xs, ∀ y ∈ ys, alike x y = true ↔ good y ∧ image y = image x :=
      fun x member => alike_iff x (List.mem_cons_of_mem _ member)
    rw [pairsUp]
    cases removed : removeFirst (alike x) ys with
    | some rest =>
      obtain ⟨before, y, after, rfl, isAlike, rfl⟩ := removeFirst_eq_some removed
      obtain ⟨goodHere, sameImage⟩ := (alike_iff x List.mem_cons_self y (by simp)).mp isAlike
      have toFront : ((before ++ y :: after).map image).Perm
          (image x :: (before ++ after).map image) := by
        simp [sameImage, List.perm_middle]
      have goods : (∀ z ∈ before ++ y :: after, good z) ↔ ∀ z ∈ before ++ after, good z := by
        simp only [List.mem_append, List.mem_cons]
        constructor
        · rintro all z (left | right)
          · exact all z (.inl left)
          · exact all z (.inr (.inr right))
        · rintro all z (left | rfl | right)
          · exact all z (.inl left)
          · exact goodHere
          · exact all z (.inr right)
      have remaining : ∀ z ∈ before ++ after, z ∈ before ++ y :: after := by
        intro z member
        rcases List.mem_append.mp member with left | right
        · exact List.mem_append_left _ left
        · exact List.mem_append_right _ (List.mem_cons_of_mem _ right)
      change pairsUp alike xs (before ++ after) = true ↔ _
      rw [ih fun x member z inRest => alike_iff_rest x member z (remaining z inRest), goods,
        List.map_cons, toFront.congr_right, List.perm_cons]
    | none =>
      simp only [Bool.false_eq_true, List.map_cons, false_iff, not_and]
      intro goods perm
      obtain ⟨y, member, sameImage⟩ := List.mem_map.mp (perm.subset List.mem_cons_self)
      have fitting := (alike_iff x List.mem_cons_self y member).mpr ⟨goods y member, sameImage⟩
      rw [removeFirst_eq_none removed y member] at fitting
      cases fitting

end Pairing

/-! ## Agreement -/

/-- Every resource of the snapshot is well-typed. -/
def WellTyped (s : Snapshot) : Prop := ∀ key, ∀ r ∈ s.resourcesAt key, r.WellTyped

/-- The signatures under a key, with multiplicity. -/
def signaturesAt (s : Snapshot) (key : Text) : Multiset Signature :=
  (s.resourcesAt key).map Resource.signature

/-- Two snapshots have the same keys and the same signatures under each of them. -/
structure Agrees (s t : Snapshot) : Prop where
  keys : ∀ key, key ∈ s.keys ↔ key ∈ t.keys
  signatures : ∀ key, s.signaturesAt key = t.signaturesAt key

namespace Agrees

variable {s t u : Snapshot}

theorem refl (s : Snapshot) : s.Agrees s := ⟨fun _ => Iff.rfl, fun _ => rfl⟩

theorem symm (agrees : s.Agrees t) : t.Agrees s :=
  ⟨fun key => (agrees.keys key).symm, fun key => (agrees.signatures key).symm⟩

theorem trans (first : s.Agrees t) (second : t.Agrees u) : s.Agrees u :=
  ⟨fun key => (first.keys key).trans (second.keys key),
    fun key => (first.signatures key).trans (second.signatures key)⟩

end Agrees

theorem wellTyped_empty : empty.WellTyped := by
  intro key r member
  cases member

/-! ## What comparing answers -/

/-- A list of well-typed resources compares as equal to exactly the lists of well-typed
resources with the same signatures up to order. -/
theorem compareResources_eq_ok_true_iff {resources others : List Resource}
    (typed : ∀ r ∈ resources, r.WellTyped) :
    compareResources resources others = .ok true ↔
      (∀ r ∈ others, r.WellTyped) ∧
        (resources.map Resource.signature).Perm (others.map Resource.signature) := by
  have comparable : resources.all Resource.isComparable = true :=
    List.all_eq_true.mpr fun r member => (typed r member).isComparable
  have alike : ∀ r ∈ resources, ∀ s, r.alike s = true ↔ s.WellTyped ∧ s.signature = r.signature :=
    fun r member _ => (typed r member).alike_iff
  have pairs : pairsUp Resource.alike resources others = true ↔
      (∀ r ∈ others, r.WellTyped) ∧
        (resources.map Resource.signature).Perm (others.map Resource.signature) :=
    pairsUp_iff fun r member s _ => alike r member s
  rw [compareResources, comparable, Bool.true_and, ← pairs]
  constructor
  · intro compared
    split at compared
    next => exact Except.ok.inj compared
    next => cases compared
  · intro paired
    have othersComparable : others.all Resource.isComparable = true :=
      List.all_eq_true.mpr fun r member => ((pairs.mp paired).1 r member).isComparable
    rw [if_pos othersComparable, paired]

/-- A list of well-typed resources can be compared with another list unless something in
that one cannot be compared. -/
theorem compareResources_eq_error_iff {resources others : List Resource} {kind : Misuse}
    (typed : ∀ r ∈ resources, r.WellTyped) :
    compareResources resources others = .error kind ↔
      kind = .wrongType ∧ ∃ r ∈ others, r.isComparable = false := by
  have comparable : resources.all Resource.isComparable = true :=
    List.all_eq_true.mpr fun r member => (typed r member).isComparable
  rw [compareResources, comparable, Bool.true_and]
  split
  next all =>
    simp only [reduceCtorEq, false_iff, not_and, not_exists]
    intro _ r member
    simp [List.all_eq_true.mp all r member]
  next some =>
    simp only [Except.error.injEq, List.all_eq_true, not_forall, Bool.not_eq_true] at some ⊢
    obtain ⟨r, member, incomparable⟩ := some
    exact ⟨fun same => ⟨same.symm, r, member, incomparable⟩, fun both => both.1.symm⟩

theorem compareEntries_eq_ok_true_iff {other : Snapshot} {entries : List (Text × List Resource)} :
    compareEntries other entries = .ok true ↔
      ∀ entry ∈ entries, compareResources entry.2 (other.resourcesAt entry.1) = .ok true := by
  induction entries with
  | nil => simp [compareEntries]
  | cons entry rest ih =>
    rw [compareEntries]
    cases compared : compareResources entry.2 (other.resourcesAt entry.1) with
    | error kind => simp [compared]
    | ok equal => cases equal <;> simp [compared, ih]

/-- Comparing entries fails at the first that cannot be compared, if all before it are
equal to what the other snapshot has. -/
theorem compareEntries_eq_error_iff {other : Snapshot} {entries : List (Text × List Resource)}
    {kind : Misuse} :
    compareEntries other entries = .error kind ↔
      ∃ before entry after, entries = before ++ entry :: after ∧
        (∀ earlier ∈ before,
          compareResources earlier.2 (other.resourcesAt earlier.1) = .ok true) ∧
        compareResources entry.2 (other.resourcesAt entry.1) = .error kind := by
  induction entries with
  | nil => simp [compareEntries]
  | cons first rest ih =>
    have split_iff : ∀ p : List (Text × List Resource) → Text × List Resource → Prop,
        (∃ before entry after, first :: rest = before ++ entry :: after ∧ p before entry) ↔
          p [] first ∨
            ∃ before entry after, rest = before ++ entry :: after ∧ p (first :: before) entry := by
      intro p
      constructor
      · rintro ⟨before, entry, after, split, holds⟩
        cases before with
        | nil =>
          cases split
          exact .inl holds
        | cons earlier before =>
          cases split
          exact .inr ⟨before, entry, after, rfl, holds⟩
      · rintro (holds | ⟨before, entry, after, rfl, holds⟩)
        · exact ⟨[], first, rest, rfl, holds⟩
        · exact ⟨first :: before, entry, after, rfl, holds⟩
    rw [split_iff fun before entry =>
      (∀ earlier ∈ before, compareResources earlier.2 (other.resourcesAt earlier.1) = .ok true) ∧
        compareResources entry.2 (other.resourcesAt entry.1) = .error kind, compareEntries]
    cases compared : compareResources first.2 (other.resourcesAt first.1) with
    | error kind => simp [compared]
    | ok equal => cases equal <;> simp [compared, ih]

variable {s t : Snapshot}

theorem WellTyped.entry (typed : s.WellTyped) {entry : Text × List Resource}
    (member : entry ∈ s.entries) : ∀ r ∈ entry.2, r.WellTyped := by
  have found : s.resourcesAt entry.1 = entry.2 := resourcesAt_of_mem member
  exact found ▸ typed entry.1

/-- A well-typed snapshot is equal to exactly the well-typed snapshots that agree with it. -/
theorem WellTyped.equals_eq_ok_true_iff (typed : s.WellTyped) :
    s.equals t = .ok true ↔ t.WellTyped ∧ s.Agrees t := by
  constructor
  · intro equal
    rw [equals] at equal
    split at equal
    next same =>
      have keys := sameKeys_iff.mp same
      have under : ∀ key, (∀ r ∈ t.resourcesAt key, r.WellTyped) ∧
          s.signaturesAt key = t.signaturesAt key := by
        intro key
        by_cases member : key ∈ s.keys
        · have compared :=
            compareEntries_eq_ok_true_iff.mp equal _ (mem_entries_of_mem_keys member)
          obtain ⟨typedOther, perm⟩ := (compareResources_eq_ok_true_iff (typed key)).mp compared
          exact ⟨typedOther, Multiset.coe_eq_coe.mpr perm⟩
        · have absent : key ∉ t.keys := fun present => member ((keys key).mpr present)
          simp [signaturesAt, resourcesAt_of_not_mem member, resourcesAt_of_not_mem absent]
      exact ⟨fun key => (under key).1, keys, fun key => (under key).2⟩
    next => cases equal
  · rintro ⟨typedOther, agrees⟩
    rw [equals, if_pos (sameKeys_iff.mpr agrees.keys), compareEntries_eq_ok_true_iff]
    intro entry member
    rw [compareResources_eq_ok_true_iff (typed.entry member)]
    have found : s.resourcesAt entry.1 = entry.2 := resourcesAt_of_mem member
    refine ⟨typedOther entry.1, ?_⟩
    rw [← found]
    exact Multiset.coe_eq_coe.mp (agrees.signatures entry.1)

/-- Whether a snapshot blocks a comparison with another: both have the same keys and, on the way
through the other's entries, something that cannot be compared comes before any difference. -/
def Blocks (placed other : Snapshot) : Prop :=
  (∀ key, key ∈ other.keys ↔ key ∈ placed.keys) ∧
    ∃ before entry after, other.entries = before ++ entry :: after ∧
      (∀ earlier ∈ before,
        compareResources earlier.2 (placed.resourcesAt earlier.1) = .ok true) ∧
      ∃ r ∈ placed.resourcesAt entry.1, r.isComparable = false

/-- Comparing a well-typed snapshot with another fails exactly if the other blocks it. -/
theorem WellTyped.equals_eq_error_iff (typed : s.WellTyped) {kind : Misuse} :
    s.equals t = .error kind ↔ kind = .wrongType ∧ t.Blocks s := by
  rw [equals]
  split
  next same =>
    rw [compareEntries_eq_error_iff]
    constructor
    · rintro ⟨before, entry, after, split, equalBefore, failed⟩
      have member : entry ∈ s.entries := by simp [split]
      obtain ⟨isType, incomparable⟩ :=
        (compareResources_eq_error_iff (typed.entry member)).mp failed
      exact ⟨isType, sameKeys_iff.mp same, before, entry, after, split, equalBefore, incomparable⟩
    · rintro ⟨isType, _, before, entry, after, split, equalBefore, incomparable⟩
      have member : entry ∈ s.entries := by simp [split]
      exact ⟨before, entry, after, split, equalBefore,
        (compareResources_eq_error_iff (typed.entry member)).mpr ⟨isType, incomparable⟩⟩
  next differ =>
    simp only [reduceCtorEq, false_iff, not_and]
    rintro _ ⟨keys, _⟩
    exact differ (sameKeys_iff.mpr keys)

/-- Well-typed snapshots block nothing. -/
theorem WellTyped.not_blocks (typed : t.WellTyped) : ¬ t.Blocks s := by
  rintro ⟨_, _, entry, _, _, _, r, member, incomparable⟩
  rw [(typed entry.1 r member).isComparable] at incomparable
  cases incomparable

/-- Well-typed snapshots can always be compared. -/
theorem WellTyped.equals_ne_error (typed : s.WellTyped) (typedOther : t.WellTyped)
    (kind : Misuse) : s.equals t ≠ .error kind :=
  fun failed => typedOther.not_blocks (typed.equals_eq_error_iff.mp failed).2

end ApiSurface.Snapshot
