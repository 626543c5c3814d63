import Mathlib.Data.List.Induction
import ApiSurface.Proofs.Scan.Augmentation
import ApiSurface.Proofs.Snapshot.Merge

/-!
# What discovery answered

The answers of one discovery pass are the group-versions it asked about with their
listings. Merging puts the scans of all listings together under their keys. Well-typed
answers always merge, and under each key the result has the signatures that the
listings with this key serve.
-/

namespace ApiSurface

namespace GroupVersion

/-- Neither the group nor the version holds a slash. -/
structure SlashFree (gv : GroupVersion) : Prop where
  group : ¬ Scan.HasSlash gv.group
  version : ¬ Scan.HasSlash gv.version

/-- Without slashes in them, different group-versions have different keys. -/
theorem SlashFree.key_inj {gv other : GroupVersion} (slashFree : gv.SlashFree)
    (otherSlashFree : other.SlashFree) (same : gv.key = other.key) : gv = other := by
  obtain ⟨group, version⟩ := gv
  obtain ⟨otherGroup, otherVersion⟩ := other
  simp only [key, List.isEmpty_iff] at same
  have slash : (Text.ofString "/") = [CodePoint.char '/'] := by decide
  split at same <;> split at same
  next core otherCore =>
    change group = [] at core
    change otherGroup = [] at otherCore
    rw [core, otherCore, same]
  next =>
    have inVersion : Scan.HasSlash version := by
      simp [Scan.HasSlash, same, slash]
    exact absurd inVersion slashFree.version
  next =>
    have inVersion : Scan.HasSlash otherVersion := by
      simp [Scan.HasSlash, ← same, slash]
    exact absurd inVersion otherSlashFree.version
  next =>
    simp only [slash, List.append_assoc, List.singleton_append] at same
    obtain ⟨sameGroup, _, sameVersion⟩ :=
      (List.append_cons_inj_of_notMem slashFree.group slashFree.version).mp same
    cases sameGroup
    cases sameVersion
    rfl

end GroupVersion

/-- What discovery answered in one pass: group-versions with their listings, in the order
in which they were asked about. -/
abbrev Answers := List (GroupVersion × Listing)

namespace Answers

/-- The group-versions that were asked about. -/
def groupVersions (answers : Answers) : List GroupVersion := answers.map (·.1)

/-- The keys with the resources that scanning their listings gives. -/
def scanned (answers : Answers) : Except Misuse (List (Text × List Resource)) :=
  answers.mapM fun answer => do
    let resources ← Scan.resources answer.1 answer.2
    pure (answer.1.key, resources)

/-- The scans of all listings, put together under their keys. -/
def merged (answers : Answers) : Except Misuse Snapshot := Snapshot.ofList <$> scanned answers

/-- Every listing is well-typed. -/
def WellTyped (answers : Answers) : Prop := ∀ answer ∈ answers, answer.2.WellTyped

/-- What the listings with a key serve. -/
def servedAt (answers : Answers) (key : Text) : Multiset Signature :=
  (answers.map fun answer => if key = answer.1.key then Scan.served answer.1 answer.2 else 0).sum

/-- One more answer adds its scan under its key. -/
theorem merged_concat {answers : Answers} {s : Snapshot} {gv : GroupVersion} {listing : Listing}
    {resources : List Resource} (before : answers.merged = .ok s)
    (scan : Scan.resources gv listing = .ok resources) :
    merged (answers ++ [(gv, listing)]) = .ok (s.add gv.key resources) := by
  unfold merged scanned at before ⊢
  rw [List.mapM_append]
  cases entries : answers.mapM fun answer => do
      let resources ← Scan.resources answer.1 answer.2
      pure (answer.1.key, resources) with
  | error kind =>
    rw [entries] at before
    cases before
  | ok entries =>
    rw [entries] at before
    cases before
    rw [List.mapM_cons, scan]
    exact congrArg Except.ok (List.foldl_append ..)

/-- Well-typed answers merge into a well-typed snapshot with the keys asked about and, under
each, the signatures served there. -/
theorem WellTyped.merged {answers : Answers} (typed : answers.WellTyped) :
    ∃ s, answers.merged = .ok s ∧ s.WellTyped ∧
      (∀ key, key ∈ s.keys ↔ ∃ gv ∈ answers.groupVersions, gv.key = key) ∧
      ∀ key, s.signaturesAt key = answers.servedAt key := by
  induction answers using List.reverseRecOn with
  | nil =>
    refine ⟨Snapshot.empty, rfl, Snapshot.wellTyped_empty, fun key => ?_, fun key => rfl⟩
    simp [Snapshot.keys, Snapshot.empty, groupVersions]
  | append_singleton answers answer ih =>
    obtain ⟨gv, listing⟩ := answer
    obtain ⟨s, mergedBefore, typedBefore, keysBefore, servedBefore⟩ :=
      ih fun other member => typed other (List.mem_append_left _ member)
    obtain ⟨resources, scan, typedResources, signatures⟩ :=
      Scan.resources_of_wellTyped gv (typed (gv, listing) (by simp))
    refine ⟨_, merged_concat mergedBefore scan, typedBefore.add typedResources, fun key => ?_,
      fun key => ?_⟩
    · rw [Snapshot.mem_keys_add, keysBefore]
      simp [groupVersions, or_and_right, exists_or, eq_comm]
    · rw [Snapshot.signaturesAt_add, servedBefore, signatures]
      simp [servedAt]

/-- Where no key is asked about twice, what is served at a key is what its listing serves. -/
theorem servedAt_of_mem {answers : Answers} (distinct : (answers.map (·.1.key)).Nodup)
    {gv : GroupVersion} {listing : Listing} (member : (gv, listing) ∈ answers) :
    answers.servedAt gv.key = Scan.served gv listing := by
  obtain ⟨before, after, rfl⟩ := List.append_of_mem member
  simp only [List.map_append, List.map_cons, List.nodup_append, List.nodup_cons] at distinct
  obtain ⟨_, ⟨notAfter, _⟩, apart⟩ := distinct
  have none : ∀ others : Answers, (∀ other ∈ others, other.1.key ≠ gv.key) →
      others.servedAt gv.key = 0 := by
    intro others differ
    refine List.sum_eq_zero fun served inMap => ?_
    obtain ⟨other, inOthers, rfl⟩ := List.mem_map.mp inMap
    rw [if_neg (differ other inOthers).symm]
  have noneBefore := none before fun other inBefore =>
    apart _ (List.mem_map_of_mem inBefore) _ List.mem_cons_self
  have noneAfter := none after fun other inAfter same =>
    notAfter (List.mem_map.mpr ⟨other, inAfter, same⟩)
  unfold servedAt at noneBefore noneAfter ⊢
  simp [noneBefore, noneAfter]

/-- Two answers list the same group-versions and report the same about each of them, up to the
verbs that scanning adds to an entry. -/
structure SameReported (answers others : Answers) : Prop where
  groupVersions : ∀ gv, gv ∈ answers.groupVersions ↔ gv ∈ others.groupVersions
  reported : ∀ gv listing other, (gv, listing) ∈ answers → (gv, other) ∈ others →
    Scan.reported gv listing = Scan.reported gv other

/-- Different slash-free group-versions, asked about once each, have no key twice. -/
theorem nodup_keys {answers : Answers} (distinct : answers.groupVersions.Nodup)
    (slashFree : ∀ gv ∈ answers.groupVersions, gv.SlashFree) :
    (answers.map (·.1.key)).Nodup := by
  have keys : answers.map (·.1.key) = answers.groupVersions.map GroupVersion.key := by
    rw [groupVersions, List.map_map]
    rfl
  rw [keys]
  refine List.Nodup.map_on ?_ distinct
  intro gv inAnswers other otherInAnswers same
  exact (slashFree gv inAnswers).key_inj (slashFree other otherInAnswers) same

/-- The group-versions that were asked about are among those of agreeing answers. -/
theorem mem_groupVersions_of_agrees {answers others : Answers} {s t : Snapshot}
    (typed : answers.WellTyped) (typedOthers : others.WellTyped)
    (slashFree : ∀ gv ∈ answers.groupVersions, gv.SlashFree)
    (slashFreeOthers : ∀ gv ∈ others.groupVersions, gv.SlashFree)
    (merged : answers.merged = .ok s) (mergedOthers : others.merged = .ok t) (agrees : s.Agrees t)
    {gv : GroupVersion} (member : gv ∈ answers.groupVersions) : gv ∈ others.groupVersions := by
  obtain ⟨_, mergedHere, _, keys, _⟩ := typed.merged
  obtain ⟨_, mergedThere, _, keysOthers, _⟩ := typedOthers.merged
  cases merged.symm.trans mergedHere
  cases mergedOthers.symm.trans mergedThere
  have inOthers : gv.key ∈ t.keys := (agrees.keys _).mp ((keys _).mpr ⟨gv, member, rfl⟩)
  obtain ⟨other, otherMember, same⟩ := (keysOthers _).mp inOthers
  have equal : other = gv :=
    (slashFreeOthers other otherMember).key_inj (slashFree gv member) same
  exact equal ▸ otherMember

/-- Well-typed answers about distinct slash-free group-versions report the same if what they merge
into agrees. -/
theorem sameReported_of_agrees {answers others : Answers} {s t : Snapshot}
    (typed : answers.WellTyped) (typedOthers : others.WellTyped)
    (distinct : answers.groupVersions.Nodup) (distinctOthers : others.groupVersions.Nodup)
    (slashFree : ∀ gv ∈ answers.groupVersions, gv.SlashFree)
    (slashFreeOthers : ∀ gv ∈ others.groupVersions, gv.SlashFree)
    (merged : answers.merged = .ok s) (mergedOthers : others.merged = .ok t)
    (agrees : s.Agrees t) : answers.SameReported others := by
  refine ⟨fun gv => ⟨fun member => ?_, fun member => ?_⟩, ?_⟩
  · exact mem_groupVersions_of_agrees typed typedOthers slashFree slashFreeOthers merged
      mergedOthers agrees member
  · exact mem_groupVersions_of_agrees typedOthers typed slashFreeOthers slashFree mergedOthers
      merged agrees.symm member
  · intro gv listing other member otherMember
    obtain ⟨_, mergedHere, _, _, served⟩ := typed.merged
    obtain ⟨_, mergedThere, _, _, servedOthers⟩ := typedOthers.merged
    cases merged.symm.trans mergedHere
    cases mergedOthers.symm.trans mergedThere
    refine Scan.reported_eq_of_served_eq ?_
    calc Scan.served gv listing
        = answers.servedAt gv.key := (servedAt_of_mem (nodup_keys distinct slashFree) member).symm
      _ = s.signaturesAt gv.key := (served gv.key).symm
      _ = t.signaturesAt gv.key := agrees.signatures gv.key
      _ = others.servedAt gv.key := servedOthers gv.key
      _ = Scan.served gv other :=
        servedAt_of_mem (nodup_keys distinctOthers slashFreeOthers) otherMember

end Answers

end ApiSurface
