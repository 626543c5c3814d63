import Mathlib.Data.List.Forall2
import ApiSurface.Proofs.Scan.Augmentation

/-!
# The layout of what scanning gives

Scanning keeps the discovered resources one for one and in order, and puts the synthetic
entries of each right behind it. So the discovered resources are read off the result from
left to right, by leaving out behind each entry as many as belong to it
(`resources_laid`). Repeated names and discovered entries that look like synthetic ones
make no difference, since only the place of an entry counts.
-/

namespace ApiSurface.Scan

/-! ## The documented rules -/

/-- The documented rules add a verb to the entry of a name. -/
inductive Adds (gv : GroupVersion) (name : Text) : Text → Prop where
  | list (subresource : HasSlash name) (ends : EndsListable name) : Adds gv name "list"
  | watch (subresource : HasSlash name) (ends : EndsListable name) : Adds gv name "watch"
  | bind (isAccess : gv = rbac)
      (role : name = Text.ofString "roles" ∨ name = Text.ofString "rolebindings") :
      Adds gv name "bind"
  | escalate (isAccess : gv = rbac) (roles : name = Text.ofString "roles") :
      Adds gv name "escalate"

/-- An entry is that of a discovered resource: its name, scope and kind are those reported, and
its verbs are those reported, followed by the ones that the rules add, each once. -/
structure Reports (gv : GroupVersion) (found : Discovered) (entry : Resource) : Prop where
  name : entry.name = found.name
  namespaced : entry.namespaced = found.namespaced.isTruthy
  kind : found.kind ≠ .null → entry.kind = found.kind
  kindOfNull : found.kind = .null → entry.kind = .text ""
  verbs : ∃ added : List Text,
    entry.verbs = (reportedVerbs found).map .text ++ added.map .text ∧ added.Nodup ∧
      ∀ verb, verb ∈ added ↔ Adds gv found.name.textOrEmpty verb

/-- The core group's first version. -/
def coreV1 : GroupVersion := ⟨[], "v1"⟩

/-- The synthetic entry for the finalizers of a resource. -/
def finalizersOf (entry : Resource) (name : Text) : Resource :=
  { entry with
    name := .text (name ++ "/finalizers")
    verbs := [.text "update", .text "list", .text "watch"] }

/-- The synthetic entry for the metrics of the nodes. -/
def metricsOf (entry : Resource) : Resource :=
  { entry with
    name := .text "nodes/metrics"
    verbs := [.text "get", .text "list", .text "watch"] }

/-- The synthetic entries that belong right behind an entry: none behind a subresource, the
finalizers behind any other, and the metrics behind those of the core nodes. -/
inductive Follows (gv : GroupVersion) (entry : Resource) : List Resource → Prop where
  | subresource {name : Text} (named : entry.name = .text name) (slash : HasSlash name) :
      Follows gv entry []
  | topLevel {name : Text} (named : entry.name = .text name) (noSlash : ¬ HasSlash name)
      (other : ¬ (gv = coreV1 ∧ name = Text.ofString "nodes")) :
      Follows gv entry [finalizersOf entry name]
  | nodes (core : gv = coreV1) (named : entry.name = .text "nodes") :
      Follows gv entry [finalizersOf entry "nodes", metricsOf entry]

/-- A list of entries consists of kept ones, each followed by exactly its synthetic ones. -/
inductive Laid (gv : GroupVersion) : List Resource → List Resource → Prop where
  | nil : Laid gv [] []
  | cons {entry : Resource} {synthetic kept entries : List Resource}
      (follows : Follows gv entry synthetic) (rest : Laid gv kept entries) :
      Laid gv (entry :: kept) (entry :: synthetic ++ entries)

/-- The number of synthetic entries behind the entry of a name. -/
def syntheticBehind (gv : GroupVersion) (name : Text) : Nat :=
  if HasSlash name then 0
  else if gv = coreV1 ∧ name = Text.ofString "nodes" then 2
  else 1

/-- The entries of a list without the synthetic ones, read from left to right, after leaving out
some first. -/
def withoutSynthetic (gv : GroupVersion) : Nat → List Resource → List Resource
  | _, [] => []
  | skip + 1, _ :: rest => withoutSynthetic gv skip rest
  | 0, entry :: rest =>
    entry :: withoutSynthetic gv (syntheticBehind gv entry.name.textOrEmpty) rest

variable {gv : GroupVersion} {found : Discovered} {entry : Resource} {name : Text}
  {synthetic kept entries : List Resource}

/-! ## One discovered resource -/

theorem nodup_verbsAdded (gv : GroupVersion) (name : Text) : (verbsAdded gv name).Nodup := by
  have distinct :
      List.Nodup (([ "list", "watch"] : List Text) ++ ([ "bind", "escalate"] : List Text)) := by
    decide
  refine List.Nodup.sublist (List.Sublist.append ?_ ?_) distinct
  · split
    · exact List.Sublist.refl _
    · exact List.nil_sublist _
  · unfold verbsOfRole
    split
    · split
      · exact List.Sublist.refl _
      · split
        · exact List.sublist_append_left [Text.ofString "bind"] _
        · exact List.nil_sublist _
    · exact List.nil_sublist _

/-- What is added to an entry is what the rules add. -/
theorem mem_verbsAdded_iff {verb : Text} : verb ∈ verbsAdded gv name ↔ Adds gv name verb := by
  rw [← List.mem_toFinset, toFinset_verbsAdded]
  simp only [addedVerbs, Finset.mem_union]
  constructor
  · rintro ((listable | bind) | escalate)
    · split at listable
      next ends =>
        rcases Finset.mem_insert.mp listable with rfl | watch
        · exact .list ends.hasSlash ends
        · exact Finset.mem_singleton.mp watch ▸ .watch ends.hasSlash ends
      next => cases listable
    · split at bind
      next both => exact Finset.mem_singleton.mp bind ▸ .bind both.1 both.2
      next => cases bind
    · split at escalate
      next both => exact Finset.mem_singleton.mp escalate ▸ .escalate both.1 both.2
      next => cases escalate
  · intro adds
    cases adds with
    | list _ ends => simp [ends]
    | watch _ ends => simp [ends]
    | bind isAccess role => simp [isAccess, role]
    | escalate isAccess roles => simp [isAccess, roles]

/-- What is stored of a well-typed resource is the entry of it. -/
theorem reports_ownEntry (typed : found.WellTyped) : Reports gv found (ownEntry gv found) := by
  obtain ⟨name, nameText⟩ := typed.name
  constructor
  case name => simp [ownEntry, resourceOfTexts, nameText]
  case namespaced => rfl
  case kind =>
    intro given
    obtain ⟨kind, kindText⟩ := typed.kind.resolve_left given
    simp [ownEntry, resourceOfTexts, kindText]
  case kindOfNull =>
    intro null
    have kind : (ownEntry gv found).kind = kindOf found := (kindOf_of_wellTyped typed).symm
    rw [kind, kindOf, null]
    rfl
  case verbs =>
    refine ⟨verbsAdded gv found.name.textOrEmpty, ?_, nodup_verbsAdded _ _, ?_⟩
    · simp [ownEntry, resourceOfTexts]
    · intro verb
      exact mem_verbsAdded_iff

/-- A well-typed resource is augmented to its entry and exactly the synthetic ones of it. -/
theorem augment_follows (gv : GroupVersion) (typed : found.WellTyped) :
    ∃ entry synthetic, augment gv found = .ok (entry :: synthetic) ∧ Reports gv found entry ∧
      Follows gv entry synthetic := by
  refine ⟨_, _, augment_eq_of_wellTyped gv typed, reports_ownEntry typed, ?_⟩
  have named : (ownEntry gv found).name = .text found.name.textOrEmpty := rfl
  by_cases slash : HasSlash found.name.textOrEmpty
  · rw [if_pos slash]
    exact .subresource named slash
  · rw [if_neg slash, ownEntry, omitted_resourceOfTexts, ← ownEntry]
    by_cases nodes : gv = ⟨[], "v1"⟩ ∧ found.name.textOrEmpty = Text.ofString "nodes"
    · obtain ⟨core, isNodes⟩ := nodes
      rw [if_pos ⟨core, isNodes⟩, isNodes]
      exact .nodes core (named.trans (congrArg Value.text isNodes))
    · rw [if_neg nodes]
      exact .topLevel named slash nodes

/-! ## Reading entries from left to right -/

theorem withoutSynthetic_append (behind entries : List Resource) :
    withoutSynthetic gv behind.length (behind ++ entries) = withoutSynthetic gv 0 entries := by
  induction behind with
  | nil => rfl
  | cons entry behind ih => exact ih

/-- Behind an entry are as many synthetic ones as its name says. -/
theorem Follows.length_eq (follows : Follows gv entry synthetic) :
    synthetic.length = syntheticBehind gv entry.name.textOrEmpty := by
  cases follows with
  | subresource named slash => simp [syntheticBehind, named, slash]
  | topLevel named noSlash other => simp [syntheticBehind, named, noSlash, other]
  | nodes core named =>
    have noSlash : ¬ HasSlash "nodes" := by decide
    simp [syntheticBehind, named, noSlash, core]

/-- Deleting the synthetic entries leaves the kept ones. -/
theorem Laid.withoutSynthetic_eq (laid : Laid gv kept entries) :
    withoutSynthetic gv 0 entries = kept := by
  induction laid with
  | nil => rfl
  | @cons entry synthetic kept entries follows _ ih =>
    rw [List.cons_append, withoutSynthetic, ← follows.length_eq, withoutSynthetic_append, ih]

/-- The number of entries whose name has no slash. -/
def topLevels (names : List Text) : Nat := names.countP fun name => ¬ HasSlash name

/-- The number of entries for the nodes of the core group. -/
def coreNodes (gv : GroupVersion) (names : List Text) : Nat :=
  if gv = coreV1 then names.count (Text.ofString "nodes") else 0

theorem syntheticBehind_eq (gv : GroupVersion) (name : Text) :
    syntheticBehind gv name = topLevels [name] + coreNodes gv [name] := by
  have noSlash : ¬ HasSlash "nodes" := by decide
  unfold syntheticBehind topLevels coreNodes
  by_cases slash : HasSlash name
  · have other : name ≠ Text.ofString "nodes" := by
      rintro rfl
      exact noSlash slash
    simp [slash, other]
  · by_cases core : gv = coreV1
    · by_cases nodes : name = Text.ofString "nodes"
      · simp [noSlash, core, nodes]
      · simp [slash, core, nodes]
    · simp [slash, core]

theorem topLevels_cons (name : Text) (names : List Text) :
    topLevels (name :: names) = topLevels [name] + topLevels names := by
  simp only [topLevels, List.countP_cons, List.countP_nil]
  omega

theorem coreNodes_cons (gv : GroupVersion) (name : Text) (names : List Text) :
    coreNodes gv (name :: names) = coreNodes gv [name] + coreNodes gv names := by
  unfold coreNodes
  split
  · simp only [List.count_cons, List.count_nil]
    omega
  · rfl

/-- Every kept entry counts once, and once more for each synthetic one behind it. -/
theorem Laid.length_eq (laid : Laid gv kept entries) :
    entries.length = kept.length + topLevels (kept.map (·.name.textOrEmpty)) +
      coreNodes gv (kept.map (·.name.textOrEmpty)) := by
  induction laid with
  | nil => simp [topLevels, coreNodes]
  | @cons entry synthetic kept entries follows _ ih =>
    have here := follows.length_eq
    rw [syntheticBehind_eq] at here
    rw [List.map_cons, topLevels_cons, coreNodes_cons, List.length_append, List.length_cons,
      List.length_cons]
    omega

/-! ## A whole listing -/

theorem augmentAll_laid (gv : GroupVersion) {found : List Discovered}
    (typed : ∀ one ∈ found, one.WellTyped) :
    ∃ kept entries, augmentAll gv found = .ok entries ∧ Laid gv kept entries ∧
      List.Forall₂ (Reports gv) found kept := by
  induction found with
  | nil => exact ⟨[], [], rfl, .nil, .nil⟩
  | cons one rest ih =>
    obtain ⟨entry, synthetic, augmented, reports, follows⟩ :=
      augment_follows gv (typed one List.mem_cons_self)
    obtain ⟨kept, entries, augmentedRest, laid, reportsRest⟩ :=
      ih fun other member => typed other (List.mem_cons_of_mem _ member)
    refine ⟨entry :: kept, entry :: synthetic ++ entries, ?_, .cons follows laid,
      .cons reports reportsRest⟩
    rw [augmentAll, augmented, augmentedRest]

/-- Entries of discovered resources have their names. -/
theorem names_eq_of_reports {found : List Discovered}
    (reports : List.Forall₂ (Reports gv) found kept) :
    kept.map (·.name.textOrEmpty) = found.map (·.name.textOrEmpty) := by
  induction reports with
  | nil => rfl
  | cons here _ ih => rw [List.map_cons, List.map_cons, here.name, ih]

/-- A well-typed listing is always scanned. Deleting the synthetic entries of the result, from
left to right, leaves the entries of the discovered resources one for one and in order; each is
followed by exactly its synthetic entries, and there are no others. So there are as many entries
as discovered resources, and one more for each without a slash in its name and for each of the
core nodes. -/
theorem resources_laid (gv : GroupVersion) {listing : Listing} (typed : listing.WellTyped) :
    ∃ entries, Scan.resources gv listing = .ok entries ∧
      Laid gv (withoutSynthetic gv 0 entries) entries ∧
      List.Forall₂ (Reports gv) listing.found (withoutSynthetic gv 0 entries) ∧
      entries.length = listing.found.length +
        topLevels (listing.found.map (·.name.textOrEmpty)) +
        coreNodes gv (listing.found.map (·.name.textOrEmpty)) := by
  obtain ⟨kept, entries, augmented, laid, reports⟩ := augmentAll_laid gv typed
  refine ⟨entries, augmented, ?_⟩
  rw [laid.withoutSynthetic_eq]
  refine ⟨laid, reports, ?_⟩
  rw [laid.length_eq, names_eq_of_reports reports, reports.length_eq]

/-- The core nodes, listed twice around entries that look like synthetic ones. -/
theorem resources_laid_nodes :
    let nodes := Discovered.ofTexts "nodes" false "Node" ["get"]
    let finalizers := Discovered.ofTexts "nodes/finalizers" false "Node" ["update"]
    let metrics := Discovered.ofTexts "nodes/metrics" false "" []
    let listing : Listing := some [nodes, finalizers, metrics, nodes]
    listing.WellTyped ∧
      ∃ entries, Scan.resources coreV1 listing = .ok entries ∧ entries.length = 8 ∧
        Laid coreV1 (withoutSynthetic coreV1 0 entries) entries ∧
        List.Forall₂ (Reports coreV1) [nodes, finalizers, metrics, nodes]
          (withoutSynthetic coreV1 0 entries) := by
  intro nodes finalizers metrics listing
  have typed : listing.WellTyped := by
    intro found member
    simp only [listing, Listing.found, Option.getD_some, List.mem_cons, List.not_mem_nil,
      or_false] at member
    obtain rfl | rfl | rfl | rfl := member <;> exact Discovered.wellTyped_ofTexts ..
  obtain ⟨entries, scanned, laid, reports, length⟩ := resources_laid coreV1 typed
  exact ⟨typed, entries, scanned, length.trans (by decide), laid, reports⟩

end ApiSurface.Scan
