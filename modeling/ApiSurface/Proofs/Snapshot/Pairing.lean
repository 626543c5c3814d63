import Mathlib.Algebra.BigOperators.Group.List.Basic
import Mathlib.Data.List.OfFn
import Mathlib.Data.Fintype.EquivFin
import ApiSurface.Proofs.Snapshot.Merge

/-!
# Change detection pairs resources one to one

Two well-typed snapshots are equal exactly if they have the same keys and, under each key,
some bijection pairs the resources so that each agrees with its partner: in name, scope
and kind, and in the set of verbs. `equals_iff_paired` says so, together with what follows
from it: equality is an equivalence, it looks neither at the order of resources nor at the
order and number of verbs, and it never overlooks that a resource was added or removed.
-/

namespace ApiSurface

/-- Two resources agree in name, scope and kind, and have the same verbs in any order and
number. -/
structure Resource.Agrees (r s : Resource) : Prop where
  name : r.name = s.name
  namespaced : r.namespaced = s.namespaced
  kind : r.kind = s.kind
  verbs : ∀ verb, verb ∈ r.verbs ↔ verb ∈ s.verbs

/-- Well-typed resources agree exactly if they have the same signature. -/
theorem Resource.WellTyped.agrees_iff {r s : Resource} (typed : r.WellTyped)
    (typedOther : s.WellTyped) : r.Agrees s ↔ s.signature = r.signature := by
  constructor
  · rintro ⟨name, namespaced, kind, verbs⟩
    ext verb
    · simp [signature, name]
    · simp [signature, namespaced]
    · simp [signature, kind]
    · rw [mem_verbs_signature, mem_verbs_signature, verbs]
  · intro same
    obtain ⟨name, nameText⟩ := typed.name
    obtain ⟨kind, kindText⟩ := typed.kind
    obtain ⟨other, otherText⟩ := typedOther.name
    obtain ⟨otherKind, otherKindText⟩ := typedOther.kind
    obtain ⟨sameName, sameScope, sameKind, sameVerbs⟩ := Signature.ext_iff.mp same
    simp only [signature, nameText, kindText, otherText, otherKindText,
      Value.textOrEmpty_text] at sameName sameScope sameKind
    refine ⟨?_, sameScope.symm, ?_, fun verb => ⟨fun member => ?_, fun member => ?_⟩⟩
    · rw [nameText, otherText, sameName]
    · rw [kindText, otherKindText, sameKind]
    · exact typed.verbs_subset_iff.mpr sameVerbs.ge member
    · exact typedOther.verbs_subset_iff.mpr sameVerbs.le member

/-- Two lists have the same images under a function, up to order, exactly if a bijection between
their places pairs members with the same image. -/
theorem perm_map_iff_exists_equiv {α β : Type} [DecidableEq β] {image : α → β} {xs ys : List α} :
    (xs.map image).Perm (ys.map image) ↔
      ∃ pairing : Fin xs.length ≃ Fin ys.length,
        ∀ place, image (ys.get (pairing place)) = image (xs.get place) := by
  -- A list is the family of its members, so that an image occurs as often as it has places.
  have family : ∀ zs : List α, (zs.map image : Multiset β) =
      (Finset.univ : Finset (Fin zs.length)).val.map fun place => image (zs.get place) := by
    intro zs
    rw [Fin.univ_val_map]
    exact congrArg _ (List.ofFn_getElem_eq_map zs image).symm
  rw [← Multiset.coe_eq_coe, family, family]
  constructor
  · intro same
    have fibers : ∀ value : β, Nonempty ({place // image (xs.get place) = value} ≃
        {place // image (ys.get place) = value}) := by
      intro value
      have counted := congrArg (Multiset.count value) same
      rw [Multiset.count_map, Multiset.count_map] at counted
      refine ⟨Fintype.equivOfCardEq ?_⟩
      rw [Fintype.card_subtype, Fintype.card_subtype, Finset.card_def, Finset.card_def,
        Finset.filter_val, Finset.filter_val]
      simpa only [eq_comm] using counted
    exact ⟨Equiv.ofFiberEquiv fun value => (fibers value).some,
      Equiv.ofFiberEquiv_map fun value => (fibers value).some⟩
  · rintro ⟨pairing, paired⟩
    rw [← Multiset.map_univ_val_equiv pairing, Multiset.map_map]
    exact Multiset.map_congr rfl fun place _ => (paired place).symm

/-- Lists of resources made of one another by reordering the resources, and by reordering or
repeating the verbs of a resource. -/
inductive Rearranged : List Resource → List Resource → Prop where
  | reordered {resources others : List Resource} (perm : resources.Perm others) :
      Rearranged resources others
  | verbsReordered {before after : List Resource} {r : Resource} {verbs : List Value}
      (perm : r.verbs.Perm verbs) :
      Rearranged (before ++ r :: after) (before ++ { r with verbs } :: after)
  | verbRepeated {before after : List Resource} {r : Resource} {verb : Value}
      (member : verb ∈ r.verbs) :
      Rearranged (before ++ r :: after) (before ++ { r with verbs := verb :: r.verbs } :: after)
  | trans {resources others more : List Resource} (first : Rearranged resources others)
      (second : Rearranged others more) : Rearranged resources more

/-- Another list with the same verbs makes a resource with the same signature, well-typed if the
other is. -/
theorem Resource.WellTyped.withVerbs {r : Resource} (typed : r.WellTyped) {verbs : List Value}
    (same : ∀ verb, verb ∈ verbs ↔ verb ∈ r.verbs) :
    Resource.WellTyped { r with verbs } ∧
      Resource.signature { r with verbs } = r.signature := by
  have typedOther : Resource.WellTyped { r with verbs } :=
    ⟨typed.name, typed.kind, fun verb member => typed.verbs verb ((same verb).mp member)⟩
  refine ⟨typedOther, (typed.agrees_iff typedOther).mp ⟨rfl, rfl, rfl, fun verb => ?_⟩⟩
  exact (same verb).symm

/-- Well-typed resources stay so when they are rearranged, and their signatures are the same up to
order. -/
theorem Rearranged.signatures {resources others : List Resource}
    (rearranged : Rearranged resources others) (typed : ∀ r ∈ resources, r.WellTyped) :
    (∀ r ∈ others, r.WellTyped) ∧
      (others.map Resource.signature).Perm (resources.map Resource.signature) := by
  -- Only one resource gets other verbs at a time.
  have exchanged : ∀ {before after : List Resource} {r s : Resource},
      (∀ other ∈ before ++ r :: after, other.WellTyped) → s.WellTyped ∧ s.signature = r.signature →
      (∀ other ∈ before ++ s :: after, other.WellTyped) ∧
        ((before ++ s :: after).map Resource.signature).Perm
          ((before ++ r :: after).map Resource.signature) := by
    intro before after r s typed exchange
    refine ⟨fun other member => ?_, by simp [exchange.2]⟩
    simp only [List.mem_append, List.mem_cons] at member typed
    rcases member with here | rfl | there
    · exact typed other (.inl here)
    · exact exchange.1
    · exact typed other (.inr (.inr there))
  induction rearranged with
  | reordered perm =>
    exact ⟨fun r member => typed r (perm.mem_iff.mpr member), perm.symm.map _⟩
  | @verbsReordered before after r verbs perm =>
    exact exchanged typed ((typed r (by simp)).withVerbs fun verb => perm.mem_iff.symm)
  | @verbRepeated before after r verb member =>
    refine exchanged typed ((typed r (by simp)).withVerbs fun other => ?_)
    simp only [List.mem_cons, or_iff_right_iff_imp]
    rintro rfl
    exact member
  | trans _ _ ihFirst ihSecond =>
    obtain ⟨typedOthers, perm⟩ := ihFirst typed
    obtain ⟨typedMore, permMore⟩ := ihSecond typedOthers
    exact ⟨typedMore, permMore.trans perm⟩

namespace Snapshot

variable {s t u : Snapshot}

/-- Two snapshots have the same keys, and under each key a bijection pairs resources that agree. -/
structure Paired (s t : Snapshot) : Prop where
  keys : ∀ key, key ∈ s.keys ↔ key ∈ t.keys
  pairing : ∀ key, ∃ pairing : Fin (s.resourcesAt key).length ≃ Fin (t.resourcesAt key).length,
    ∀ place, ((s.resourcesAt key).get place).Agrees ((t.resourcesAt key).get (pairing place))

/-- Two snapshots have the same keys, and under each key the same resources rearranged. -/
structure Rearranges (s t : Snapshot) : Prop where
  keys : ∀ key, key ∈ s.keys ↔ key ∈ t.keys
  resources : ∀ key, Rearranged (s.resourcesAt key) (t.resourcesAt key)

/-- Well-typed snapshots agree exactly if their resources are paired. -/
theorem WellTyped.paired_iff (typed : s.WellTyped) (typedOther : t.WellTyped) :
    s.Paired t ↔ s.Agrees t := by
  have under : ∀ key,
      (∃ pairing : Fin (s.resourcesAt key).length ≃ Fin (t.resourcesAt key).length,
        ∀ place, ((s.resourcesAt key).get place).Agrees
          ((t.resourcesAt key).get (pairing place))) ↔
      s.signaturesAt key = t.signaturesAt key := by
    intro key
    rw [signaturesAt, signaturesAt, Multiset.coe_eq_coe, perm_map_iff_exists_equiv]
    refine exists_congr fun pairing => forall_congr' fun place => ?_
    exact (typed key _ (List.get_mem _ _)).agrees_iff (typedOther key _ (List.get_mem _ _))
  constructor
  · rintro ⟨keys, pairing⟩
    exact ⟨keys, fun key => (under key).mp (pairing key)⟩
  · rintro ⟨keys, signatures⟩
    exact ⟨keys, fun key => (under key).mpr (signatures key)⟩

/-- A well-typed snapshot agrees with every rearrangement of it. -/
theorem WellTyped.rearranged (typed : s.WellTyped) (rearranges : s.Rearranges t) :
    t.WellTyped ∧ s.Agrees t := by
  have under := fun key => (rearranges.resources key).signatures (typed key)
  exact ⟨fun key => (under key).1, rearranges.keys, fun key =>
    Multiset.coe_eq_coe.mpr (under key).2.symm⟩

/-- Comparing well-typed snapshots always answers. -/
theorem WellTyped.equals_decided (typed : s.WellTyped) (typedOther : t.WellTyped) :
    ∃ equal, s.equals t = .ok equal := by
  cases compared : s.equals t with
  | error kind => exact absurd compared (typed.equals_ne_error typedOther kind)
  | ok equal => exact ⟨equal, rfl⟩

/-- Well-typed snapshots that agree alike compare alike. -/
theorem WellTyped.equals_congr {s' t' : Snapshot} (typed : s.WellTyped)
    (typedOther : t.WellTyped) (typed' : s'.WellTyped) (typedOther' : t'.WellTyped)
    (alike : s.Agrees t ↔ s'.Agrees t') : s.equals t = s'.equals t' := by
  obtain ⟨equal, compared⟩ := typed.equals_decided typedOther
  obtain ⟨equal', compared'⟩ := typed'.equals_decided typedOther'
  have same : equal = true ↔ equal' = true := by
    have here := typed.equals_eq_ok_true_iff (t := t)
    have there := typed'.equals_eq_ok_true_iff (t := t')
    rw [compared, Except.ok.injEq, and_iff_right typedOther] at here
    rw [compared', Except.ok.injEq, and_iff_right typedOther'] at there
    rw [here, alike, there]
  rw [compared, compared', Bool.eq_iff_iff.mpr same]

/-! ## Counts -/

/-- Snapshots that agree have as many resources under each key. -/
theorem Agrees.length_eq (agrees : s.Agrees t) (key : Text) :
    (s.resourcesAt key).length = (t.resourcesAt key).length := by
  simpa [signaturesAt] using congrArg Multiset.card (agrees.signatures key)

/-- The keys of snapshots that agree are the same up to order. -/
theorem Agrees.keys_perm (agrees : s.Agrees t) : s.keys.Perm t.keys :=
  (List.perm_ext_iff_of_nodup s.nodup t.nodup).mpr agrees.keys

/-- The resources are counted key by key. -/
theorem resourceCount_eq_sum (s : Snapshot) :
    s.resourceCount = (s.keys.map fun key => (s.resourcesAt key).length).sum := by
  have counts : s.entries.map (fun entry => entry.2.length) =
      s.entries.map fun entry => (s.resourcesAt entry.1).length := by
    refine List.map_congr_left fun entry member => ?_
    rw [resourcesAt_of_mem (member : (entry.1, entry.2) ∈ s.entries)]
  rw [resourceCount, List.length_flatMap, counts, keys, List.map_map]
  rfl

/-- Snapshots that agree have as many keys and as many resources. -/
theorem Agrees.counts_eq (agrees : s.Agrees t) :
    s.size = t.size ∧ s.resourceCount = t.resourceCount := by
  constructor
  · simpa only [Snapshot.keys, size, List.length_map] using agrees.keys_perm.length_eq
  · rw [resourceCount_eq_sum, resourceCount_eq_sum, (agrees.keys_perm.map _).sum_eq]
    simp only [agrees.length_eq]

/-- Snapshots do not agree where one has one resource more under a key. -/
theorem not_agrees_of_added {key : Text} {before after : List Resource} {r : Resource}
    (original : s.resourcesAt key = before ++ after)
    (added : t.resourcesAt key = before ++ r :: after) : ¬ s.Agrees t := by
  intro agrees
  have same := agrees.length_eq key
  rw [original, added] at same
  simp only [List.length_append, List.length_cons] at same
  omega

/-! ## Change detection -/

/-- Comparing snapshots of texts always answers, and finds them equal exactly if they have the same
keys and under each key a bijection pairs resources of the same name, scope and kind with the same
verbs. So being equal is an equivalence; nothing depends on the order of resources or on the order
and number of verbs; a copy is equal to its original; equal snapshots have as many keys and as many
resources; and a snapshot with one resource more under a key, whatever else it holds, is never
equal to one without. -/
theorem equals_iff_paired (typed : s.WellTyped) (typedOther : t.WellTyped) :
    (∃ equal, s.equals t = .ok equal) ∧
    (s.equals t = .ok true ↔ s.Paired t) ∧
    s.equals s = .ok true ∧
    t.equals s = s.equals t ∧
    (∀ u, u.WellTyped → s.equals t = .ok true → t.equals u = .ok true → s.equals u = .ok true) ∧
    (∀ u, t.Rearranges u → u.WellTyped ∧ t.equals u = .ok true ∧
      s.equals u = s.equals t ∧ u.equals s = t.equals s) ∧
    (s.copy.equals s = .ok true ∧ s.equals s.copy = .ok true) ∧
    (s.equals t = .ok true → s.size = t.size ∧ s.resourceCount = t.resourceCount) ∧
    ∀ key before r after, s.resourcesAt key = before ++ after →
      t.resourcesAt key = before ++ r :: after →
        s.equals t = .ok false ∧ t.equals s = .ok false := by
  have equal_iff : ∀ {s t : Snapshot}, s.WellTyped → t.WellTyped →
      (s.equals t = .ok true ↔ s.Agrees t) := fun typed typedOther => by
    rw [typed.equals_eq_ok_true_iff, and_iff_right typedOther]
  have reflexive : ∀ {s : Snapshot}, s.WellTyped → s.equals s = .ok true := fun typed =>
    (equal_iff typed typed).mpr (.refl _)
  have symmetric : t.equals s = s.equals t :=
    typedOther.equals_congr typed typed typedOther ⟨.symm, .symm⟩
  refine ⟨typed.equals_decided typedOther, ?_, reflexive typed, symmetric, ?_, ?_, ?_, ?_, ?_⟩
  · rw [equal_iff typed typedOther, typed.paired_iff typedOther]
  · intro u typedThird first second
    rw [equal_iff typed typedOther] at first
    rw [equal_iff typedOther typedThird] at second
    exact (equal_iff typed typedThird).mpr (first.trans second)
  · intro u rearranges
    obtain ⟨typedThird, agrees⟩ := typedOther.rearranged rearranges
    refine ⟨typedThird, (equal_iff typedOther typedThird).mpr agrees, ?_, ?_⟩
    · exact typed.equals_congr typedThird typed typedOther
        ⟨fun same => same.trans agrees.symm, fun same => same.trans agrees⟩
    · exact typedThird.equals_congr typed typedOther typed
        ⟨fun same => agrees.trans same, fun same => agrees.symm.trans same⟩
  · rw [copy_eq]
    exact ⟨reflexive typed, reflexive typed⟩
  · intro equal
    exact ((equal_iff typed typedOther).mp equal).counts_eq
  · intro key before r after original added
    have different : s.equals t = .ok false := by
      obtain ⟨equal, compared⟩ := typed.equals_decided typedOther
      cases equal with
      | false => exact compared
      | true =>
        exact absurd ((equal_iff typed typedOther).mp compared) (not_agrees_of_added original added)
    exact ⟨different, symmetric.trans different⟩

/-- A name listed three times is paired up whatever the order, and so is not another choice of
the same resources. -/
theorem equals_iff_paired_repeated :
    let pods (verbs : List Text) : Resource := ⟨.text "pods", true, .text "Pod", verbs.map .text⟩
    let s := empty.add "v1" [pods ["get", "list"], pods ["get"], pods ["get", "list"]]
    let t := empty.add "v1" [pods ["get"], pods ["list", "get"], pods ["get", "list", "get"]]
    let u := empty.add "v1" [pods ["get"], pods ["get"], pods ["get", "list"]]
    s.WellTyped ∧ t.WellTyped ∧ u.WellTyped ∧ s.Paired t ∧ ¬ s.Paired u := by
  intro pods s t u
  have typed : ∀ verbs, (pods verbs).WellTyped := fun verbs =>
    ⟨⟨_, rfl⟩, ⟨_, rfl⟩, fun verb member => by
      obtain ⟨text, -, rfl⟩ := List.mem_map.mp member
      exact ⟨text, rfl⟩⟩
  have typedAll : ∀ first second third,
      (empty.add "v1" [pods first, pods second, pods third]).WellTyped := by
    intro first second third
    refine wellTyped_empty.add fun r member => ?_
    simp only [List.mem_cons, List.not_mem_nil, or_false] at member
    obtain rfl | rfl | rfl := member <;> exact typed _
  have equal : s.equals t = .ok true := by rfl
  have different : s.equals u = .ok false := by rfl
  refine ⟨typedAll _ _ _, typedAll _ _ _, typedAll _ _ _, ?_, fun paired => ?_⟩
  · exact (equals_iff_paired (typedAll _ _ _) (typedAll _ _ _)).2.1.mp equal
  · rw [(equals_iff_paired (typedAll _ _ _) (typedAll _ _ _)).2.1.mpr paired] at different
    cases different

end Snapshot

end ApiSurface
