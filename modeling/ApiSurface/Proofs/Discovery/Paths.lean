import ApiSurface.Cluster.Endpoint
import ApiSurface.Proofs.Discovery.Answers
import ApiSurface.Proofs.Discovery.Pool
import ApiSurface.Proofs.Tracker.Requests

/-!
# Keys and paths

A group-version is requested under the path of its key, and the root of that path is read off the
key alone. Where versions and the names of groups hold no slash, that is the path under which the
cluster serves it (`map_pathOf_served`), a path belongs to one key only (`pathOf_injective`), and a
key to one group-version only. So a completed discovery requests what is served, each as often as it
is listed, and the keys of what it puts together are the paths without their roots
(`discovery_agrees`).
-/

namespace ApiSurface.Cluster

/-- Everything served, the core group's versions first. -/
def served (core : Option (List Text)) (groups : Option (List ApiGroup)) : List GroupVersion :=
  coreGroupVersions core ++ namedGroupVersions groups

/-- The paths under which the core group's versions are served. -/
def corePaths (versions : Option (List Text)) : List Text :=
  (versions.getD []).map fun version => "/api/" ++ version

/-- The paths under which the versions of a named group are served. -/
def pathsOf (group : ApiGroup) : List Text :=
  (group.versions.getD []).map fun version => "/apis/" ++ group.name ++ "/" ++ version

/-- All paths under which group-versions are served. -/
def servedPaths (core : Option (List Text)) (groups : Option (List ApiGroup)) : List Text :=
  corePaths core ++ (groups.getD []).flatMap pathsOf

/-- Versions hold no slash, and the names of groups are not empty and hold none. -/
structure Named (core : Option (List Text)) (groups : Option (List ApiGroup)) : Prop where
  core : ∀ version ∈ core.getD [], ¬ Scan.HasSlash version
  nonempty : ∀ group ∈ groups.getD [], group.name ≠ []
  group : ∀ group ∈ groups.getD [], ¬ Scan.HasSlash group.name
  version : ∀ group ∈ groups.getD [], ∀ version ∈ group.versions.getD [], ¬ Scan.HasSlash version

variable {core : Option (List Text)} {groups : Option (List ApiGroup)}

/-! ## Paths -/

theorem pathOf_of_not_hasSlash {key : Text} (noSlash : ¬ Scan.HasSlash key) :
    pathOf key = "/api/" ++ key := by
  have root : rootOf key = "/api" := if_neg (mt List.contains_iff_mem.mp noSlash)
  have joined : ("/api" : Text) ++ ("/" : Text) = "/api/" := by decide
  rw [pathOf, root, joined]

theorem pathOf_of_hasSlash {key : Text} (slash : Scan.HasSlash key) :
    pathOf key = "/apis/" ++ key := by
  have root : rootOf key = "/apis" := if_pos (List.contains_iff_mem.mpr slash)
  have joined : ("/apis" : Text) ++ ("/" : Text) = "/apis/" := by decide
  rw [pathOf, root, joined]

/-- The path of a key is the key behind one of the two roots. -/
theorem pathOf_cases (key : Text) : pathOf key = "/api/" ++ key ∨ pathOf key = "/apis/" ++ key := by
  by_cases slash : Scan.HasSlash key
  · exact .inr (pathOf_of_hasSlash slash)
  · exact .inl (pathOf_of_not_hasSlash slash)

/-- No path stands behind both roots. -/
theorem roots_apart (key other : Text) : ("/api/" : Text) ++ key ≠ "/apis/" ++ other := by
  intro same
  have fifth : (("/api/" : Text) ++ key)[4]? = (("/apis/" : Text) ++ other)[4]? := by rw [same]
  change some (CodePoint.char '/') = some (CodePoint.char 's') at fifth
  exact absurd fifth (by decide)

/-- Different keys have different paths. -/
theorem pathOf_injective : Function.Injective pathOf := by
  intro key other same
  rcases pathOf_cases key with path | path <;> rcases pathOf_cases other with path' | path' <;>
    rw [path, path'] at same
  · exact List.append_cancel_left same
  · exact absurd same (roots_apart key other)
  · exact absurd same.symm (roots_apart other key)
  · exact List.append_cancel_left same

theorem pathOf_key_of_core {version : Text} (noSlash : ¬ Scan.HasSlash version) :
    pathOf (GroupVersion.key ⟨"", version⟩) = "/api/" ++ version :=
  pathOf_of_not_hasSlash noSlash

theorem pathOf_key_of_named {name : Text} (nonempty : name ≠ []) (version : Text) :
    pathOf (GroupVersion.key ⟨name, version⟩) = "/apis/" ++ name ++ "/" ++ version := by
  have key : GroupVersion.key ⟨name, version⟩ = name ++ "/" ++ version :=
    if_neg (mt List.isEmpty_iff.mp nonempty)
  have slash : Scan.HasSlash (name ++ "/" ++ version) :=
    List.mem_append_left _ (List.mem_append_right _ (by decide))
  rw [key, pathOf_of_hasSlash slash, List.append_assoc, List.append_assoc, List.append_assoc]

/-! ## What is served -/

namespace Named

/-- Group-versions that are served hold no slash. -/
theorem slashFree (named : Named core groups) : ∀ gv ∈ served core groups, gv.SlashFree := by
  intro gv member
  rcases List.mem_append.mp member with inCore | ofNamed
  · obtain ⟨version, given, rfl⟩ := List.mem_map.mp inCore
    exact ⟨List.not_mem_nil, named.core version given⟩
  · obtain ⟨group, inGroups, ofGroup⟩ := List.mem_flatMap.mp ofNamed
    obtain ⟨version, given, rfl⟩ := List.mem_map.mp ofGroup
    exact ⟨named.group group inGroups, named.version group inGroups version given⟩

/-- The paths of the keys of what is served are the paths under which it is served. -/
theorem map_pathOf_served (named : Named core groups) :
    (served core groups).map (fun gv => pathOf gv.key) = servedPaths core groups := by
  have ofCore : (coreGroupVersions core).map (fun gv => pathOf gv.key) = corePaths core := by
    rw [coreGroupVersions, List.map_map]
    exact List.map_congr_left fun version given => pathOf_key_of_core (named.core version given)
  have ofGroup : ∀ group ∈ groups.getD [],
      (groupVersionsOf group).map (fun gv => pathOf gv.key) = pathsOf group := by
    intro group inGroups
    rw [groupVersionsOf, List.map_map]
    exact List.map_congr_left fun version _ =>
      pathOf_key_of_named (named.nonempty group inGroups) version
  rw [served, List.map_append, ofCore, namedGroupVersions, List.map_flatMap, servedPaths,
    List.flatMap_congr ofGroup]

end Named

/-! ## Completed passes -/

open Tracker

/-- The keys that were requested through a client and the snapshot put together of the answers agree
with what is served: the requests are for the paths served, each as often as it is served, every key
of the snapshot is that of one group-version alone, and its path without the root is the key. -/
structure Agrees {τ : Type} (client : Client τ) (core : Option (List Text))
    (groups : Option (List ApiGroup)) (requested : Multiset Text) (collected : Snapshot) :
    Prop where
  requests : (requested.map fun key => (client.request key).path) = servedPaths core groups
  owner : ∀ key, key ∈ collected.keys ↔ ∃! gv, gv ∈ served core groups ∧ gv.key = key
  path : ∀ key, key ∈ collected.keys ↔ (client.request key).path ∈ servedPaths core groups
  root : ∀ key ∈ collected.keys,
    (client.request key).path = "/api/" ++ key ∨ (client.request key).path = "/apis/" ++ key

/-- Requesting everything served under its key agrees with what is served. -/
theorem Named.agrees {τ : Type} (named : Named core groups) (client : Client τ)
    {requested : Multiset Text} {collected : Snapshot}
    (asked : requested = ((served core groups).map GroupVersion.key : List Text))
    (keys : ∀ key, key ∈ collected.keys ↔ ∃ gv ∈ served core groups, gv.key = key) :
    Agrees client core groups requested collected where
  requests := by
    rw [asked, Multiset.map_coe, List.map_map, ← named.map_pathOf_served]
    rfl
  owner key := by
    rw [keys]
    constructor
    · rintro ⟨gv, member, rfl⟩
      refine ⟨gv, ⟨member, rfl⟩, fun other ⟨otherMember, same⟩ => ?_⟩
      exact (named.slashFree other otherMember).key_inj (named.slashFree gv member) same
    · exact ExistsUnique.exists
  path key := by
    rw [keys, ← named.map_pathOf_served, List.mem_map]
    exact exists_congr fun gv => and_congr_right fun _ => pathOf_injective.eq_iff.symm
  root key _ := pathOf_cases key

/-- Slash-free group-versions are told apart by their keys, and everything served is slash-free. A
discovery that returns, under the lock and whatever calls back meanwhile, and a pass of a pool of
workers on any schedule have requested what is served, and their keys agree with it. -/
theorem discovery_agrees {τ : Type} [Scalar τ] (named : Named core groups) (client : Client τ) :
    Set.InjOn GroupVersion.key {gv | gv.SlashFree} ∧
    (∀ gv ∈ served core groups, gv.SlashFree) ∧
    (∀ (around : Surroundings τ) (given : Option Signal) (depth : Nat) (stop : Signal)
        (w after : World τ) (collected : Snapshot),
      (around.groups (.listedGroups :: w.journal)).outcome =
        (listGroupVersions (.ok core) (.ok groups)).2 →
      w.tracker.rebuilding = true →
      discover (.nested around given depth) stop w = (.ok collected, after) →
      ∃ requested, requestsIn after.journal = requested ++ requestsIn w.journal ∧
        Agrees client core groups requested collected) ∧
    ∀ (scans : Scans) (workers : Nat) (requested : Multiset GroupVersion) (collected : Snapshot),
      Pool.Ends scans workers (served core groups) requested (.ok collected) →
        Agrees client core groups (requested.map GroupVersion.key) collected := by
  refine ⟨fun gv slashFree other otherSlashFree same => slashFree.key_inj otherSlashFree same,
    named.slashFree, ?_, ?_⟩
  · intro around given depth stop w after collected lists locked returned
    obtain ⟨listed, answered, asked, keys⟩ :=
      discover_asks (Context.nested_locked_unasked around given depth) locked returned
    rw [Context.nested_around, lists] at answered
    cases answered
    refine ⟨_, asked.requests, named.agrees client ?_ keys⟩
    exact Multiset.coe_eq_coe.mpr (List.reverse_perm _)
  · intro scans workers requested collected ends
    obtain ⟨rfl, _, keys, _⟩ := ends.of_ok
    exact named.agrees client (Multiset.map_coe ..) keys

/-- The core group, a group with two versions and one without any: three paths are requested, and
the keys are these paths without their roots. -/
theorem discovery_agrees_three :
    let core : Option (List Text) := some ["v1"]
    let groups : Option (List ApiGroup) :=
      some [⟨"apps", some ["v1", "v1beta1"]⟩, ⟨"batch", none⟩]
    let around : Surroundings Rat :=
      .steady (listGroupVersions (.ok core) (.ok groups)).2 (fun _ => .ok none) (.ok [])
    let fresh : World Rat := World.fresh .exact 0
    let w : World Rat := { fresh with tracker := { fresh.tracker with rebuilding := true } }
    let client : Client Rat := ⟨none⟩
    Named core groups ∧ w.tracker.rebuilding = true ∧
      ∃ collected after requested,
        discover (.nested around none 0) 0 w = (.ok collected, after) ∧
        collected.keys = ["v1", "apps/v1", "apps/v1beta1"] ∧
        requestsIn after.journal = requested ++ requestsIn w.journal ∧
        (requested.map fun key => (client.request key).path).reverse =
          ["/api/v1", "/apis/apps/v1", "/apis/apps/v1beta1"] ∧
        Agrees client core groups requested collected := by
  intro core groups around fresh w client
  have named : Named core groups := ⟨by decide, by decide, by decide, by decide⟩
  obtain ⟨collected, after, returned, keys, requests⟩ : ∃ collected after,
      discover (.nested around none 0) 0 w = (.ok collected, after) ∧
        collected.keys = ["v1", "apps/v1", "apps/v1beta1"] ∧
        requestsIn after.journal = ["apps/v1beta1", "apps/v1", "v1"] :=
    ⟨_, _, rfl, rfl, rfl⟩
  obtain ⟨_, _, agrees, _⟩ := discovery_agrees (τ := Rat) named client
  obtain ⟨requested, since, agree⟩ := agrees around none 0 0 w after collected rfl rfl returned
  have none : requestsIn w.journal = [] := rfl
  rw [none, List.append_nil, requests] at since
  refine ⟨named, rfl, collected, after, requested, returned, keys, ?_, ?_, agree⟩
  · rw [requests, none, List.append_nil, since]
  · rw [← since]
    decide

end ApiSurface.Cluster
