import ApiSurface.Resource

/-!
# Snapshots of the served resources

A snapshot holds the resources of every group-version that was scanned, under its
key. Two snapshots are compared by their keys and, under each key, by whether the
resources pair up one to one with alike ones; the order of keys and of resources
means nothing, and a name listed twice counts twice. A comparison fails where it
meets a resource that cannot be compared.

Snapshots are values: a copy is put together anew from the entries, and nothing done to
one snapshot is seen through another.
-/

namespace ApiSurface

/-- The resources under every key, in the order in which they were added. -/
structure Snapshot where
  entries : List (Text × List Resource)
  nodup : (entries.map (·.1)).Nodup

namespace Snapshot

/-- The snapshot of nothing. -/
def empty : Snapshot := ⟨[], List.nodup_nil⟩

instance : Inhabited Snapshot := ⟨empty⟩

/-- The keys in order. -/
def keys (s : Snapshot) : List Text := s.entries.map (·.1)

/-- The number of keys. -/
def size (s : Snapshot) : Nat := s.entries.length

/-- The resources under a key, none if there is no such key. -/
def resourcesAt (s : Snapshot) (key : Text) : List Resource := (s.entries.lookup key).getD []

/-- The number of resources under all keys. -/
def resourceCount (s : Snapshot) : Nat := (s.entries.flatMap fun entry => entry.2).length

/-- How large a snapshot is, as messages say it. -/
def sizeText (s : Snapshot) : String :=
  toString s.size ++ " group-versions, " ++ toString s.resourceCount ++ " resources"

/-- The message with which a change of the snapshot is logged. -/
def changeMessage (s : Snapshot) : String := "API resource snapshot changed: " ++ s.sizeText

/-- The entries with resources added at the end of those under a key. -/
def addTo (key : Text) (added : List Resource) :
    List (Text × List Resource) → List (Text × List Resource)
  | [] => [(key, added)]
  | (other, resources) :: rest =>
    if other == key then (other, resources ++ added) :: rest
    else (other, resources) :: addTo key added rest

theorem keys_addTo (key : Text) (added : List Resource) (entries : List (Text × List Resource)) :
    (addTo key added entries).map (·.1) =
      if key ∈ entries.map (·.1) then entries.map (·.1) else entries.map (·.1) ++ [key] := by
  induction entries with
  | nil => simp [addTo]
  | cons entry rest ih =>
    obtain ⟨other, resources⟩ := entry
    by_cases same : other = key
    · simp [addTo, same]
    · have differs : ¬ key = other := fun e => same e.symm
      simp only [addTo, beq_iff_eq, same, if_false, List.map_cons, ih, List.mem_cons, differs,
        false_or]
      split <;> simp

theorem nodup_addTo (key : Text) (added : List Resource) {entries : List (Text × List Resource)}
    (nodup : (entries.map (·.1)).Nodup) : ((addTo key added entries).map (·.1)).Nodup := by
  rw [keys_addTo]
  split
  · exact nodup
  · rename_i absent
    rw [List.nodup_append]
    refine ⟨nodup, by simp, ?_⟩
    intro a member b single e
    simp only [List.mem_singleton] at single
    exact absent (single ▸ e ▸ member)

/-- The snapshot with resources added under a key. -/
def add (s : Snapshot) (key : Text) (resources : List Resource) : Snapshot :=
  ⟨addTo key resources s.entries, nodup_addTo key resources s.nodup⟩

/-- The snapshot without a key. -/
def erase (s : Snapshot) (key : Text) : Snapshot :=
  ⟨s.entries.filter fun entry => entry.1 != key,
    (List.Sublist.map _ List.filter_sublist).nodup s.nodup⟩

/-- The snapshot with nothing left under a key. -/
def clear (s : Snapshot) (key : Text) : Snapshot :=
  ⟨s.entries.map fun entry => (entry.1, if entry.1 == key then [] else entry.2), by
    rw [List.map_map]
    exact s.nodup⟩

/-- The snapshot of a list of keys with their resources, each key's put together. -/
def ofList (entries : List (Text × List Resource)) : Snapshot :=
  entries.foldl (fun s entry => s.add entry.1 entry.2) empty

/-- The snapshot put together anew, key by key, from its own entries. -/
def copy (s : Snapshot) : Snapshot := ofList s.entries

/-- Whether two snapshots have the same keys. -/
def sameKeys (s t : Snapshot) : Bool :=
  s.keys.all t.keys.contains && t.keys.all s.keys.contains

/-- A list without the first of its members that fits, if one does. -/
def removeFirst {α : Type} (fits : α → Bool) : List α → Option (List α)
  | [] => none
  | x :: xs => if fits x then some xs else (removeFirst fits xs).map (x :: ·)

/-- Whether two lists pair up one to one. -/
def pairsUp {α : Type} (alike : α → α → Bool) : List α → List α → Bool
  | [], others => others.isEmpty
  | x :: xs, others =>
    match removeFirst (alike x) others with
    | some rest => pairsUp alike xs rest
    | none => false

/-- Compares the resources under the same key of two snapshots. -/
def compareResources (resources others : List Resource) : Except Misuse Bool :=
  if resources.all Resource.isComparable && others.all Resource.isComparable then
    .ok (pairsUp Resource.alike resources others)
  else .error .wrongType

/-- Compares entries with what another snapshot has under their keys, up to the first
difference. -/
def compareEntries (other : Snapshot) : List (Text × List Resource) → Except Misuse Bool
  | [] => .ok true
  | (key, resources) :: rest =>
    match compareResources resources (other.resourcesAt key) with
    | .error kind => .error kind
    | .ok true => compareEntries other rest
    | .ok false => .ok false

/-- Whether two snapshots hold the same resources. -/
def equals (s t : Snapshot) : Except Misuse Bool :=
  if s.sameKeys t then compareEntries t s.entries else .ok false

end Snapshot

end ApiSurface
