import ApiSurface.Text.Basic

/-!
# The identities of known definitions

A set of UIDs. Adding tells whether the UID was new, which is how the replay that
opens every watch is told from real additions; replacing forgets everything that
is not listed again.
-/

namespace ApiSurface.Crd

/-- A set of UIDs, in the order in which they became known. -/
structure IdentitySet where
  uids : List Text
  nodup : uids.Nodup

namespace IdentitySet

/-- The set that knows nothing. -/
def empty : IdentitySet := ⟨[], List.nodup_nil⟩

instance : Inhabited IdentitySet := ⟨empty⟩

/-- The number of known UIDs. -/
def size (known : IdentitySet) : Nat := known.uids.length

/-- Whether a UID is known. -/
def contains (known : IdentitySet) (uid : Text) : Bool := known.uids.contains uid

/-- The set with one UID more, or itself if the UID is known. -/
def insert (known : IdentitySet) (uid : Text) : IdentitySet :=
  if h : uid ∈ known.uids then known
  else
    ⟨known.uids ++ [uid], by
      rw [List.nodup_append]
      exact ⟨known.nodup, by simp, fun a ha b hb => by
        simp only [List.mem_singleton] at hb
        exact fun e => h (hb ▸ e ▸ ha)⟩⟩

/-- The set of the UIDs of a list. -/
def ofList (uids : List Text) : IdentitySet := uids.foldl insert empty

theorem mem_insert {known : IdentitySet} {uid other : Text} :
    other ∈ (known.insert uid).uids ↔ other ∈ known.uids ∨ other = uid := by
  unfold insert
  split <;> simp_all

theorem mem_foldl_insert {uids : List Text} {known : IdentitySet} {uid : Text} :
    uid ∈ (uids.foldl insert known).uids ↔ uid ∈ known.uids ∨ uid ∈ uids := by
  induction uids generalizing known with
  | nil => simp
  | cons first rest ih => simp [ih, mem_insert, or_assoc]

theorem mem_ofList {uids : List Text} {uid : Text} :
    uid ∈ (ofList uids).uids ↔ uid ∈ uids := by
  simp [ofList, mem_foldl_insert, empty]

theorem contains_iff {known : IdentitySet} {uid : Text} :
    known.contains uid = true ↔ uid ∈ known.uids := by
  simp [contains]

end IdentitySet

end ApiSurface.Crd
