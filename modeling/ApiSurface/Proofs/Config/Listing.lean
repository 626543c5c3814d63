import Mathlib.Data.List.Forall2
import ApiSurface.Config
import ApiSurface.Proofs.Text.Fields

/-!
# The list of awaited definitions

A list is read entry by entry. A blank entry says nothing, one with three parts between slashes of which
none is blank names a kind, and any other is refused. What is read is exactly what can be written: a text
is read as some kinds if and only if it lists them, with blanks wherever they may stand.
-/

namespace ApiSurface

open Text

namespace Crd.GroupVersionKind

/-- The parts of a kind in the order in which they are written. -/
def parts (gvk : GroupVersionKind) : List Text := [gvk.group, gvk.version, gvk.kind]

theorem parts_inj {gvk other : GroupVersionKind} : gvk.parts = other.parts ↔ gvk = other := by
  cases gvk
  cases other
  simp [parts]

/-- A part that can be written: not empty, trimmed, and without the two separators. -/
structure WritablePart (part : Text) : Prop where
  nonempty : part ≠ []
  trimmed : Trimmed part
  comma : .char ',' ∉ part
  slash : .char '/' ∉ part

/-- A kind whose parts can be written. -/
def Writable (gvk : GroupVersionKind) : Prop := ∀ part ∈ gvk.parts, WritablePart part

/-- An entry that writes a kind: its parts between slashes, each with blanks around it. -/
def WrittenAs (gvk : GroupVersionKind) (entry : Text) : Prop :=
  ∃ written, List.Forall₂ Padded gvk.parts written ∧ joinFields (.char '/') written = entry

end Crd.GroupVersionKind

namespace Config

open Crd (GroupVersionKind)

/-! ## One entry -/

/-- An entry of exactly three parts between slashes, none of them blank. -/
structure NamesKind (entry : Text) : Prop where
  three : (fields (.char '/') entry).length = 3
  filled : ∀ part ∈ fields (.char '/') entry, ¬ AllBlank part

/-- The parts of an entry without the blanks around them. -/
def trimmedParts (entry : Text) : List Text := (fields (.char '/') entry).map trim

theorem trimmedParts_trim (entry : Text) : trimmedParts (trim entry) = trimmedParts entry :=
  ((trim_padded entry).fields_trim_eq (by decide)).symm

theorem namesKind_iff {entry : Text} :
    NamesKind entry ↔ (trimmedParts entry).length = 3 ∧ ∀ part ∈ trimmedParts entry, part ≠ [] := by
  have filled : (∀ part ∈ trimmedParts entry, part ≠ []) ↔
      ∀ part ∈ fields (.char '/') entry, ¬ AllBlank part := by
    simp [trimmedParts, trim_eq_nil_iff]
  rw [filled, trimmedParts, List.length_map]
  exact ⟨fun named => ⟨named.three, named.filled⟩, fun both => ⟨both.1, both.2⟩⟩

instance (entry : Text) : Decidable (NamesKind entry) := decidable_of_iff' _ namesKind_iff

theorem NamesKind.exists_parts {entry : Text} (named : NamesKind entry) :
    ∃ gvk : GroupVersionKind, gvk.parts = trimmedParts entry := by
  obtain ⟨group, version, kind, three⟩ := List.length_eq_three.mp (namesKind_iff.mp named).1
  exact ⟨⟨group, version, kind⟩, three.symm⟩

theorem readEntry_of_namesKind {entry : Text} {gvk : GroupVersionKind} (named : NamesKind entry)
    (shown : gvk.parts = trimmedParts entry) : readEntry (trim entry) = .ok gvk := by
  have nonempty : ∀ part ∈ gvk.parts, part ≠ [] := shown ▸ (namesKind_iff.mp named).2
  simp only [GroupVersionKind.parts, List.forall_mem_cons] at nonempty
  have same : (fields (.char '/') (trim entry)).map trim = gvk.parts :=
    (trimmedParts_trim entry).trans shown.symm
  unfold readEntry
  rw [same]
  simp [GroupVersionKind.parts, nonempty]

theorem readEntry_of_not_namesKind {entry : Text} (unnamed : ¬ NamesKind entry) :
    readEntry (trim entry) = .error (.badEntry (trim entry)) := by
  have other := namesKind_iff.not.mp unnamed
  unfold readEntry
  split
  · next group version kind same =>
    rw [← trimmedParts_trim, trimmedParts, same] at other
    rw [if_pos]
    by_contra filled
    simp_all
  · rfl

/-! ## All entries -/

theorem readEntries_blank {entry : Text} (blank : AllBlank entry) (entries : List Text) :
    readEntries (entry :: entries) = readEntries entries := by
  rw [readEntries, if_pos (trim_isEmpty_iff.mpr blank)]

theorem NamesKind.not_allBlank {entry : Text} (named : NamesKind entry) : ¬ AllBlank entry := by
  intro blank
  have free : CodePoint.char '/' ∉ entry := fun inside => absurd (blank _ inside) (by decide)
  have three := named.three
  rw [fields_of_not_mem free] at three
  simp at three

theorem readEntries_kind {entry : Text} {gvk : GroupVersionKind} (named : NamesKind entry)
    (shown : gvk.parts = trimmedParts entry) (entries : List Text) :
    readEntries (entry :: entries) = (readEntries entries).map (gvk :: ·) := by
  rw [readEntries, if_neg (trim_isEmpty_iff.not.mpr named.not_allBlank),
    readEntry_of_namesKind named shown]
  cases readEntries entries <;> rfl

theorem readEntries_refused {entry : Text} (filled : ¬ AllBlank entry)
    (unnamed : ¬ NamesKind entry) (entries : List Text) :
    readEntries (entry :: entries) = .error (.badEntry (trim entry)) := by
  rw [readEntries, if_neg (trim_isEmpty_iff.not.mpr filled), readEntry_of_not_namesKind unnamed]

/-- An entry that may stand in a list. -/
def Admissible (entry : Text) : Prop := AllBlank entry ∨ NamesKind entry

instance (entry : Text) : Decidable (Admissible entry) := instDecidableOr

/-- Each entry is blank, names a kind, or is refused. -/
theorem entry_cases (entry : Text) :
    AllBlank entry ∨ (NamesKind entry ∧ ∃ gvk : GroupVersionKind, gvk.parts = trimmedParts entry) ∨
      (¬ AllBlank entry ∧ ¬ NamesKind entry) := by
  by_cases blank : AllBlank entry
  · exact .inl blank
  · by_cases named : NamesKind entry
    · exact .inr (.inl ⟨named, named.exists_parts⟩)
    · exact .inr (.inr ⟨blank, named⟩)

/-- The parts of the entries that are not blank. -/
def shownParts (entries : List Text) : List (List Text) :=
  (entries.filter fun entry => ¬ AllBlank entry).map trimmedParts

theorem shownParts_kind {entry : Text} (named : NamesKind entry) (entries : List Text) :
    shownParts (entry :: entries) = trimmedParts entry :: shownParts entries := by
  simp [shownParts, named.not_allBlank]

theorem readEntries_eq_ok_iff {entries : List Text} {gvks : List GroupVersionKind} :
    readEntries entries = .ok gvks ↔
      (∀ entry ∈ entries, Admissible entry) ∧
        gvks.map GroupVersionKind.parts = shownParts entries := by
  induction entries generalizing gvks with
  | nil => simp [readEntries, shownParts, eq_comm]
  | cons entry entries ih =>
    rcases entry_cases entry with blank | ⟨named, gvk, shown⟩ | ⟨filled, unnamed⟩
    · rw [readEntries_blank blank, ih]
      simp [shownParts, Admissible, blank]
    · have admissible : Admissible entry := .inr named
      have onward : (readEntries entries).map (gvk :: ·) = .ok gvks ↔
          ∃ more, gvk :: more = gvks ∧ readEntries entries = .ok more := by
        cases readEntries entries <;> simp [Except.map, eq_comm]
      rw [readEntries_kind named shown, onward, shownParts_kind named, List.forall_mem_cons,
        and_iff_right admissible, ← shown]
      cases gvks with
      | nil => simp
      | cons first more =>
        simp only [List.cons.injEq, List.map_cons, GroupVersionKind.parts_inj]
        constructor
        · rintro ⟨_, ⟨rfl, rfl⟩, read⟩
          exact ⟨(ih.mp read).1, rfl, (ih.mp read).2⟩
        · rintro ⟨all, rfl, shownRest⟩
          exact ⟨more, ⟨rfl, rfl⟩, ih.mpr ⟨all, shownRest⟩⟩
    · simp [readEntries_refused filled unnamed, Admissible, filled, unnamed]

/-- Lists are read one after the other, up to the first entry that is refused. -/
theorem readEntries_append (first second : List Text) :
    readEntries (first ++ second) = (do
      let gvks ← readEntries first
      let more ← readEntries second
      .ok (gvks ++ more)) := by
  induction first with
  | nil =>
    rw [List.nil_append]
    cases readEntries second <;> simp [readEntries, bind, Except.bind]
  | cons entry entries ih =>
    rw [List.cons_append]
    rcases entry_cases entry with blank | ⟨named, gvk, shown⟩ | ⟨filled, unnamed⟩
    · rw [readEntries_blank blank, readEntries_blank blank, ih]
    · rw [readEntries_kind named shown, readEntries_kind named shown, ih]
      cases readEntries entries <;> cases readEntries second <;> rfl
    · rw [readEntries_refused filled unnamed, readEntries_refused filled unnamed]
      rfl

/-- The first entry that may not stand in a list is what the list is refused for. -/
theorem readEntries_eq_error_iff {entries : List Text} {fault : ConfigFault} :
    readEntries entries = .error fault ↔
      ∃ entry, entries.find? (fun entry => ¬ Admissible entry) = some entry ∧
        fault = .badEntry (trim entry) := by
  induction entries with
  | nil => simp [readEntries]
  | cons entry entries ih =>
    rcases entry_cases entry with blank | ⟨named, gvk, shown⟩ | ⟨filled, unnamed⟩
    · rw [readEntries_blank blank, ih, List.find?_cons_of_neg (by simp [Admissible, blank])]
    · rw [readEntries_kind named shown, List.find?_cons_of_neg (by simp [Admissible, named]), ← ih]
      cases readEntries entries <;> simp [Except.map]
    · rw [readEntries_refused filled unnamed,
        List.find?_cons_of_pos (by simp [Admissible, filled, unnamed])]
      simp [eq_comm]

/-! ## What can be written -/

/-- The entries of a list of kinds: each kind written in turn, with any blank entries between. -/
inductive Lists : List GroupVersionKind → List Text → Prop where
  | nil : Lists [] []
  | blank {gvks : List GroupVersionKind} {entry : Text} {entries : List Text}
      (blank : AllBlank entry) (more : Lists gvks entries) : Lists gvks (entry :: entries)
  | kind {gvk : GroupVersionKind} {gvks : List GroupVersionKind} {entry : Text}
      {entries : List Text} (written : gvk.WrittenAs entry) (more : Lists gvks entries) :
      Lists (gvk :: gvks) (entry :: entries)

section Writing

variable {gvk : GroupVersionKind} {gvks : List GroupVersionKind} {entry : Text}
variable {entries : List Text}

theorem NamesKind.writable (named : NamesKind entry) (shown : gvk.parts = trimmedParts entry)
    (free : .char ',' ∉ entry) : gvk.Writable := by
  unfold GroupVersionKind.Writable
  rw [shown]
  intro part inside
  obtain ⟨field, field_mem, rfl⟩ := List.mem_map.mp inside
  exact
    { nonempty := trim_eq_nil_iff.not.mpr (named.filled field field_mem)
      trimmed := trimmed_trim field
      comma := fun comma => free (subset_of_mem_fields field_mem (trim_subset field comma))
      slash := fun slash => not_mem_of_mem_fields field_mem (trim_subset field slash) }

theorem writtenAs_of_shown (shown : gvk.parts = trimmedParts entry) : gvk.WrittenAs entry := by
  refine ⟨fields (.char '/') entry, ?_, joinFields_fields entry⟩
  rw [shown, trimmedParts, List.forall₂_map_left_iff]
  exact List.forall₂_same.mpr fun field _ => trim_padded field

section Padding

variable {parts texts : List Text} (padded : List.Forall₂ Padded parts texts)

include padded

theorem not_mem_of_padded {point : CodePoint} (visible : point.any isBlank = false)
    (free : ∀ part ∈ parts, point ∉ part) : ∀ text ∈ texts, point ∉ text := by
  induction padded with
  | nil => simp
  | cons put more ih =>
    obtain ⟨first, later⟩ := List.forall_mem_cons.mp free
    exact List.forall_mem_cons.mpr ⟨put.not_mem visible first, ih later⟩

theorem map_trim_of_padded (trimmed : ∀ part ∈ parts, Trimmed part) : texts.map trim = parts := by
  induction padded with
  | nil => rfl
  | cons put more ih =>
    obtain ⟨first, later⟩ := List.forall_mem_cons.mp trimmed
    rw [List.map_cons, trim_of_padded first put, ih later]

end Padding

section Written

variable (written : gvk.WrittenAs entry)
variable (writable : gvk.Writable)

include written writable

theorem shown_of_writtenAs : NamesKind entry ∧ gvk.parts = trimmedParts entry := by
  obtain ⟨texts, padded, rfl⟩ := written
  have free := not_mem_of_padded padded (by decide) fun part inside => (writable part inside).slash
  have nonempty : texts ≠ [] := by
    rintro rfl
    cases padded
  have shown : gvk.parts = trimmedParts (joinFields (.char '/') texts) := by
    rw [trimmedParts, fields_joinFields nonempty free,
      map_trim_of_padded padded fun part inside => (writable part inside).trimmed]
  exact ⟨namesKind_iff.mpr (shown ▸ ⟨rfl, fun part inside => (writable part inside).nonempty⟩), shown⟩

theorem comma_of_writtenAs : .char ',' ∉ entry := by
  obtain ⟨texts, padded, rfl⟩ := written
  have free := not_mem_of_padded padded (by decide) fun part inside => (writable part inside).comma
  intro inside
  rcases mem_of_mem_joinFields inside with same | ⟨text, text_mem, comma⟩
  · exact absurd same (by decide)
  · exact free text text_mem comma

end Written

/-- The entries of a list are read as the kinds they list. -/
theorem Lists.read (lists : Lists gvks entries)
    (writable : ∀ gvk ∈ gvks, gvk.Writable) :
    readEntries entries = .ok gvks := by
  induction lists with
  | nil => rfl
  | blank blank more ih => rw [readEntries_blank blank, ih writable]
  | kind written more ih =>
    obtain ⟨first, later⟩ := List.forall_mem_cons.mp writable
    obtain ⟨named, shown⟩ := shown_of_writtenAs written first
    rw [readEntries_kind named shown, ih later]
    rfl

theorem Lists.comma (lists : Lists gvks entries)
    (writable : ∀ gvk ∈ gvks, gvk.Writable) :
    ∀ entry ∈ entries, .char ',' ∉ entry := by
  induction lists with
  | nil => simp
  | blank blank more ih =>
    exact List.forall_mem_cons.mpr ⟨fun comma => absurd (blank _ comma) (by decide), ih writable⟩
  | kind written more ih =>
    obtain ⟨first, later⟩ := List.forall_mem_cons.mp writable
    exact List.forall_mem_cons.mpr ⟨comma_of_writtenAs written first, ih later⟩

theorem lists_of_read (free : ∀ entry ∈ entries, .char ',' ∉ entry)
    (read : readEntries entries = .ok gvks) :
    Lists gvks entries ∧
      ∀ gvk ∈ gvks, gvk.Writable := by
  induction entries generalizing gvks with
  | nil =>
    cases read
    exact ⟨.nil, by simp⟩
  | cons entry entries ih =>
    obtain ⟨here, later⟩ := List.forall_mem_cons.mp free
    rcases entry_cases entry with blank | ⟨named, gvk, shown⟩ | ⟨filled, unnamed⟩
    · rw [readEntries_blank blank] at read
      exact (ih later read).imp_left (.blank blank)
    · rw [readEntries_kind named shown] at read
      cases rest : readEntries entries with
      | error fault =>
        rw [rest] at read
        cases read
      | ok more =>
        rw [rest] at read
        cases read
        obtain ⟨lists, writable⟩ := ih later rest
        exact ⟨.kind (writtenAs_of_shown shown) lists,
          List.forall_mem_cons.mpr ⟨named.writable shown here, writable⟩⟩
    · rw [readEntries_refused filled unnamed] at read
      cases read

end Writing

/-- The grammar of the list. A text is accepted exactly if each of its entries between commas is blank
or has three parts between slashes of which none is blank, and read as the trimmed parts of those that
are not blank; else it is refused for the first other entry. Two texts with a comma between are read one
after the other. And a text is read as some kinds exactly if their parts can be written and the text
lists them, with blanks around parts and entries and blank entries between wherever they may stand. -/
theorem readAwaitedCrds_grammar (raw first second : Text) (gvks : List GroupVersionKind)
    (fault : ConfigFault) :
    ((∃ read, readAwaitedCrds raw = .ok read) ↔
        ∀ entry ∈ fields (.char ',') raw, AllBlank entry ∨ NamesKind entry) ∧
      (readAwaitedCrds raw = .ok gvks ↔
        (∀ entry ∈ fields (.char ',') raw, AllBlank entry ∨ NamesKind entry) ∧
          gvks.map GroupVersionKind.parts =
            ((fields (.char ',') raw).filter fun entry => ¬ AllBlank entry).map trimmedParts) ∧
      (readAwaitedCrds raw = .error fault ↔
        ∃ entry, (fields (.char ',') raw).find? (fun entry => ¬ Admissible entry) = some entry ∧
          fault = .badEntry (trim entry)) ∧
      (readAwaitedCrds (first ++ .char ',' :: second) = (do
        let read ← readAwaitedCrds first
        let more ← readAwaitedCrds second
        .ok (read ++ more))) ∧
      (readAwaitedCrds raw = .ok gvks ↔
        (∀ gvk ∈ gvks, gvk.Writable) ∧
          ∃ entries, Lists gvks entries ∧ joinFields (.char ',') entries = raw) := by
  refine ⟨?_, readEntries_eq_ok_iff, readEntries_eq_error_iff, ?_, ?_⟩
  · constructor
    · rintro ⟨read, accepted⟩
      exact (readEntries_eq_ok_iff.mp accepted).1
    · intro admissible
      cases accepted : readAwaitedCrds raw with
      | ok read => exact ⟨read, rfl⟩
      | error fault =>
        obtain ⟨entry, found, -⟩ := readEntries_eq_error_iff.mp accepted
        have refused : ¬ Admissible entry := by simpa using List.find?_some found
        exact absurd (admissible entry (List.mem_of_find?_eq_some found)) refused
  · unfold readAwaitedCrds
    rw [fields_append, readEntries_append]
  · constructor
    · intro accepted
      obtain ⟨lists, writable⟩ := lists_of_read (fun _ => not_mem_of_mem_fields) accepted
      exact ⟨writable, fields (.char ',') raw, lists, joinFields_fields raw⟩
    · rintro ⟨writable, entries, lists, rfl⟩
      cases entries with
      | nil => cases lists; rfl
      | cons entry entries =>
        unfold readAwaitedCrds
        rw [fields_joinFields (List.cons_ne_nil _ _) (lists.comma writable), lists.read writable]

end Config

end ApiSurface
