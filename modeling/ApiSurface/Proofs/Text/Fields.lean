import Mathlib.Data.List.TakeWhile
import ApiSurface.Text.Blank

/-!
# Trimmed texts and fields

Trimming and splitting are each told by what they undo. A trimmed text is the one text without a blank
at its ends that blanks can be put around to get the text back (`trim_eq_iff`); the fields of a text are
the texts without the separator that it joins (`fields_eq_iff`).
-/

namespace ApiSurface.Text

/-! ## Trimming -/

/-- A text of blanks only. -/
def AllBlank (text : Text) : Prop := ∀ point ∈ text, point.any isBlank = true

instance (text : Text) : Decidable (AllBlank text) := List.decidableBAll _ text

/-- A text that has no blank at its ends. -/
structure Trimmed (text : Text) : Prop where
  head : ∀ point ∈ text.head?, point.any isBlank = false
  last : ∀ point ∈ text.getLast?, point.any isBlank = false

/-- A text with blanks around it. -/
def Padded (text padded : Text) : Prop :=
  ∃ before after, AllBlank before ∧ AllBlank after ∧ padded = before ++ text ++ after

theorem AllBlank.append {first second : Text} (blank : AllBlank first) (alike : AllBlank second) :
    AllBlank (first ++ second) := fun point inside =>
  (List.mem_append.mp inside).elim (blank point) (alike point)

theorem AllBlank.dropWhile_append {before text : Text} (blank : AllBlank before) :
    (before ++ text).dropWhile (CodePoint.any isBlank) = text.dropWhile (CodePoint.any isBlank) :=
  List.dropWhile_append_of_pos blank

/-- Dropping blanks keeps a text that does not begin with one. -/
theorem dropWhile_of_head {text : Text} (head : ∀ point ∈ text.head?, point.any isBlank = false) :
    text.dropWhile (CodePoint.any isBlank) = text := by
  cases text with
  | nil => rfl
  | cons point rest => exact List.dropWhile_cons_of_neg (by simp [head point rfl])

theorem head_dropWhile (text : Text) :
    ∀ point ∈ (text.dropWhile (CodePoint.any isBlank)).head?, point.any isBlank = false := by
  intro point first
  have unlike := List.head?_dropWhile_not (CodePoint.any isBlank) text
  rwa [Option.mem_def.mp first] at unlike

theorem allBlank_takeWhile (text : Text) : AllBlank (text.takeWhile (CodePoint.any isBlank)) :=
  fun _ => List.mem_takeWhile_imp

theorem trim_of_padded {text padded : Text} (trimmed : Trimmed text) (put : Padded text padded) :
    trim padded = text := by
  obtain ⟨before, after, blank, blankAfter, rfl⟩ := put
  have blankReversed : AllBlank after.reverse := fun point inside =>
    blankAfter point (List.mem_reverse.mp inside)
  unfold trim
  rw [List.append_assoc, blank.dropWhile_append]
  cases text with
  | nil => simp [List.dropWhile_eq_nil_iff.mpr blankAfter]
  | cons point rest =>
    rw [List.cons_append, List.dropWhile_cons_of_neg (by simp [trimmed.head point rfl]),
      ← List.cons_append, List.reverse_append, blankReversed.dropWhile_append,
      dropWhile_of_head (by rw [List.head?_reverse]; exact trimmed.last), List.reverse_reverse]

theorem trim_padded (text : Text) : Padded (trim text) text := by
  have front := List.takeWhile_append_dropWhile (p := CodePoint.any isBlank) (l := text)
  generalize back : text.dropWhile (CodePoint.any isBlank) = kept at front
  have behind := List.takeWhile_append_dropWhile (p := CodePoint.any isBlank) (l := kept.reverse)
  refine ⟨text.takeWhile (CodePoint.any isBlank),
    (kept.reverse.takeWhile (CodePoint.any isBlank)).reverse, allBlank_takeWhile text,
    fun point inside => allBlank_takeWhile _ point (List.mem_reverse.mp inside), ?_⟩
  unfold trim
  rw [back, List.append_assoc, ← List.reverse_append, behind, List.reverse_reverse, front]

theorem trimmed_trim (text : Text) : Trimmed (trim text) := by
  unfold trim
  generalize kept : text.dropWhile (CodePoint.any isBlank) = back
  constructor
  · intro point first
    -- what is left after the blanks behind are dropped begins as before, or is empty
    have split := List.takeWhile_append_dropWhile (p := CodePoint.any isBlank) (l := back.reverse)
    have front : back.head? = some point := by
      rw [← List.reverse_reverse back, ← split, List.reverse_append, List.head?_append,
        Option.mem_def.mp first, Option.some_or]
    exact head_dropWhile text point (kept ▸ front)
  · intro point last
    exact head_dropWhile back.reverse point (by simpa [List.getLast?_reverse] using last)

/-- Trimming takes off the blanks at both ends and nothing else. -/
theorem trim_eq_iff {text padded : Text} :
    trim padded = text ↔ Trimmed text ∧ Padded text padded := by
  constructor
  · rintro rfl
    exact ⟨trimmed_trim padded, trim_padded padded⟩
  · rintro ⟨trimmed, put⟩
    exact trim_of_padded trimmed put

theorem trim_eq_nil_iff {text : Text} : trim text = [] ↔ AllBlank text := by
  rw [trim_eq_iff]
  constructor
  · rintro ⟨-, before, after, blank, blankAfter, rfl⟩
    simpa using blank.append blankAfter
  · intro blank
    exact ⟨⟨by simp, by simp⟩, text, [], blank, by simp [AllBlank], by simp⟩

theorem trim_isEmpty_iff {text : Text} : (trim text).isEmpty = true ↔ AllBlank text := by
  rw [List.isEmpty_iff, trim_eq_nil_iff]

/-- Blanks around a text come off with those it has. -/
theorem Padded.trim_eq {text padded : Text} (put : Padded text padded) :
    trim padded = trim text := by
  obtain ⟨outer, behind, blank, blankBehind, rfl⟩ := put
  obtain ⟨before, after, blankBefore, blankAfter, same⟩ := trim_padded text
  refine trim_of_padded (trimmed_trim text)
    ⟨outer ++ before, after ++ behind, blank.append blankBefore, blankAfter.append blankBehind, ?_⟩
  simpa using congrArg (fun inner => outer ++ inner ++ behind) same

/-- Blanks around a text bring in nothing but blanks. -/
theorem Padded.not_mem {text padded : Text} {point : CodePoint} (put : Padded text padded)
    (visible : point.any isBlank = false) (free : point ∉ text) : point ∉ padded := by
  obtain ⟨before, after, blank, blankAfter, rfl⟩ := put
  have unlike : ∀ {blanks : Text}, AllBlank blanks → point ∉ blanks := fun blank inside =>
    Bool.false_ne_true (visible.symm.trans (blank point inside))
  simp [free, unlike blank, unlike blankAfter]

theorem trim_subset (text : Text) : trim text ⊆ text := by
  obtain ⟨before, after, -, -, whole⟩ := trim_padded text
  intro point inside
  rw [whole]
  simp [inside]

/-! ## Fields -/

variable {separator : CodePoint}

theorem joinFields_cons_cons (field next : Text) (more : List Text) :
    joinFields separator (field :: next :: more) =
      field ++ separator :: joinFields separator (next :: more) := rfl

/-- What stands before the first field stands before all of them. -/
theorem append_joinFields (before field : Text) (more : List Text) :
    before ++ joinFields separator (field :: more) =
      joinFields separator ((before ++ field) :: more) := by
  cases more <;> simp [joinFields]

/-- What stands behind the last field stands behind all of them. -/
theorem joinFields_append (fields : List Text) (field after : Text) :
    joinFields separator (fields ++ [field]) ++ after =
      joinFields separator (fields ++ [field ++ after]) := by
  induction fields with
  | nil => rfl
  | cons first more ih => cases more <;> simp_all [joinFields]

theorem joinFields_fields (text : Text) : joinFields separator (fields separator text) = text := by
  induction text with
  | nil => rfl
  | cons point rest ih =>
    simp only [fields]
    obtain ⟨field, more, split⟩ := List.exists_cons_of_ne_nil (fields_ne_nil separator rest)
    rw [split] at ih ⊢
    split
    · next equal => rw [joinFields_cons_cons, ih, equal, List.nil_append]
    · rw [← ih]
      exact (append_joinFields [point] field more).symm

theorem not_mem_of_mem_fields {text field : Text} (inside : field ∈ fields separator text) :
    separator ∉ field := by
  induction text generalizing field with
  | nil => simp_all [fields]
  | cons point rest ih =>
    obtain ⟨next, more, split⟩ := List.exists_cons_of_ne_nil (fields_ne_nil separator rest)
    simp only [fields, split] at inside ih
    split at inside
    · rcases List.mem_cons.mp inside with rfl | later
      · exact List.not_mem_nil
      · exact ih later
    · next other =>
      rcases List.mem_cons.mp inside with rfl | later
      · simpa [Ne.symm other] using ih List.mem_cons_self
      · exact ih (List.mem_cons_of_mem _ later)

theorem fields_of_not_mem {text : Text} (free : separator ∉ text) :
    fields separator text = [text] := by
  induction text with
  | nil => rfl
  | cons point rest ih =>
    obtain ⟨other, free⟩ := not_or.mp (List.mem_cons.not.mp free)
    simp [fields, ih free, Ne.symm other]

/-- A separator divides the fields before it from those behind it. -/
theorem fields_append (first second : Text) :
    fields separator (first ++ separator :: second) =
      fields separator first ++ fields separator second := by
  induction first with
  | nil => simp [fields]
  | cons point rest ih =>
    obtain ⟨field, more, split⟩ := List.exists_cons_of_ne_nil (fields_ne_nil separator rest)
    simp only [fields, List.cons_append, ih, split]
    split <;> rfl

theorem fields_joinFields {parts : List Text} (nonempty : parts ≠ [])
    (free : ∀ part ∈ parts, separator ∉ part) :
    fields separator (joinFields separator parts) = parts := by
  induction parts with
  | nil => exact absurd rfl nonempty
  | cons part more ih =>
    have first := fields_of_not_mem (free part List.mem_cons_self)
    cases more with
    | nil => exact first
    | cons next later =>
      rw [joinFields_cons_cons, fields_append, first,
        ih (List.cons_ne_nil _ _) fun part inside => free part (List.mem_cons_of_mem _ inside)]
      rfl

/-- The fields of a text are the texts without the separator that it joins. -/
theorem fields_eq_iff {text : Text} {parts : List Text} :
    fields separator text = parts ↔
      parts ≠ [] ∧ (∀ part ∈ parts, separator ∉ part) ∧ joinFields separator parts = text := by
  constructor
  · rintro rfl
    exact ⟨fields_ne_nil separator text, fun _ => not_mem_of_mem_fields, joinFields_fields text⟩
  · rintro ⟨nonempty, free, rfl⟩
    exact fields_joinFields nonempty free

theorem subset_joinFields {parts : List Text} {part : Text} (inside : part ∈ parts) :
    part ⊆ joinFields separator parts := by
  induction parts with
  | nil => cases inside
  | cons first more ih =>
    cases more with
    | nil => rw [List.mem_singleton.mp inside, joinFields]; exact fun _ => id
    | cons next later =>
      rw [joinFields_cons_cons]
      rcases List.mem_cons.mp inside with rfl | behind
      · exact List.subset_append_left _ _
      · exact fun _ point => List.mem_append_right _ (List.mem_cons_of_mem _ (ih behind point))

theorem mem_of_mem_joinFields {parts : List Text} {point : CodePoint}
    (inside : point ∈ joinFields separator parts) :
    point = separator ∨ ∃ part ∈ parts, point ∈ part := by
  induction parts with
  | nil => cases inside
  | cons first more ih =>
    cases more with
    | nil => exact .inr ⟨first, List.mem_cons_self, inside⟩
    | cons next later =>
      rw [joinFields_cons_cons] at inside
      rcases List.mem_append.mp inside with here | there
      · exact .inr ⟨first, List.mem_cons_self, here⟩
      · rcases List.mem_cons.mp there with rfl | behind
        · exact .inl rfl
        · refine (ih behind).imp_right ?_
          rintro ⟨part, part_mem, point_mem⟩
          exact ⟨part, List.mem_cons_of_mem _ part_mem, point_mem⟩

theorem subset_of_mem_fields {text field : Text} (inside : field ∈ fields separator text) :
    field ⊆ text := by
  have within : field ⊆ joinFields separator (fields separator text) := subset_joinFields inside
  rwa [joinFields_fields] at within

theorem fields_append_left {before text field : Text} {more : List Text}
    (free : separator ∉ before) (split : fields separator text = field :: more) :
    fields separator (before ++ text) = (before ++ field) :: more := by
  obtain ⟨-, freeParts, rfl⟩ := fields_eq_iff.mp split
  refine fields_eq_iff.mpr ⟨List.cons_ne_nil _ _, ?_, (append_joinFields before field more).symm⟩
  rintro part (_ | ⟨_, later⟩)
  · simp [free, freeParts field List.mem_cons_self]
  · exact freeParts part (List.mem_cons_of_mem _ later)

theorem fields_append_right {text field after : Text} {parts : List Text}
    (free : separator ∉ after) (split : fields separator text = parts ++ [field]) :
    fields separator (text ++ after) = parts ++ [field ++ after] := by
  obtain ⟨-, freeParts, rfl⟩ := fields_eq_iff.mp split
  refine fields_eq_iff.mpr ⟨by simp, fun part inside => ?_, (joinFields_append parts field after).symm⟩
  rcases List.mem_append.mp inside with earlier | last
  · exact freeParts part (List.mem_append_left _ earlier)
  · obtain rfl := List.mem_singleton.mp last
    simp [free, freeParts field (by simp)]

/-- Blanks around a text go to its first and its last field, unless the separator is one. -/
theorem Padded.fields_trim_eq {text padded : Text} (put : Padded text padded)
    (visible : separator.any isBlank = false) :
    (fields separator padded).map trim = (fields separator text).map trim := by
  obtain ⟨before, after, blank, blankAfter, rfl⟩ := put
  have free : ∀ {blanks : Text}, AllBlank blanks → separator ∉ blanks := fun blank =>
    Padded.not_mem ⟨_, [], blank, by simp [AllBlank], by simp⟩ visible List.not_mem_nil
  obtain ⟨parts, last, split⟩ : ∃ parts last, fields separator text = parts ++ [last] :=
    ⟨_, _, (List.dropLast_concat_getLast (fields_ne_nil separator text)).symm⟩
  have behind := fields_append_right (free blankAfter) split
  have same : trim (last ++ after) = trim last :=
    Padded.trim_eq ⟨[], after, by simp [AllBlank], blankAfter, rfl⟩
  obtain ⟨first, more, ahead⟩ :=
    List.exists_cons_of_ne_nil (fields_ne_nil separator (text ++ after))
  rw [List.append_assoc, fields_append_left (free blank) ahead, List.map_cons,
    Padded.trim_eq ⟨before, [], blank, by simp [AllBlank], (List.append_nil _).symm⟩,
    ← List.map_cons, ← ahead, behind, split]
  simp [same]

end ApiSurface.Text
