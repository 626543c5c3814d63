import ApiSurface.Proofs.Redaction.Replacement

/-!
# Covered secrets

A text is covered for a kind of secret if wherever one is announced, the mask stands (`Covered`).
Replacing the secrets of a kind covers them (`Replaced.isMasked`), and replacing those of another kind
later does not uncover them (`Replaced.covered`). Both rest on how announcements meet the mask: none runs
into it, starts in it or lies in it (`Lawful.place`).
-/

namespace ApiSurface.Redaction

open ApiSurface.Text

namespace Kind

/-- A text that begins with a code point of a secret. -/
def Leads (kind : Kind) (text : Text) : Prop := ∃ point ∈ text.head?, kind.isSecret point = true

/-- A place where a secret is announced: the text passed, the announcement, and what stands behind it. -/
structure Site (kind : Kind) (before : Option CodePoint) (text passed announcement rest : Text) :
    Prop where
  split : text = passed ++ (announcement ++ rest)
  announced : kind.Announces (behind before passed) announcement
  leads : kind.Leads rest

/-- Wherever a secret is announced, the mask stands. -/
def Covered (kind : Kind) (before : Option CodePoint) (text : Text) : Prop :=
  ∀ passed announcement rest, kind.Site before text passed announcement rest → mask <+: rest

/-- Wherever a secret is announced, the mask stands and no more of a secret behind it. -/
def Masked (kind : Kind) (before : Option CodePoint) (text : Text) : Prop :=
  ∀ passed announcement rest, kind.Site before text passed announcement rest →
    ∃ after, rest = mask ++ after ∧ ¬ kind.Leads after

/-- How a kind is announced: without brackets, with an end that is not in the mask, and never from
inside an announcement. -/
structure Lawful (kind : Kind) : Prop where
  unbracketed : ∀ {before announcement}, kind.Announces before announcement →
    ∀ point ∈ announcement, point ≠ .char '[' ∧ point ≠ .char ']'
  ends : ∀ {before announcement}, kind.Announces before announcement →
    ∃ last ∈ announcement.getLast?, last ∉ mask
  apart : ∀ {before first second announcement}, kind.Announces before (first ++ second) → first ≠ [] →
    kind.Announces (behind before first) announcement → ¬ announcement <+: second

/-- Announcements begin with what does not occur in them later. -/
def Headed (kind : Kind) (opening : CodePoint → Prop) : Prop :=
  ∀ {before announcement}, kind.Announces before announcement →
    ∃ first rest, announcement = first :: rest ∧ opening first ∧ ∀ point ∈ rest, ¬ opening point

/-- An announcement that a secret of another kind cannot run into does not depend on what is before. -/
def Settled (kind other : Kind) : Prop :=
  ∀ {before before' announcement}, kind.Announces before announcement → ¬ other.Leads announcement →
    kind.Announces before' announcement

variable {kind other : Kind} {before : Option CodePoint} {text announcement rest passed out : Text}

theorem Masked.covered (masked : kind.Masked before text) : kind.Covered before text := by
  intro passed announcement rest site
  obtain ⟨after, rfl, -⟩ := masked passed announcement rest site
  exact List.prefix_append mask after

theorem Covered.behind {front secret : Text} (nonempty : secret ≠ [])
    (covered : kind.Covered before (front ++ (secret ++ rest))) :
    kind.Covered secret.getLast? rest := by
  rintro later announcement after ⟨rfl, announced, leads⟩
  refine covered (front ++ (secret ++ later)) announcement after ⟨by simp, ?_, leads⟩
  rwa [behind_append, behind_append, behind_of_ne_nil nonempty]

theorem Stretch.leads {secret : Text} (stretch : kind.Stretch before text announcement secret rest)
    (after : Text) : kind.Leads (secret ++ after) := by
  obtain ⟨point, more, rfl⟩ := List.exists_cons_of_ne_nil stretch.nonempty
  exact ⟨point, rfl, stretch.isSecret point List.mem_cons_self⟩

theorem Stretch.not_leads {secret : Text} (stretch : kind.Stretch before text announcement secret rest) :
    ¬ kind.Leads rest := by
  rintro ⟨point, first, isSecret⟩
  exact Bool.false_ne_true ((stretch.ends point first).symm.trans isSecret)

theorem Clear.not_leads (clear : kind.Clear before text) (split : text = announcement ++ rest)
    (announced : kind.Announces before announcement) : ¬ kind.Leads rest := by
  rintro ⟨point, first, isSecret⟩
  obtain ⟨more, rfl⟩ := List.head?_eq_some_iff.mp first
  exact clear.not_announced isSecret split announced

/-- What a text leads with is not changed by what stands behind, if there is something. -/
theorem Leads.append_iff {first : Text} (nonempty : first ≠ []) :
    kind.Leads (first ++ rest) ↔ kind.Leads first := by
  rw [Leads, Leads, List.head?_append_of_ne_nil _ nonempty]

/-- No announcement begins inside one that begins with what does not occur in it later. -/
theorem Headed.apart {opening : CodePoint → Prop} (headed : kind.Headed opening) {first second : Text}
    (announced : kind.Announces before (first ++ second)) (nonempty : first ≠ [])
    (inside : kind.Announces (behind before first) announcement) : ¬ announcement <+: second := by
  rintro ⟨after, rfl⟩
  obtain ⟨point, rest, split, -, noLater⟩ := headed announced
  obtain ⟨opener, more, rfl, isOpening, -⟩ := headed inside
  obtain ⟨head, first, rfl⟩ := List.exists_cons_of_ne_nil nonempty
  obtain ⟨rfl, rfl⟩ := List.cons.inj split
  exact noLater opener (List.mem_append_right _ List.mem_cons_self) isOpening

namespace Lawful

theorem ne_nil (lawful : kind.Lawful) (announced : kind.Announces before announcement) :
    announcement ≠ [] := by
  rintro rfl
  obtain ⟨_, ⟨⟩, -⟩ := lawful.ends announced

theorem not_subset_mask (lawful : kind.Lawful) (announced : kind.Announces before announcement) :
    ¬ announcement ⊆ mask := by
  intro inside
  obtain ⟨last, isLast, outside⟩ := lawful.ends announced
  exact outside (inside (List.mem_of_getLast? isLast))

/-- No announcement begins in the mask. -/
theorem not_within_mask (lawful : kind.Lawful) (announced : kind.Announces before announcement)
    {front tail : Text} (parts : mask = front ++ tail) (nonempty : tail ≠ []) :
    tail ++ out ≠ announcement ++ rest := by
  intro reached
  have closes : .char ']' ∈ tail := by
    have last : mask.getLast? = tail.getLast? := by
      rw [parts, List.getLast?_append_of_ne_nil _ nonempty]
    exact List.mem_of_getLast? (last.symm.trans rfl)
  obtain ⟨beyond, rfl, -⟩ | ⟨left, rfl, -⟩ := List.append_eq_append_iff.mp reached
  · exact (lawful.unbracketed announced _ (List.mem_append_left _ closes)).2 rfl
  · refine lawful.not_subset_mask announced fun point inside => ?_
    rw [parts]
    exact List.mem_append_right _ (List.mem_append_left _ inside)

/-- An announcement in a text with a mask ends before the mask or begins behind it. -/
theorem place (lawful : kind.Lawful) (announced : kind.Announces before announcement) {front : Text}
    (split : front ++ (mask ++ out) = passed ++ (announcement ++ rest)) :
    (∃ more, front = passed ++ (announcement ++ more) ∧ rest = more ++ (mask ++ out)) ∨
      ∃ later, passed = front ++ (mask ++ later) ∧ out = later ++ (announcement ++ rest) := by
  obtain ⟨within, rfl, reached⟩ | ⟨kept, rfl, reached⟩ := List.append_eq_append_iff.mp split
  · obtain ⟨later, rfl, behind⟩ | ⟨tail, parts, inside⟩ := List.append_eq_append_iff.mp reached
    · exact .inr ⟨later, rfl, behind⟩
    · by_cases nothing : tail = []
      · obtain rfl := nothing
        rw [List.append_nil] at parts
        exact .inr ⟨[], by rw [parts, List.append_nil], inside.symm⟩
      · exact absurd inside.symm (lawful.not_within_mask announced parts nothing)
  · obtain ⟨more, rfl, behind⟩ | ⟨_ | ⟨point, into⟩, rfl, inside⟩ := List.append_eq_append_iff.mp reached
    · exact .inl ⟨more, rfl, behind⟩
    · exact .inl ⟨[], by rw [List.append_nil, List.append_nil], inside.symm⟩
    · obtain rfl : .char '[' = point := (List.cons.inj inside).1
      exact absurd rfl (lawful.unbracketed announced _ (List.mem_append_right _ List.mem_cons_self)).1

/-- The first secret of a text is the only one announced up to its announcement. -/
theorem first_only (lawful : kind.Lawful) {recognise : Recogniser}
    (recognises : Recognises recognise kind) {first secret beyond more : Text}
    (untouched : kind.Untouched before passed (announcement ++ (secret ++ beyond)))
    (stretch : kind.Stretch (behind before passed) (announcement ++ (secret ++ beyond)) announcement secret
      beyond)
    {announcement' : Text} (announced : kind.Announces (behind before first) announcement')
    (split : passed ++ announcement = first ++ (announcement' ++ more))
    (leads : kind.Leads (more ++ (secret ++ beyond))) : first = passed ∧ more = [] := by
  by_cases same : first = passed
  · obtain rfl := same
    obtain rfl := List.append_cancel_left split
    obtain ⟨point, head, isSecret⟩ := leads
    obtain ⟨tail, reached⟩ := List.head?_eq_some_iff.mp head
    obtain ⟨_, _, -, other⟩ := Kind.exists_stretch announced isSecret tail
    rw [← reached, ← List.append_assoc] at other
    obtain ⟨alike, -⟩ := recognises.unique stretch other
    exact ⟨rfl, List.append_right_eq_self.mp alike⟩
  · exfalso
    obtain ⟨within, rfl, parts⟩ | ⟨kept, rfl, parts⟩ := List.append_eq_append_iff.mp split
    · have nonempty : within ≠ [] := fun nothing => same (by rw [nothing, List.append_nil])
      rw [behind_append] at announced
      have whole := stretch.announced
      rw [parts] at whole
      exact lawful.apart whole nonempty announced (List.prefix_append _ _)
    · have nonempty : kept ≠ [] := fun nothing => same (by rw [nothing, List.append_nil])
      have clear := untouched first kept rfl nonempty
      refine clear.not_leads ?_ announced leads
      rw [← List.append_assoc, ← parts, List.append_assoc]

end Lawful

end Kind

variable {kind other : Kind} {before : Option CodePoint} {text out : Text}

/-- What a text begins with is kept. -/
theorem Replaced.head? (replaced : Replaced kind before text out) (lawful : kind.Lawful) :
    out.head? = text.head? := by
  cases replaced with
  | clear => rfl
  | @masked _ passed announcement _ _ _ _ stretch =>
    have nonempty := List.append_ne_nil_of_right_ne_nil passed (lawful.ne_nil stretch.announced)
    have front (behind : Text) :
        (passed ++ (announcement ++ behind)).head? = (passed ++ announcement).head? := by
      rw [← List.append_assoc, List.head?_append_of_ne_nil _ nonempty]
    rw [front, front]

/-- What is announced behind a replaced secret is announced in the text that stood there. -/
theorem Replaced.announced_behind {last : Option CodePoint} {rest : Text}
    (more : Replaced kind last rest out) (lawful : kind.Lawful) (stops : ¬ kind.Leads rest)
    (otherLawful : other.Lawful) (settled : other.Settled kind) {first later announcement after : Text}
    (announced : other.Announces (behind before (first ++ later)) announcement)
    (split : out = later ++ (announcement ++ after)) :
    other.Announces (behind last later) announcement := by
  cases later with
  | nil =>
    refine settled announced fun leads => stops ?_
    rw [← Kind.Leads.append_iff (otherLawful.ne_nil announced), ← List.nil_append (_ ++ _),
      ← split] at leads
    rwa [Kind.Leads, more.head? lawful] at leads
  | cons point later =>
    rw [behind_append, behind_cons] at announced
    rwa [behind_cons]

/-- Replacing the secrets of a kind masks them. -/
theorem Replaced.isMasked {recognise : Recogniser} (replaced : Replaced kind before text out)
    (recognises : Recognises recognise kind) (lawful : kind.Lawful) (settled : kind.Settled kind) :
    kind.Masked before out := by
  induction replaced with
  | @clear before text untouched =>
    rintro passed announcement rest ⟨rfl, announced, leads⟩
    have nonempty := List.append_ne_nil_of_left_ne_nil (lawful.ne_nil announced) rest
    have clear := untouched passed (announcement ++ rest) rfl nonempty
    exact absurd leads (clear.not_leads (List.append_nil _) announced)
  | @masked before passed announcement secret rest out untouched stretch more ih =>
    rintro first announcement' after ⟨split, announced, leads⟩
    rw [← List.append_assoc] at split
    obtain ⟨extra, parts, rfl⟩ | ⟨later, rfl, outSplit⟩ := lawful.place announced split
    · have alike : kind.Leads (extra ++ (secret ++ rest)) := by
        cases extra with
        | nil => exact stretch.leads rest
        | cons => exact leads
      obtain ⟨rfl, rfl⟩ := lawful.first_only recognises untouched stretch announced parts alike
      refine ⟨out, rfl, ?_⟩
      rw [Kind.Leads, more.head? lawful]
      exact stretch.not_leads
    · rw [← List.append_assoc] at announced
      exact ih later announcement' after ⟨outSplit,
        more.announced_behind lawful stretch.not_leads lawful settled announced outSplit, leads⟩

/-- A mask that a text begins with does not run past an end that is not in the mask. -/
theorem mask_prefix_of_getLast? {first last : Text} (ends : ∃ final ∈ first.getLast?, final ∉ mask)
    (stands : mask <+: first ++ last) : mask <+: first := by
  obtain ⟨final, isFinal, outside⟩ := ends
  obtain inside | inside := List.prefix_or_prefix_of_prefix stands (List.prefix_append first last)
  · exact inside
  · exact absurd (inside.subset (List.mem_of_getLast? isFinal)) outside

/-- Replacing the secrets of one kind keeps those of another covered. -/
theorem Replaced.covered (replaced : Replaced kind before text out) (lawful : kind.Lawful)
    (otherLawful : other.Lawful) (settled : other.Settled kind) (covered : other.Covered before text) :
    other.Covered before out := by
  induction replaced with
  | clear => exact covered
  | @masked before passed announcement secret rest out untouched stretch more ih =>
    rintro first announcement' after ⟨split, announced, leads⟩
    rw [← List.append_assoc] at split covered
    obtain ⟨extra, parts, rfl⟩ | ⟨later, rfl, outSplit⟩ := otherLawful.place announced split
    · by_cases nothing : extra = []
      · obtain rfl := nothing
        exact List.prefix_append mask out
      -- What stands behind the announcement up to the secret was there before, and the mask ends in it.
      · have ends : extra.getLast? = announcement.getLast? := by
          have whole := congrArg List.getLast? parts
          rwa [List.getLast?_append_of_ne_nil _ (lawful.ne_nil stretch.announced), ← List.append_assoc,
            List.getLast?_append_of_ne_nil _ nothing, eq_comm] at whole
        have stood : mask <+: extra ++ (secret ++ rest) := by
          refine covered first announcement' _ ⟨?_, announced, ?_⟩
          · rw [parts, List.append_assoc, List.append_assoc]
          · rwa [Kind.Leads.append_iff nothing] at leads ⊢
        have stands : mask <+: extra := mask_prefix_of_getLast?
          (by rw [ends]; exact lawful.ends stretch.announced) stood
        exact stands.trans (List.prefix_append _ _)
    · rw [← List.append_assoc] at announced
      exact ih (covered.behind stretch.nonempty) later announcement' after ⟨outSplit,
        more.announced_behind lawful stretch.not_leads otherLawful settled announced outSplit, leads⟩

end ApiSurface.Redaction
