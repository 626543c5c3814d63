import ApiSurface.Proofs.Redaction.Coverage

/-!
# Texts put together

When one text is put behind another, the secrets of both are replaced as they are in each, unless an
announcement runs from one into the other or the first ends in a secret that the second continues
(`Replaced.append`). A text that ends in what a secret may continue is pending (`Kind.Pending`): there the
secret takes in the beginning of whatever follows (`Pending.replaced`).
-/

namespace ApiSurface.Redaction

open ApiSurface.Text

namespace Kind

/-- No announcement runs from the end of a text into the text behind it. -/
def Uncrossed (kind : Kind) (text behind : Text) : Prop :=
  ∀ before first second begun, text = first ++ second → second ≠ [] → begun ≠ [] → begun <+: behind →
    ¬ kind.Announces before (second ++ begun)

/-- No announcement runs into the beginning of another. -/
def Separate (kind : Kind) : Prop :=
  ∀ {before announcement}, kind.Announces before announcement →
    ∀ text rest, kind.Uncrossed text (announcement ++ rest)

/-- A text ends in an announcement and as much as there is of a secret; what is put behind it may belong
to that secret. The announcement is not part of a secret before it. -/
inductive Pending (kind : Kind) : Option CodePoint → Text → Prop where
  | here {before : Option CodePoint} {passed announcement secret : Text}
      (untouched : kind.Untouched before passed (announcement ++ secret))
      (announced : kind.Announces (behind before passed) announcement)
      (isSecret : ∀ point ∈ secret, kind.isSecret point = true) :
      Pending kind before (passed ++ (announcement ++ secret))
  | later {before : Option CodePoint} {passed announcement secret rest : Text}
      (untouched : kind.Untouched before passed (announcement ++ (secret ++ rest)))
      (stretch : kind.Stretch (behind before passed) (announcement ++ (secret ++ rest)) announcement
        secret rest)
      (pending : Pending kind secret.getLast? rest) :
      Pending kind before (passed ++ (announcement ++ (secret ++ rest)))

variable {kind : Kind} {before : Option CodePoint} {text more announcement rest passed ahead out : Text}

theorem Uncrossed.of_suffix {whole : Text} (uncrossed : kind.Uncrossed whole more)
    (ends : text <:+ whole) : kind.Uncrossed text more := by
  obtain ⟨front, rfl⟩ := ends
  rintro before first second begun rfl
  exact uncrossed before (front ++ first) second begun (List.append_assoc ..).symm

/-- Announcements that begin with what does not occur in them later are not run into. -/
theorem Headed.separate {opening : CodePoint → Prop} (headed : kind.Headed opening) : kind.Separate := by
  intro before announcement announced text rest before' first second begun split nonempty some
  rintro ⟨after, reached⟩ across
  obtain ⟨next, begun, rfl⟩ := List.exists_cons_of_ne_nil some
  obtain ⟨opener, tail, rfl, isOpening, -⟩ := headed announced
  obtain ⟨rfl, -⟩ := List.cons.inj reached
  obtain ⟨head, second, rfl⟩ := List.exists_cons_of_ne_nil nonempty
  obtain ⟨_, _, parted, -, noLater⟩ := headed across
  obtain ⟨rfl, rfl⟩ := List.cons.inj parted
  exact noLater next (List.mem_append_right _ List.mem_cons_self) isOpening

/-- A pending text ends in an announcement and a secret, which may be empty. -/
theorem Pending.exists_announcement (pending : kind.Pending before text) :
    ∃ first before' announcement secret, text = first ++ (announcement ++ secret) ∧
      kind.Announces before' announcement ∧ ∀ point ∈ secret, kind.isSecret point = true := by
  induction pending with
  | @here before passed announcement secret untouched announced isSecret =>
    exact ⟨passed, _, announcement, secret, rfl, announced, isSecret⟩
  | @later before passed announcement secret rest untouched stretch pending ih =>
    obtain ⟨first, before', other, last, rfl, announced, isSecret⟩ := ih
    exact ⟨passed ++ (announcement ++ (secret ++ first)), before', other, last, by simp, announced,
      isSecret⟩

theorem Untouched.of_append {first second : Text}
    (untouched : kind.Untouched before (first ++ second) ahead) :
    kind.Untouched before first (second ++ ahead) := by
  rintro front back rfl nonempty
  have clear := untouched front (back ++ second) (List.append_assoc ..)
    (List.append_ne_nil_of_left_ne_nil nonempty second)
  rwa [List.append_assoc] at clear

theorem Clear.of_append (clear : kind.Clear before (text ++ more)) : kind.Clear before text := by
  rintro announcement secret rest stretch
  refine clear.not_leads ?_ stretch.announced (stretch.leads (rest ++ more))
  rw [stretch.split, List.append_assoc, List.append_assoc]

/-- If no secret is at the beginning of a text, what is put behind it makes one only by continuing an
announcement that takes up the whole text. -/
theorem Clear.announcement_covers (clear : kind.Clear before text) {announcement secret rest : Text}
    (stretch : kind.Stretch before (text ++ more) announcement secret rest) :
    ∃ begun, announcement = text ++ begun ∧ more = begun ++ (secret ++ rest) := by
  obtain ⟨begun, reached, behind⟩ | ⟨left, rfl, behind⟩ := List.append_eq_append_iff.mp stretch.split
  · exact ⟨begun, reached, behind⟩
  · by_cases nothing : left = []
    · obtain rfl := nothing
      exact ⟨[], by rw [List.append_nil, List.append_nil], behind.symm⟩
    · have leads : kind.Leads left := by
        rw [← Leads.append_iff nothing, ← behind]
        exact stretch.leads rest
      exact absurd leads (clear.not_leads rfl stretch.announced)

/-- Something else behind a text leaves it untouched, if no announcement runs into it and it begins with
a secret only if what was there did. -/
theorem Untouched.replace_ahead (untouched : kind.Untouched before passed ahead)
    (uncrossed : kind.Uncrossed passed more) (leads : kind.Leads more → kind.Leads ahead) :
    kind.Untouched before passed more := by
  rintro first second rfl nonempty announcement secret rest stretch
  have clear := untouched first second rfl nonempty
  obtain ⟨begun, rfl, rfl⟩ := clear.of_append.announcement_covers stretch
  by_cases nothing : begun = []
  · obtain rfl := nothing
    have announced := stretch.announced
    rw [List.append_nil] at announced
    exact clear.not_leads rfl announced (leads (stretch.leads rest))
  · exact uncrossed _ first second begun rfl nonempty nothing (List.prefix_append _ _) stretch.announced

/-- What is put behind a text leaves untouched what was, if no announcement runs into it and no secret
that it begins with is announced at the end of the text. -/
theorem Untouched.extend (untouched : kind.Untouched before passed ahead)
    (uncrossed : kind.Uncrossed (passed ++ ahead) more)
    (notPending : kind.Leads more → ¬ kind.Pending before (passed ++ ahead)) :
    kind.Untouched before passed (ahead ++ more) := by
  rintro first second rfl nonempty announcement secret rest stretch
  rw [← List.append_assoc] at stretch
  obtain ⟨begun, rfl, rfl⟩ := (untouched first second rfl nonempty).announcement_covers stretch
  by_cases nothing : begun = []
  · obtain rfl := nothing
    have announced := stretch.announced
    rw [List.append_nil] at announced
    have front : kind.Untouched before first (second ++ ahead ++ []) := by
      rw [List.append_nil]
      exact untouched.of_append
    have pending : kind.Pending before (first ++ (second ++ ahead ++ [])) :=
      .here front announced fun _ inside => absurd inside List.not_mem_nil
    rw [List.append_nil, ← List.append_assoc] at pending
    exact notPending (stretch.leads rest) pending
  · exact uncrossed _ first _ begun (List.append_assoc ..)
      (List.append_ne_nil_of_left_ne_nil nonempty ahead) nothing (List.prefix_append _ _)
      stretch.announced

theorem Stretch.append {secret : Text}
    (stretch : kind.Stretch before (announcement ++ (secret ++ rest)) announcement secret rest)
    (stops : rest = [] → ¬ kind.Leads more) :
    kind.Stretch before (announcement ++ (secret ++ (rest ++ more))) announcement secret
      (rest ++ more) where
  split := rfl
  announced := stretch.announced
  nonempty := stretch.nonempty
  isSecret := stretch.isSecret
  ends := by
    intro point first
    refine Bool.eq_false_iff.mpr fun isSecret => ?_
    cases rest with
    | nil => exact stops rfl ⟨point, first, isSecret⟩
    | cons => exact stretch.not_leads ⟨point, first, isSecret⟩

end Kind

variable {kind : Kind} {before : Option CodePoint} {text more passed ahead out out' : Text}

/-- What is untouched is kept in front of what is replaced. -/
theorem Kind.Untouched.replaced (untouched : kind.Untouched before passed ahead)
    (replaced : Replaced kind (behind before passed) ahead out) :
    Replaced kind before (passed ++ ahead) (passed ++ out) := by
  induction passed generalizing before with
  | nil => exact replaced
  | cons point passed ih =>
    rw [behind_cons] at replaced
    exact .cons untouched.head (ih untouched.tail replaced)

/-- Texts put together: both are replaced as they are alone, unless an announcement runs from one into
the other or the first is pending and the second begins with a secret. -/
theorem Replaced.append (replaced : Replaced kind before text out) (uncrossed : kind.Uncrossed text more)
    (notPending : kind.Leads more → ¬ kind.Pending before text)
    (next : Replaced kind (behind before text) more out') :
    Replaced kind before (text ++ more) (out ++ out') := by
  induction replaced with
  | @clear before text untouched =>
    rw [← List.append_nil text] at uncrossed notPending
    exact (untouched.extend uncrossed notPending).replaced next
  | @masked before passed announcement secret rest out untouched stretch tail ih =>
    have extended := untouched.extend uncrossed notPending
    have alone : kind.Leads more → ¬ kind.Pending secret.getLast? rest := fun leads pending =>
      notPending leads (.later untouched stretch pending)
    have ends : rest <:+ passed ++ (announcement ++ (secret ++ rest)) :=
      ⟨passed ++ (announcement ++ secret), by simp⟩
    have stops : rest = [] → ¬ kind.Leads more := by
      rintro rfl leads
      rw [List.append_nil] at untouched notPending
      exact notPending leads (.here untouched stretch.announced stretch.isSecret)
    rw [behind_append, behind_append, behind_append, behind_of_ne_nil stretch.nonempty] at next
    have joined := ih (uncrossed.of_suffix ends) alone next
    simp only [List.append_assoc] at extended ⊢
    exact .masked extended (stretch.append stops) joined

/-! ## Behind a pending text -/

theorem Kind.Pending.ne_nil (lawful : kind.Lawful) (pending : kind.Pending before text) : text ≠ [] := by
  obtain ⟨first, _, announcement, secret, rfl, announced, -⟩ := pending.exists_announcement
  exact List.append_ne_nil_of_right_ne_nil first
    (List.append_ne_nil_of_left_ne_nil (lawful.ne_nil announced) secret)

/-- What stands behind an announcement does not matter to what is before it. -/
theorem Kind.Untouched.replace_behind_announcement (lawful : kind.Lawful) (separate : kind.Separate)
    {announcement rest rest' : Text} (announced : kind.Announces (behind before passed) announcement)
    (untouched : kind.Untouched before passed (announcement ++ rest)) :
    kind.Untouched before passed (announcement ++ rest') := by
  refine untouched.replace_ahead (separate announced _ _) ?_
  rw [Kind.Leads.append_iff (lawful.ne_nil announced), Kind.Leads.append_iff (lawful.ne_nil announced)]
  exact id

/-- What a pending text is continued by is taken for the rest of its last secret, as far as it may belong
to one, and masked with it: what is kept does not depend on it. -/
theorem Kind.Pending.replaced (lawful : kind.Lawful) (separate : kind.Separate)
    (pending : kind.Pending before text) :
    ∃ kept, ∀ (swallowed : Text) {rest out : Text}, swallowed ≠ [] →
      (∀ point ∈ swallowed, kind.isSecret point = true) → ¬ kind.Leads rest →
      Replaced kind swallowed.getLast? rest out →
        Replaced kind before (text ++ (swallowed ++ rest)) (kept ++ (mask ++ out)) := by
  induction pending with
  | @here before passed announcement secret untouched announced isSecret =>
    refine ⟨passed ++ announcement, ?_⟩
    intro swallowed rest out nonempty swallows stops next
    have stretch : kind.Stretch (behind before passed) (announcement ++ ((secret ++ swallowed) ++ rest))
        announcement (secret ++ swallowed) rest :=
      { split := rfl
        announced := announced
        nonempty := List.append_ne_nil_of_right_ne_nil _ nonempty
        isSecret := fun point inside => (List.mem_append.mp inside).elim (isSecret point) (swallows point)
        ends := fun point first => Bool.eq_false_iff.mpr fun isSecret => stops ⟨point, first, isSecret⟩ }
    rw [← List.getLast?_append_of_ne_nil secret nonempty] at next
    have replaced := Replaced.masked (untouched.replace_behind_announcement lawful separate announced)
      stretch next
    simpa only [List.append_assoc] using replaced
  | @later before passed announcement secret rest untouched stretch pending ih =>
    obtain ⟨kept, continued⟩ := ih
    refine ⟨passed ++ (announcement ++ (mask ++ kept)), ?_⟩
    intro swallowed _ _ nonempty swallows stops next
    have replaced := Replaced.masked
      (untouched.replace_behind_announcement lawful separate stretch.announced)
      (stretch.append fun nothing => absurd nothing (pending.ne_nil lawful))
      (continued swallowed nonempty swallows stops next)
    simpa only [List.append_assoc] using replaced

/-! ## Behind a bracket -/

theorem Kind.Lawful.uncrossed_bracket (lawful : kind.Lawful) (ends : text.getLast? = some (.char ']')) :
    kind.Uncrossed text more := by
  rintro before first second begun rfl nonempty - - announced
  rw [List.getLast?_append_of_ne_nil _ nonempty] at ends
  have inside := List.mem_append_left begun (List.mem_of_getLast? ends)
  exact (lawful.unbracketed announced _ inside).2 rfl

theorem Replaced.nil_eq (replaced : Replaced kind before [] out) : out = [] := by
  generalize nothing : ([] : Text) = text at replaced
  cases replaced with
  | clear => rfl
  | masked _ stretch => simp [stretch.nonempty] at nothing

/-- A bracket at the end of a text is kept or the end of a mask. -/
theorem Replaced.getLast?_bracket (replaced : Replaced kind before text out)
    (ends : text.getLast? = some (.char ']')) : out.getLast? = some (.char ']') := by
  induction replaced with
  | clear => exact ends
  | @masked before passed announcement secret rest out untouched stretch more ih =>
    rw [← List.append_assoc, ← List.append_assoc] at ends ⊢
    cases rest with
    | nil =>
      obtain rfl := more.nil_eq
      have closed : mask.getLast? = some (.char ']') := rfl
      rwa [List.append_nil, List.getLast?_append_of_ne_nil _ (by decide : mask ≠ [])]
    | cons point rest =>
      rw [List.getLast?_append_of_ne_nil _ (List.cons_ne_nil point rest)] at ends
      have closed := ih ends
      have nonempty : out ≠ [] := by
        rintro rfl
        cases closed
      rwa [List.getLast?_append_of_ne_nil _ nonempty]

end ApiSurface.Redaction
