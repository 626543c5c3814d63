import Mathlib.Data.List.Basic
import ApiSurface.Redaction

/-!
# Replacement from left to right

A kind of secret says how one is announced and what it is made of. A text in which the secrets of a kind
are replaced is told apart from how they are looked for: up to the first secret it is kept, the secret is
replaced by the mask, and the rest is gone through in the same way (`Replaced`). Replacing with a
recogniser of the kind comes to this and to nothing else (`replaceFrom_replaced`, `Replaced.eq`).
-/

namespace ApiSurface.Redaction

/-- A kind of secret: what announces one, given the code point before, and what one is made of. -/
structure Kind where
  Announces : Option CodePoint → Text → Prop
  isSecret : CodePoint → Bool

/-- The code point before a place: the last one of the text passed, or the one before that text. -/
def behind (before : Option CodePoint) (passed : Text) : Option CodePoint := passed.getLast?.or before

theorem behind_append (before : Option CodePoint) (first second : Text) :
    behind before (first ++ second) = behind (behind before first) second := by
  rw [behind, behind, behind, List.getLast?_append, Option.or_assoc]

theorem behind_cons (before : Option CodePoint) (point : CodePoint) (rest : Text) :
    behind before (point :: rest) = behind (some point) rest := by
  rw [← List.singleton_append, behind_append]
  rfl

theorem behind_of_ne_nil {passed : Text} (nonempty : passed ≠ []) (before : Option CodePoint) :
    behind before passed = passed.getLast? := by
  rw [behind, List.getLast?_eq_some_getLast nonempty, Option.some_or]

namespace Kind

/-- A secret at the beginning of a text: what announces it, the secret as far as it goes, and the rest. -/
structure Stretch (kind : Kind) (before : Option CodePoint) (text announcement secret rest : Text) :
    Prop where
  split : text = announcement ++ (secret ++ rest)
  announced : kind.Announces before announcement
  nonempty : secret ≠ []
  isSecret : ∀ point ∈ secret, kind.isSecret point = true
  ends : ∀ point ∈ rest.head?, kind.isSecret point = false

/-- No secret is at the beginning of a text. -/
def Clear (kind : Kind) (before : Option CodePoint) (text : Text) : Prop :=
  ∀ announcement secret rest, ¬ kind.Stretch before text announcement secret rest

/-- No secret is announced in the text passed, whatever lies ahead. -/
def Untouched (kind : Kind) (before : Option CodePoint) (passed ahead : Text) : Prop :=
  ∀ first second, passed = first ++ second → second ≠ [] →
    kind.Clear (behind before first) (second ++ ahead)

variable {kind : Kind} {before : Option CodePoint} {text announcement secret rest passed ahead : Text}

/-- An announcement with a secret code point behind it is that of a secret. -/
theorem exists_stretch (announced : kind.Announces before announcement) {point : CodePoint}
    (secret : kind.isSecret point = true) (rest : Text) :
    ∃ more after, rest = more ++ after ∧
      kind.Stretch before (announcement ++ point :: rest) announcement (point :: more) after := by
  refine ⟨rest.takeWhile kind.isSecret, rest.dropWhile kind.isSecret,
    List.takeWhile_append_dropWhile.symm, ?_, announced, List.cons_ne_nil _ _, ?_, ?_⟩
  · rw [List.cons_append, List.takeWhile_append_dropWhile]
  · rintro other (_ | ⟨_, inside⟩)
    · exact secret
    · exact List.all_eq_true.mp List.all_takeWhile other inside
  · intro next first
    have unlike := List.head?_dropWhile_not kind.isSecret rest
    rwa [Option.mem_def.mp first] at unlike

theorem Clear.not_announced {point : CodePoint} (clear : kind.Clear before text)
    (secret : kind.isSecret point = true) (split : text = announcement ++ point :: rest) :
    ¬ kind.Announces before announcement := by
  intro announced
  obtain ⟨more, after, -, stretch⟩ := exists_stretch announced secret rest
  exact clear _ _ _ (split ▸ stretch)

theorem Untouched.cons {point : CodePoint} (clear : kind.Clear before (point :: (passed ++ ahead)))
    (untouched : kind.Untouched (some point) passed ahead) :
    kind.Untouched before (point :: passed) ahead := by
  intro first second split nonempty
  cases first with
  | nil =>
    cases split
    exact clear
  | cons other first =>
    obtain ⟨rfl, rfl⟩ := List.cons.inj split
    rw [behind_cons]
    exact untouched first second rfl nonempty

theorem Untouched.head {point : CodePoint} (untouched : kind.Untouched before (point :: passed) ahead) :
    kind.Clear before (point :: (passed ++ ahead)) :=
  untouched [] (point :: passed) rfl (List.cons_ne_nil _ _)

theorem Untouched.tail {point : CodePoint} (untouched : kind.Untouched before (point :: passed) ahead) :
    kind.Untouched (some point) passed ahead := by
  intro first second split nonempty
  have later := untouched (point :: first) second (by rw [split, List.cons_append]) nonempty
  rwa [behind_cons] at later

theorem untouched_nil : kind.Untouched before [] ahead := fun _ _ split nonempty =>
  absurd (List.append_eq_nil_iff.mp split.symm).2 nonempty

end Kind

/-! ## The text with its secrets replaced -/

/-- A text before and after the secrets of a kind are replaced by the mask, each as far as it goes, from
left to right. -/
inductive Replaced (kind : Kind) : Option CodePoint → Text → Text → Prop where
  | clear {before : Option CodePoint} {text : Text} (untouched : kind.Untouched before text []) :
      Replaced kind before text text
  | masked {before : Option CodePoint} {passed announcement secret rest out : Text}
      (untouched : kind.Untouched before passed (announcement ++ (secret ++ rest)))
      (stretch : kind.Stretch (behind before passed) (announcement ++ (secret ++ rest)) announcement
        secret rest)
      (more : Replaced kind secret.getLast? rest out) :
      Replaced kind before (passed ++ (announcement ++ (secret ++ rest)))
        (passed ++ (announcement ++ (mask ++ out)))

variable {kind : Kind} {before : Option CodePoint} {text out : Text}

/-- Passing over a code point at which no secret is announced. -/
theorem Replaced.cons {point : CodePoint} (clear : kind.Clear before (point :: text))
    (replaced : Replaced kind (some point) text out) :
    Replaced kind before (point :: text) (point :: out) := by
  cases replaced with
  | clear untouched => exact .clear (.cons (by rwa [List.append_nil]) untouched)
  | @masked _ passed announcement secret rest _ untouched stretch more =>
    rw [← List.cons_append, ← List.cons_append]
    refine .masked (.cons clear untouched) ?_ more
    rwa [behind_cons]

theorem Replaced.first {announcement secret rest : Text}
    (stretch : kind.Stretch before (announcement ++ (secret ++ rest)) announcement secret rest)
    (more : Replaced kind secret.getLast? rest out) :
    Replaced kind before (announcement ++ (secret ++ rest)) (announcement ++ (mask ++ out)) :=
  .masked Kind.untouched_nil stretch more

/-! ## Recognisers -/

/-- A recogniser finds the secrets of a kind: exactly those, with what announces them. -/
def Recognises (recognise : Recogniser) (kind : Kind) : Prop :=
  ∀ before text found, recognise before text = some found ↔
    ∃ announcement secret rest, kind.Stretch before text announcement secret rest ∧
      found = ⟨announcement.length, secret.length⟩

/-- What is still to be passed over is passed over. -/
theorem replaceFrom_skip (recognise : Recogniser) (before : Option CodePoint) (passed text : Text) :
    replaceFrom recognise before passed.length (passed ++ text) =
      replaceFrom recognise (behind before passed) 0 text := by
  induction passed generalizing before with
  | nil => rfl
  | cons point passed ih => rw [List.length_cons, List.cons_append, replaceFrom, ih, behind_cons]

section Recognising

variable {recognise : Recogniser} (recognises : Recognises recognise kind)

include recognises

theorem Recognises.clear_iff : recognise before text = none ↔ kind.Clear before text := by
  rw [Option.eq_none_iff_forall_ne_some]
  constructor
  · intro nothing announcement secret rest stretch
    exact nothing _ ((recognises _ _ _).mpr ⟨_, _, _, stretch, rfl⟩)
  · intro clear found recognised
    obtain ⟨announcement, secret, rest, stretch, -⟩ := (recognises _ _ _).mp recognised
    exact clear _ _ _ stretch

/-- A secret is announced in one way only. -/
theorem Recognises.unique {announcement secret rest announcement' secret' rest' : Text}
    (stretch : kind.Stretch before text announcement secret rest)
    (other : kind.Stretch before text announcement' secret' rest') :
    announcement = announcement' ∧ secret = secret' ∧ rest = rest' := by
  have first := (recognises _ _ _).mpr ⟨_, _, _, stretch, rfl⟩
  have second := (recognises _ _ _).mpr ⟨_, _, _, other, rfl⟩
  obtain ⟨kept, long⟩ := Found.mk.inj (Option.some.inj (first.symm.trans second))
  obtain ⟨same, behind⟩ := List.append_inj (stretch.split.symm.trans other.split) kept
  exact ⟨same, List.append_inj behind long⟩

theorem replaceFrom_stretch {announcement secret rest : Text}
    (stretch : kind.Stretch before text announcement secret rest) :
    replaceFrom recognise before 0 text =
      announcement ++ (mask ++ replaceFrom recognise secret.getLast? 0 rest) := by
  obtain ⟨point, passed, stretched⟩ := List.exists_cons_of_ne_nil
    (List.append_ne_nil_of_right_ne_nil announcement stretch.nonempty)
  have whole : text = point :: (passed ++ rest) := by
    rw [stretch.split, ← List.append_assoc, stretched, List.cons_append]
  have kept : text.take announcement.length = announcement := by rw [stretch.split, List.take_left]
  have length : announcement.length + secret.length - 1 = passed.length := by
    rw [← List.length_append, stretched, List.length_cons, Nat.add_sub_cancel]
  have last : behind (some point) passed = secret.getLast? := by
    rw [← behind_cons none, ← stretched, behind_append, behind_of_ne_nil stretch.nonempty]
  have recognised := (recognises before text _).mpr ⟨_, _, _, stretch, rfl⟩
  subst whole
  rw [replaceFrom, recognised]
  simp only [kept, length, replaceFrom_skip, last, List.append_assoc]

theorem replaceFrom_clear {point : CodePoint} (clear : kind.Clear before (point :: text)) :
    replaceFrom recognise before 0 (point :: text) =
      point :: replaceFrom recognise (some point) 0 text := by
  rw [replaceFrom, recognises.clear_iff.mpr clear]

theorem replaceFrom_untouched {passed ahead : Text} (untouched : kind.Untouched before passed ahead) :
    replaceFrom recognise before 0 (passed ++ ahead) =
      passed ++ replaceFrom recognise (behind before passed) 0 ahead := by
  induction passed generalizing before with
  | nil => rfl
  | cons point passed ih =>
    rw [List.cons_append, replaceFrom_clear recognises untouched.head, ih untouched.tail, behind_cons,
      List.cons_append]

/-- Replacing with a recogniser replaces the secrets of its kind. -/
theorem replaceFrom_replaced (before : Option CodePoint) (text : Text) :
    Replaced kind before text (replaceFrom recognise before 0 text) := by
  by_cases clear : kind.Clear before text
  · cases text with
    | nil => exact .clear Kind.untouched_nil
    | cons point rest =>
      rw [replaceFrom_clear recognises clear]
      exact .cons clear (replaceFrom_replaced (some point) rest)
  · simp only [Kind.Clear, Classical.not_forall, Classical.not_not] at clear
    obtain ⟨announcement, secret, rest, stretch⟩ := clear
    have shorter : rest.length < text.length := by
      have := List.length_pos_of_ne_nil stretch.nonempty
      rw [stretch.split, List.length_append, List.length_append]
      omega
    have more := replaceFrom_replaced secret.getLast? rest
    rw [replaceFrom_stretch recognises stretch]
    obtain rfl := stretch.split
    exact .first stretch more
termination_by text.length

/-- Only replacing does. -/
theorem Replaced.eq (replaced : Replaced kind before text out) :
    out = replaceFrom recognise before 0 text := by
  induction replaced with
  | clear untouched =>
    have passedOver := replaceFrom_untouched recognises untouched
    rwa [List.append_nil, replaceFrom, List.append_nil, eq_comm] at passedOver
  | masked untouched stretch more ih =>
    rw [replaceFrom_untouched recognises untouched, replaceFrom_stretch recognises stretch, ← ih]

end Recognising

end ApiSurface.Redaction
