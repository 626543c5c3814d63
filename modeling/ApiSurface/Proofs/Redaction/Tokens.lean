import ApiSurface.Proofs.Redaction.Joining
import ApiSurface.Proofs.Redaction.Secrecy

/-!
# What redacted texts say of bearer tokens

Two texts that differ in a bearer token only are redacted alike, exactly if the word that announces the
token is not taken for the rest of a token before it (`redact_alike_iff`). A text that ends in the word and
blanks, or in a token, takes in the word that is put behind it; the token that the word announces is then
left in the redacted text.
-/

namespace ApiSurface.Redaction

open ApiSurface.Text

/-- A text that is a token. -/
def IsToken (token : Text) : Prop := token ≠ [] ∧ ∀ point ∈ token, isOfToken point = true

instance (token : Text) : Decidable (IsToken token) := inferInstanceAs (Decidable (_ ∧ _))

/-! ## Where announcements begin -/

/-- A code point that an announcement begins with. -/
def Kind.Opens (kind : Kind) (point : CodePoint) : Prop :=
  ∃ before announcement, kind.Announces before announcement ∧ announcement.head? = some point

theorem Kind.Lawful.clear_of_not_opens {kind : Kind} (lawful : kind.Lawful) {point : CodePoint}
    (quiet : ¬ kind.Opens point) (before : Option CodePoint) (rest : Text) :
    kind.Clear before (point :: rest) := by
  rintro announcement secret after stretch
  refine quiet ⟨before, announcement, stretch.announced, ?_⟩
  rw [← List.head?_append_of_ne_nil _ (lawful.ne_nil stretch.announced), ← stretch.split, List.head?_cons]

theorem Kind.Headed.of_opens {kind : Kind} {opening : CodePoint → Prop} (headed : kind.Headed opening)
    {point : CodePoint} (opens : kind.Opens point) : opening point := by
  obtain ⟨_, _, announced, begins⟩ := opens
  obtain ⟨first, rest, rfl, isOpening, -⟩ := headed announced
  obtain rfl := Option.some.inj begins
  exact isOpening

theorem credential_opens_letter {point : CodePoint} (opens : Kind.credential.Opens point) :
    letterOf point ≠ none := by
  obtain ⟨_, _, ⟨name, known, word, separator, rfl, spells, -⟩, begins⟩ := opens
  rw [head?_name known spells] at begins
  exact letterOf_of_name known spells point (List.mem_of_head? begins)

/-! ## A word that stands -/

/-- What is before a text does not matter to its bearer tokens. -/
theorem replaceFrom_bearerToken_before (before before' : Option CodePoint) (text : Text) :
    replaceFrom bearerToken before 0 text = replaceFrom bearerToken before' 0 text := by
  cases text <;> rfl

theorem announces_bearer (before : Option CodePoint) : Kind.bearer.Announces before ("Bearer " : Text) :=
  ⟨("Bearer" : Text), (" " : Text), rfl, by decide, by decide, by decide⟩

theorem replace_standing {front token after : Text} (stands : ¬ Kind.bearer.Pending none front)
    (isToken : IsToken token) (ends : ∀ point ∈ after.head?, isOfToken point = false) :
    replace bearerToken (front ++ (("Bearer " : Text) ++ (token ++ after))) =
      replace bearerToken front ++ (("Bearer " : Text) ++ (mask ++ replace bearerToken after)) := by
  have tail : Replaced .bearer token.getLast? after (replace bearerToken after) := by
    rw [replace, replaceFrom_bearerToken_before none token.getLast?]
    exact replaceFrom_replaced recognises_bearer _ after
  have masked : Replaced .bearer (behind none front) (("Bearer " : Text) ++ (token ++ after))
      (("Bearer " : Text) ++ (mask ++ replace bearerToken after)) :=
    .first ⟨rfl, announces_bearer _, isToken.1, isToken.2, ends⟩ tail
  have joined := (replace_replaced recognises_bearer front).append
    (headed_bearer.separate (announces_bearer none) front _) (fun _ => stands) masked
  exact (joined.eq recognises_bearer).symm

/-- A text without a letter that the word bearer begins with takes in no word that is put behind it. -/
theorem not_pending_of_forall {front : Text} (free : ∀ point ∈ front, letterOf point ≠ some 'b') :
    ¬ Kind.bearer.Pending none front := by
  intro pending
  obtain ⟨first, _, announcement, secret, rfl, announced, -⟩ := pending.exists_announcement
  obtain ⟨point, rest, rfl, isB, -⟩ := headed_bearer announced
  exact free point (List.mem_append_right _ List.mem_cons_self) isB

/-! ## A word that is taken in -/

/-- A blank ends a secret of the kind, and neither a blank nor one of two digits begins an announcement. -/
structure Kind.Quiet (kind : Kind) : Prop where
  blank : kind.isSecret (.char ' ') = false
  opens : ∀ c ∈ [' ', '0', '1'], ¬ kind.Opens (.char c)

theorem quiet_bearer : Kind.bearer.Quiet where
  blank := rfl
  opens := by
    have other : ∀ c ∈ [' ', '0', '1'], letterOf (.char c) ≠ some 'b' := by decide
    exact fun c among opens => other c among (headed_bearer.of_opens opens)

theorem quiet_credential : Kind.credential.Quiet where
  blank := rfl
  opens := by
    have other : ∀ c ∈ [' ', '0', '1'], letterOf (.char c) = none := by decide
    exact fun c among opens => credential_opens_letter opens (other c among)

theorem quiet_parameter : Kind.parameter.Quiet where
  blank := rfl
  opens := by
    have other : ∀ c ∈ [' ', '0', '1'], ¬ (CodePoint.char c).any ['?', '&'].contains = true := by decide
    exact fun c among opens => other c among (headed_parameter.of_opens opens)

section Digits

variable {recognise : Recogniser} {kind : Kind} (recognises : Recognises recognise kind)
  (lawful : kind.Lawful) (quiet : kind.Quiet) {digit : Char} (isDigit : digit ∈ ['0', '1']) (after : Text)

include recognises lawful quiet isDigit in
/-- A blank and a digit stay where they are. -/
theorem replaced_digit (before : Option CodePoint) :
    Replaced kind before (.char ' ' :: .char digit :: after)
      (.char ' ' :: .char digit :: replaceFrom recognise (some (.char digit)) 0 after) :=
  .cons (lawful.clear_of_not_opens (quiet.opens ' ' List.mem_cons_self) _ _) <|
    .cons (lawful.clear_of_not_opens (quiet.opens digit (List.mem_cons_of_mem _ isDigit)) _ _) <|
      replaceFrom_replaced recognises _ after

include quiet in
theorem not_leads_blank (rest : Text) : ¬ kind.Leads (.char ' ' :: rest) := by
  rintro ⟨_, ⟨⟩, isSecret⟩
  exact Bool.false_ne_true (quiet.blank.symm.trans isSecret)

include recognises lawful quiet isDigit in
/-- What stands before a bracket, a blank and a digit is replaced as it is alone. -/
theorem replace_digit {text : Text} (ends : text.getLast? = some (.char ']')) :
    ∃ later, replace recognise (text ++ .char ' ' :: .char digit :: after) =
      replace recognise text ++ .char ' ' :: .char digit :: later := by
  have joined := (replace_replaced recognises text).append (lawful.uncrossed_bracket ends)
    (fun leads => absurd leads (not_leads_blank quiet _))
    (replaced_digit recognises lawful quiet isDigit after _)
  exact ⟨_, (joined.eq recognises).symm⟩

end Digits

/-- Behind a text that is pending the word is masked with the token before it, and a digit that is a token
is left. -/
theorem redact_pending {front : Text} (pending : Kind.bearer.Pending none front) (after : Text) :
    ∃ kept, ∀ digit ∈ ['0', '1'], ∃ later,
      redact (front ++ (("Bearer " : Text) ++ (.char digit :: after))) =
        kept ++ .char ' ' :: .char digit :: later := by
  obtain ⟨kept, continued⟩ := pending.replaced lawful_bearer headed_bearer.separate
  have ends : (kept ++ mask).getLast? = some (.char ']') :=
    List.getLast?_append_of_ne_nil _ (by decide : mask ≠ [])
  have endsLater := (replace_replaced recognises_credential (kept ++ mask)).getLast?_bracket ends
  refine ⟨replace queryParameter (replace credential (kept ++ mask)), fun digit isDigit => ?_⟩
  have swallowed := continued ("Bearer" : Text) (by decide) (by decide) (not_leads_blank quiet_bearer _)
    (replaced_digit recognises_bearer lawful_bearer quiet_bearer isDigit after ("Bearer" : Text).getLast?)
  rw [← List.append_assoc kept] at swallowed
  have tokens : _ = replace bearerToken (front ++ (("Bearer " : Text) ++ (.char digit :: after))) :=
    swallowed.eq recognises_bearer
  obtain ⟨afterCredentials, credentials⟩ :=
    replace_digit recognises_credential lawful_credential quiet_credential isDigit _ ends
  obtain ⟨later, parameters⟩ :=
    replace_digit recognises_parameter lawful_parameter quiet_parameter isDigit afterCredentials endsLater
  exact ⟨later, by rw [redact, ← tokens, credentials, parameters]⟩

/-! ## Texts that differ in a token -/

/-- Texts that differ in a bearer token only are redacted alike, exactly if the word that announces it is
not taken in by a token before it. -/
theorem redact_alike_iff (front after : Text) (ends : ∀ point ∈ after.head?, isOfToken point = false) :
    (∀ token other, IsToken token → IsToken other →
      redact (front ++ (("Bearer " : Text) ++ (token ++ after))) =
        redact (front ++ (("Bearer " : Text) ++ (other ++ after)))) ↔
      ¬ Kind.bearer.Pending none front := by
  constructor
  · intro alike pending
    obtain ⟨kept, left⟩ := redact_pending pending after
    obtain ⟨later, first⟩ := left '0' (by decide)
    obtain ⟨later', second⟩ := left '1' (by decide)
    have same := alike [.char '0'] [.char '1'] (by decide) (by decide)
    rw [List.singleton_append, List.singleton_append, first, second] at same
    have digits := (List.cons.inj (List.cons.inj (List.append_cancel_left same)).2).1
    exact absurd digits (by decide)
  · intro stands token other isToken isOther
    rw [redact, redact, replace_standing stands isToken ends, replace_standing stands isOther ends]

/-- The token of a header in quotes cannot be read off the redacted text. -/
theorem redact_alike_header : (∀ point ∈ ("\"" : Text).head?, isOfToken point = false) ∧
    ∀ token other, IsToken token → IsToken other →
      redact (("\"Authorization: " : Text) ++ (("Bearer " : Text) ++ (token ++ ("\"" : Text)))) =
        redact (("\"Authorization: " : Text) ++ (("Bearer " : Text) ++ (other ++ ("\"" : Text)))) :=
  ⟨by decide, (redact_alike_iff "\"Authorization: " "\"" (by decide)).mpr
    (not_pending_of_forall (by decide))⟩

/-- A bearer token behind a word that is taken for one itself can be read off the redacted text. -/
theorem bearer_token_left : ¬ ∀ front token other after : Text, IsToken token → IsToken other →
    (∀ point ∈ after.head?, isOfToken point = false) →
      redact (front ++ (("Bearer " : Text) ++ (token ++ after))) =
        redact (front ++ (("Bearer " : Text) ++ (other ++ after))) := by
  intro alike
  have first : redact "bearer Bearer abc" = ("bearer [REDACTED] abc" : Text) := by decide +kernel
  have second : redact "bearer Bearer xyz" = ("bearer [REDACTED] xyz" : Text) := by decide +kernel
  have same := alike "bearer " "abc" "xyz" [] (by decide) (by decide) (by decide)
  exact absurd (first.symm.trans (same.trans second)) (by decide)

end ApiSurface.Redaction
