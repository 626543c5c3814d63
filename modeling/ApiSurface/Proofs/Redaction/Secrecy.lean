import Mathlib.Data.List.Infix
import ApiSurface.Proofs.Redaction.Coverage
import ApiSurface.Proofs.Redaction.Kinds

/-!
# No secret is left

The three kinds of secrets are announced lawfully: without brackets, with an end that the mask does not
have, and never from inside an announcement. So a redacted text holds no secret that it announces
(`redact_leaves_no_secret`), although each kind is replaced in what the one before has left.
-/

namespace ApiSurface.Redaction

open ApiSurface.Text

/-! ## What announcements are made of -/

/-- A separator is made of blanks, quotes and signs. -/
theorem Separates.of_points {separator : Text} {property : CodePoint → Prop}
    (separates : Separates separator)
    (blank : ∀ point : CodePoint, point.any isBlank = true → property point)
    (sign : ∀ c ∈ [':', '=', '"', '\''], property (.char c)) : ∀ point ∈ separator, property point := by
  obtain ⟨quote, blanks, point, gap, mark, rfl, optional, blankBefore, isSign, blankAfter, perhaps⟩ :=
    separates
  have quoted {quote : Text} (optional : OptionalQuote quote) : ∀ point ∈ quote, property point := by
    intro point inside
    obtain ⟨c, among, rfl⟩ := CodePoint.any_contains_iff.mp (optional.quoted point inside)
    exact sign c (List.mem_cons_of_mem _ (List.mem_cons_of_mem _ among))
  have signed : property point := by
    obtain ⟨c, among, rfl⟩ := CodePoint.any_contains_iff.mp isSign
    exact sign c (List.mem_append_left ['"', '\''] among)
  intro other inside
  simp only [List.mem_append, List.mem_cons] at inside
  obtain inside | inside | rfl | inside | inside := inside
  · exact quoted optional other inside
  · exact blank other (blankBefore other inside)
  · exact signed
  · exact blank other (blankAfter other inside)
  · exact quoted perhaps other inside

/-- A tail of points that are not in the mask is an end that the mask does not have. -/
theorem ends_of_tail {front tail : Text} (nonempty : tail ≠ []) (outside : ∀ point ∈ tail, point ∉ mask) :
    ∃ last ∈ (front ++ tail).getLast?, last ∉ mask := by
  rw [List.getLast?_append_of_ne_nil _ nonempty, List.getLast?_eq_some_getLast nonempty]
  exact ⟨_, rfl, outside _ (List.getLast_mem nonempty)⟩

theorem not_mem_mask_of_isBlank {point : CodePoint} (blank : point.any isBlank = true) : point ∉ mask := by
  intro inside
  have fails : ∀ point ∈ mask, point.any isBlank = false := by decide
  exact Bool.false_ne_true ((fails point inside).symm.trans blank)

theorem ne_bracket_of_isBlank {point : CodePoint} (blank : point.any isBlank = true) :
    point ≠ .char '[' ∧ point ≠ .char ']' := by
  constructor <;> (rintro rfl; revert blank; decide)

theorem letterOf_of_isBlank {point : CodePoint} (blank : point.any isBlank = true) :
    letterOf point = none :=
  letterOf_eq_none (by decide) blank

/-- A name has no bracket. -/
theorem Spells.unbracketed {word : List Char} {text : Text} (spells : Spells word text)
    (written : ∀ letter ∈ word, letter ∈ nameCharacters) :
    ∀ point ∈ text, point ≠ .char '[' ∧ point ≠ .char ']' :=
  spells.of_forms written (by decide)

/-! ## Bearer tokens -/

theorem headed_bearer : Kind.bearer.Headed fun point => letterOf point = some 'b' := by
  rintro before _ ⟨word, blanks, rfl, spells, blank, -⟩
  have spelled : word.map letterOf = some 'b' :: ['e', 'a', 'r', 'e', 'r'].map some :=
    (distinct_bearer.map_letterOf List.mem_cons_self spells).trans (by decide)
  obtain ⟨first, rest, rfl, isB, after⟩ := List.map_eq_cons_iff.mp spelled
  refine ⟨first, rest ++ blanks, rfl, isB, fun point inside => ?_⟩
  change letterOf point ≠ some 'b'
  obtain inside | inside := List.mem_append.mp inside
  · have known := List.mem_map_of_mem (f := letterOf) inside
    rw [after] at known
    rintro isB
    rw [isB] at known
    revert known
    decide
  · rw [letterOf_of_isBlank (blank point inside)]
    exact Option.some_ne_none 'b' |>.symm

theorem lawful_bearer : Kind.bearer.Lawful where
  unbracketed := by
    rintro before _ ⟨word, blanks, rfl, spells, blank, -⟩ point inside
    obtain inside | inside := List.mem_append.mp inside
    · exact spells.unbracketed (distinct_bearer.written _ List.mem_cons_self) point inside
    · exact ne_bracket_of_isBlank (blank point inside)
  ends := by
    rintro before _ ⟨word, blanks, rfl, spells, blank, nonempty⟩
    exact ends_of_tail nonempty fun point inside => not_mem_mask_of_isBlank (blank point inside)
  apart := headed_bearer.apart

/-! ## Credentials -/

/-- A name begins inside no other: what follows its first letter does not begin with a name. -/
theorem names_apart : ∀ name ∈ credentialNames, ∀ other ∈ credentialNames,
    ∀ rest ∈ (letters name).tail.tails, ¬ letters other <+: rest := by decide

theorem letterOf_of_separates {separator : Text} (separates : Separates separator) :
    ∀ point ∈ separator, letterOf point = none :=
  separates.of_points (fun _ => letterOf_of_isBlank) (by decide)

theorem letterOf_of_name {name : List Char} (known : name ∈ credentialNames) {word : Text}
    (spells : Spells name word) : ∀ point ∈ word, letterOf point ≠ none := by
  have lettered : ∀ name ∈ credentialNames, none ∉ letters name := by decide
  intro point inside isNone
  refine lettered name known ?_
  rw [← distinct_credentialNames.map_letterOf known spells, ← isNone]
  exact List.mem_map_of_mem inside

/-- A name that stands at the end of a name and what follows it stands in the name. -/
theorem name_within {name : List Char} (known : name ∈ credentialNames) {word separator rest after : Text}
    (spells : Spells name word) (separates : Separates separator)
    (reached : word ++ after = rest ++ separator) : word <+: rest := by
  obtain ⟨more, rfl, -⟩ | ⟨_ | ⟨point, past⟩, rfl, behind⟩ := List.append_eq_append_iff.mp reached
  · exact List.prefix_append word more
  · rw [List.append_nil]
  · have sign := letterOf_of_separates separates point (by rw [behind]; exact List.mem_cons_self)
    exact absurd sign (letterOf_of_name known spells point (List.mem_append_right _ List.mem_cons_self))

theorem lawful_credential : Kind.credential.Lawful where
  unbracketed := by
    rintro before _ ⟨name, known, word, separator, rfl, spells, -, -, separates⟩ point inside
    obtain inside | inside := List.mem_append.mp inside
    · exact spells.unbracketed (distinct_credentialNames.written name known) point inside
    · exact separates.of_points (fun _ => ne_bracket_of_isBlank) (by decide) point inside
  ends := by
    rintro before _ ⟨name, known, word, separator, rfl, spells, -, -, separates⟩
    exact ends_of_tail separates.ne_nil
      (separates.of_points (fun _ => not_mem_mask_of_isBlank) (by decide))
  apart := by
    rintro before first second _ ⟨name, known, word, separator, split, spells, -, -, separates⟩ nonempty
      ⟨other, alike, word', separator', rfl, spells', -, -, -⟩ ⟨after, rfl⟩
    rw [List.append_assoc] at split
    obtain ⟨rest, rfl, reached⟩ | ⟨blanks, rfl, rfl⟩ := List.append_eq_append_iff.mp split
    · obtain ⟨point, first, rfl⟩ := List.exists_cons_of_ne_nil nonempty
      refine names_apart name known other alike (rest.map letterOf) ?_ ?_
      · rw [← distinct_credentialNames.map_letterOf known spells, List.mem_tails]
        simp
      · rw [← distinct_credentialNames.map_letterOf alike spells']
        exact (name_within alike spells' separates reached).map letterOf
    · obtain ⟨point, more, rfl⟩ := List.exists_cons_of_ne_nil (spells'.ne_nil (names_ne_nil other alike))
      refine absurd (letterOf_of_separates separates point ?_)
        (letterOf_of_name alike spells' point List.mem_cons_self)
      exact List.mem_append_right _ (List.mem_append_left _ List.mem_cons_self)

/-! ## Query parameters -/

theorem headed_parameter : Kind.parameter.Headed fun point => point.any ['?', '&'].contains = true := by
  rintro before _ ⟨name, known, mark, word, rfl, isMark, spells⟩
  exact ⟨mark, word, rfl, isMark, spells.of_forms (distinct_parameterNames.written name known) (by decide)⟩

theorem lawful_parameter : Kind.parameter.Lawful where
  unbracketed := by
    rintro before _ ⟨name, known, mark, word, rfl, isMark, spells⟩ point inside
    have marks : ∀ c ∈ ['?', '&'], CodePoint.char c ≠ .char '[' ∧ CodePoint.char c ≠ .char ']' := by decide
    obtain rfl | inside := List.mem_cons.mp inside
    · obtain ⟨c, among, rfl⟩ := CodePoint.any_contains_iff.mp isMark
      exact marks c among
    · exact spells.unbracketed (distinct_parameterNames.written name known) point inside
  ends := by
    rintro before _ ⟨name, known, mark, word, rfl, isMark, spells⟩
    have last : ∀ name ∈ parameterNames, name.getLast? = some '=' := by decide
    have outside : ∀ form ∈ caseForms '=', CodePoint.char form ∉ mask := by decide
    obtain ⟨form, among, written⟩ := spells.getLast? (last name known)
    refine ⟨.char form, ?_, outside form among⟩
    rw [List.getLast?_cons, written]
    rfl
  apart := headed_parameter.apart

/-! ## Announcements that depend on what is before -/

theorem settled_bearer (other : Kind) : Kind.bearer.Settled other := fun announced _ => announced

theorem settled_parameter (other : Kind) : Kind.parameter.Settled other := fun announced _ => announced

/-- The name of a credential runs into every secret whose kind its letters may be of. -/
theorem settled_credential {other : Kind} (isOf : ∀ letter ∈ nameCharacters, ∀ form ∈ caseForms letter,
    other.isSecret (.char form) = true) : Kind.credential.Settled other := by
  rintro before before' _ ⟨name, known, word, separator, rfl, spells, -⟩ runsInto
  have secret : ∀ point ∈ word, other.isSecret point = true :=
    spells.of_forms (distinct_credentialNames.written name known) isOf
  obtain ⟨point, rest, rfl⟩ := List.exists_cons_of_ne_nil (spells.ne_nil (names_ne_nil name known))
  exact absurd ⟨point, rfl, secret point List.mem_cons_self⟩ runsInto

/-! ## Redacted texts -/

theorem replace_replaced {recognise : Recogniser} {kind : Kind} (recognises : Recognises recognise kind)
    (text : Text) : Replaced kind none text (replace recognise text) :=
  replaceFrom_replaced recognises none text

/-- Redacting covers every bearer token and credential, and masks every query parameter. -/
theorem redact_covered (text : Text) : Kind.bearer.Covered none (redact text) ∧
    Kind.credential.Covered none (redact text) ∧ Kind.parameter.Masked none (redact text) := by
  have tokens := replace_replaced recognises_bearer text
  have credentials := replace_replaced recognises_credential (replace bearerToken text)
  have parameters := replace_replaced recognises_parameter (replace credential (replace bearerToken text))
  refine ⟨?_, ?_, parameters.isMasked recognises_parameter lawful_parameter (settled_parameter _)⟩
  · have masked := tokens.isMasked recognises_bearer lawful_bearer (settled_bearer _)
    exact parameters.covered lawful_parameter lawful_bearer (settled_bearer _)
      (credentials.covered lawful_credential lawful_bearer (settled_bearer _) masked.covered)
  · have masked := credentials.isMasked recognises_credential lawful_credential
      (settled_credential (by decide))
    exact parameters.covered lawful_parameter lawful_credential (settled_credential (by decide))
      masked.covered

/-- Redacting replaces secrets of the three kinds, one kind after the other, and nothing else. In what is
left no token stands behind the word bearer, the value of every credential begins with the mask, and the
value of every secret query parameter is the mask. -/
theorem redact_leaves_no_secret (text : Text) :
    (∃ tokensReplaced credentialsReplaced, Replaced .bearer none text tokensReplaced ∧
      Replaced .credential none tokensReplaced credentialsReplaced ∧
      Replaced .parameter none credentialsReplaced (redact text)) ∧
    ∀ passed announcement point rest, redact text = passed ++ (announcement ++ point :: rest) →
      (Kind.bearer.Announces (behind none passed) announcement → isOfToken point = false) ∧
      (Kind.credential.Announces (behind none passed) announcement → isOfValue point = true →
        mask <+: point :: rest) ∧
      (Kind.parameter.Announces (behind none passed) announcement → isOfParameter point = true →
        (point :: rest).takeWhile isOfParameter = mask) := by
  refine ⟨⟨_, _, replace_replaced recognises_bearer _, replace_replaced recognises_credential _,
    replace_replaced recognises_parameter _⟩, fun passed announcement point rest split => ?_⟩
  obtain ⟨tokens, credentials, parameters⟩ := redact_covered text
  refine ⟨?_, ?_, ?_⟩
  · refine fun announced => Bool.eq_false_iff.mpr fun isOf => ?_
    obtain ⟨after, whole⟩ := tokens passed announcement _ ⟨split, announced, point, rfl, isOf⟩
    obtain rfl : .char '[' = point := (List.cons.inj whole).1
    revert isOf
    decide
  · intro announced isOf
    exact credentials passed announcement _ ⟨split, announced, point, rfl, isOf⟩
  · intro announced isOf
    obtain ⟨after, whole, noMore⟩ := parameters passed announcement _ ⟨split, announced, point, rfl, isOf⟩
    have isMask : ∀ point ∈ mask, isOfParameter point = true := by decide
    have stops : after.takeWhile isOfParameter = [] := by
      cases after with
      | nil => rfl
      | cons next after => exact List.takeWhile_cons_of_neg fun isOf => noMore ⟨next, rfl, isOf⟩
    rw [whole, List.takeWhile_append_of_pos isMask, stops, List.append_nil]

/-- Behind a token that is masked stands a query parameter, whose value is the mask. -/
theorem redact_leaves_no_secret_sample :
    redact "bearer a&access_token=b" =
        ("bearer [REDACTED]" : Text) ++ (("&access_token=" : Text) ++ .char '[' :: ("REDACTED]" : Text)) ∧
      (.char '[' :: ("REDACTED]" : Text)).takeWhile isOfParameter = mask := by
  have redacted : redact "bearer a&access_token=b" =
      ("bearer [REDACTED]" : Text) ++
        (("&access_token=" : Text) ++ .char '[' :: ("REDACTED]" : Text)) := by decide +kernel
  refine ⟨redacted, ((redact_leaves_no_secret "bearer a&access_token=b").2 _ _ _ _ redacted).2.2 ?_ rfl⟩
  exact ⟨"access_token=".toList, by decide, .char '&', ("access_token=" : Text), rfl, by decide, by decide⟩

end ApiSurface.Redaction
