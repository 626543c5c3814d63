import ApiSurface.Proofs.Redaction.Replacement
import ApiSurface.Proofs.Redaction.Words
import ApiSurface.Proofs.Text.Fields

/-!
# The kinds of secrets

What announces a bearer token, the value of a credential and a secret query parameter, each told by how
it is written. The three recognisers find exactly the secrets of these kinds (`recognises_bearer`,
`recognises_credential`, `recognises_parameter`).
-/

namespace ApiSurface.Redaction

open ApiSurface.Text

/-! ## How secrets are announced -/

/-- A quote, which may be missing. -/
def OptionalQuote (text : Text) : Prop :=
  text = [] ∨ ∃ point, point.any ['"', '\''].contains = true ∧ text = [point]

/-- A colon or an equals sign, with blanks around it, between a quote before and one after them; blanks
and quotes may be missing. -/
def Separates (text : Text) : Prop :=
  ∃ quote blanks point gap mark, text = quote ++ (blanks ++ point :: (gap ++ mark)) ∧
    OptionalQuote quote ∧ AllBlank blanks ∧ point.any [':', '='].contains = true ∧ AllBlank gap ∧
    OptionalQuote mark

/-- A bearer token is announced by the word and at least one blank. -/
def Kind.bearer : Kind where
  Announces _ text := ∃ word blanks, text = word ++ blanks ∧ Spells "bearer".toList word ∧
    AllBlank blanks ∧ blanks ≠ []
  isSecret := isOfToken

/-- The value of a credential is announced by the name of one, which is a word of its own, and a
separator. -/
def Kind.credential : Kind where
  Announces before text := ∃ name ∈ credentialNames, ∃ word separator, text = word ++ separator ∧
    Spells name word ∧ isBoundary before word.head? = true ∧
    isBoundary word.getLast? separator.head? = true ∧ Separates separator
  isSecret := isOfValue

/-- A secret query parameter is announced by its name behind a question mark or an ampersand. -/
def Kind.parameter : Kind where
  Announces _ text := ∃ name ∈ parameterNames, ∃ mark word, text = mark :: word ∧
    mark.any ['?', '&'].contains = true ∧ Spells name word
  isSecret := isOfParameter

/-! ## Recognition -/

theorem secretAt_eq_some_iff {isSecret : CodePoint → Bool} {kept : Nat} {text : Text} {found : Found} :
    secretAt isSecret kept text = some found ↔
      ∃ secret rest, text = secret ++ rest ∧ secret ≠ [] ∧ (∀ point ∈ secret, isSecret point = true) ∧
        (∀ point ∈ rest.head?, isSecret point = false) ∧ found = ⟨kept, secret.length⟩ := by
  constructor
  · intro recognised
    have nonempty : text.takeWhile isSecret ≠ [] := by
      intro nothing
      rw [secretAt, nothing] at recognised
      cases recognised
    obtain ⟨point, more, taken⟩ := List.exists_cons_of_ne_nil nonempty
    refine ⟨text.takeWhile isSecret, text.dropWhile isSecret, List.takeWhile_append_dropWhile.symm,
      nonempty, fun _ => List.mem_takeWhile_imp, fun point first => ?_, ?_⟩
    · have unlike := List.head?_dropWhile_not isSecret text
      rwa [Option.mem_def.mp first] at unlike
    · rw [secretAt, taken] at recognised
      rw [taken]
      exact (Option.some.inj recognised).symm
  · rintro ⟨secret, rest, rfl, nonempty, all, ends, rfl⟩
    have stops : rest.takeWhile isSecret = [] := by
      cases rest with
      | nil => rfl
      | cons point rest => exact List.takeWhile_cons_of_neg (by simp [ends point rfl])
    obtain ⟨point, more, rfl⟩ := List.exists_cons_of_ne_nil nonempty
    rw [secretAt, List.takeWhile_append_of_pos all, stops, List.append_nil]
    rfl

/-- A recogniser that looks for what follows an announcement, and for a secret there. -/
theorem recognises_of {kind : Kind} {recognise : Recogniser}
    (follows? : Option CodePoint → Text → Option Text)
    (looks : ∀ before text, recognise before text =
      (follows? before text).bind fun value =>
        secretAt kind.isSecret (text.length - value.length) value)
    (announced : ∀ before text value, follows? before text = some value →
      ∃ announcement, text = announcement ++ value ∧ kind.Announces before announcement)
    (found : ∀ before announcement point rest, kind.Announces before announcement →
      kind.isSecret point = true →
        follows? before (announcement ++ point :: rest) = some (point :: rest)) :
    Recognises recognise kind := by
  intro before text result
  rw [looks, Option.bind_eq_some_iff]
  constructor
  · rintro ⟨value, follows, secretFound⟩
    obtain ⟨announcement, rfl, announces⟩ := announced before text value follows
    obtain ⟨secret, rest, rfl, nonempty, all, ends, rfl⟩ := secretAt_eq_some_iff.mp secretFound
    refine ⟨announcement, secret, rest, ⟨rfl, announces, nonempty, all, ends⟩, ?_⟩
    rw [List.length_append, Nat.add_sub_cancel]
  · rintro ⟨announcement, secret, rest, stretch, rfl⟩
    obtain ⟨point, more, rfl⟩ := List.exists_cons_of_ne_nil stretch.nonempty
    obtain rfl := stretch.split
    refine ⟨point :: (more ++ rest),
      found before announcement point _ stretch.announced (stretch.isSecret point List.mem_cons_self),
      secretAt_eq_some_iff.mpr ⟨point :: more, rest, rfl, stretch.nonempty, stretch.isSecret,
        stretch.ends, ?_⟩⟩
    rw [List.cons_append, List.length_append, Nat.add_sub_cancel]

/-- What follows the announcement of a bearer token. -/
def bearerFollows? (text : Text) : Option Text :=
  (afterWord? "bearer".toList text).bind fun rest =>
    if (dropBlanks rest).length = rest.length then none else some (dropBlanks rest)

/-- What follows the announcement of a credential. -/
def credentialFollows? (before : Option CodePoint) (text : Text) : Option Text :=
  if isBoundary before text.head? then
    (credentialNames.findSome? (afterName? text)).bind afterSeparator?
  else none

/-- What follows the announcement of a query parameter. -/
def parameterFollows? : Text → Option Text
  | point :: rest =>
    if point.any ['?', '&'].contains then parameterNames.findSome? fun name => afterWord? name rest
    else none
  | [] => none

theorem bearerToken_looks (before : Option CodePoint) (text : Text) :
    bearerToken before text = (bearerFollows? text).bind fun value =>
      secretAt isOfToken (text.length - value.length) value := by
  unfold bearerToken bearerFollows?
  cases afterWord? "bearer".toList text with
  | none => rfl
  | some rest =>
    simp only [Option.bind_some]
    split <;> rfl

theorem credential_looks (before : Option CodePoint) (text : Text) :
    credential before text = (credentialFollows? before text).bind fun value =>
      secretAt isOfValue (text.length - value.length) value := by
  unfold credential credentialFollows?
  split
  · cases credentialNames.findSome? (afterName? text) with
    | none => rfl
    | some rest =>
      simp only [Option.bind_some]
      cases afterSeparator? rest <;> rfl
  · rfl

theorem queryParameter_looks (before : Option CodePoint) (text : Text) :
    queryParameter before text = (parameterFollows? text).bind fun value =>
      secretAt isOfParameter (text.length - value.length) value := by
  cases text with
  | nil => rfl
  | cons point rest =>
    unfold queryParameter parameterFollows?
    dsimp only
    split
    · cases parameterNames.findSome? fun name => afterWord? name rest <;> rfl
    · rfl

/-! ### What is dropped -/

theorem dropBlanks_append {blanks rest : Text} (blank : AllBlank blanks)
    (head : ∀ point ∈ rest.head?, point.any isBlank = false) : dropBlanks (blanks ++ rest) = rest := by
  rw [dropBlanks, blank.dropWhile_append, dropWhile_of_head head]

theorem exists_blanks (text : Text) : ∃ blanks, AllBlank blanks ∧ text = blanks ++ dropBlanks text :=
  ⟨_, allBlank_takeWhile text, List.takeWhile_append_dropWhile.symm⟩

theorem dropQuote_append {quote rest : Text} (optional : OptionalQuote quote)
    (head : ∀ point ∈ rest.head?, point.any ['"', '\''].contains = false) :
    dropQuote (quote ++ rest) = rest := by
  obtain rfl | ⟨point, isQuote, rfl⟩ := optional
  · cases rest with
    | nil => rfl
    | cons point rest => exact if_neg (by rw [head point rfl]; exact Bool.false_ne_true)
  · exact if_pos isQuote

theorem exists_quote (text : Text) :
    ∃ quote, OptionalQuote quote ∧ text = quote ++ dropQuote text := by
  cases text with
  | nil => exact ⟨[], .inl rfl, rfl⟩
  | cons point rest =>
    by_cases isQuote : point.any ['"', '\''].contains = true
    · exact ⟨[point], .inr ⟨point, isQuote, rfl⟩, by rw [dropQuote, if_pos isQuote]; rfl⟩
    · exact ⟨[], .inl rfl, by rw [dropQuote, if_neg isQuote]; rfl⟩

theorem afterSeparator?_split {text value : Text} (follows : afterSeparator? text = some value) :
    ∃ separator, text = separator ++ value ∧ Separates separator := by
  obtain ⟨quote, optional, quoted⟩ := exists_quote text
  obtain ⟨blanks, blank, spaced⟩ := exists_blanks (dropQuote text)
  unfold afterSeparator? at follows
  split at follows
  next point rest led =>
    rw [Option.ite_none_right_eq_some] at follows
    obtain ⟨separates, taken⟩ := follows
    obtain ⟨gap, wide, parted⟩ := exists_blanks rest
    obtain ⟨mark, perhaps, marked⟩ := exists_quote (dropBlanks rest)
    refine ⟨quote ++ (blanks ++ point :: (gap ++ mark)), ?_,
      quote, blanks, point, gap, mark, rfl, optional, blank, separates, wide, perhaps⟩
    rw [← Option.some.inj taken, List.append_assoc, List.append_assoc, List.cons_append,
      List.append_assoc, ← marked, ← parted, ← led, ← spaced, ← quoted]
  next => cases follows

/-! ### Classes of characters -/

theorem any_eq_false_of_contains {characters : List Char} {property : Char → Bool}
    (fails : ∀ c ∈ characters, property c = false) {point : CodePoint}
    (among : point.any characters.contains = true) : point.any property = false := by
  obtain ⟨c, inside, rfl⟩ := CodePoint.any_contains_iff.mp among
  exact fails c inside

theorem any_contains_eq_false {characters : List Char} {property : Char → Bool}
    (fails : ∀ c ∈ characters, property c = false) {point : CodePoint}
    (holds : point.any property = true) : point.any characters.contains = false := by
  refine Bool.eq_false_iff.mpr fun among => ?_
  rw [any_eq_false_of_contains fails among] at holds
  cases holds

theorem forall_head_append {property : CodePoint → Prop} {first rest : Text} {point : CodePoint}
    (all : ∀ other ∈ first, property other) (next : property point) :
    ∀ other ∈ (first ++ point :: rest).head?, property other := by
  cases first with
  | nil => rintro _ ⟨⟩; exact next
  | cons other first => rintro _ ⟨⟩; exact all other List.mem_cons_self

theorem OptionalQuote.quoted {quote : Text} (optional : OptionalQuote quote) :
    ∀ point ∈ quote, point.any ['"', '\''].contains = true := by
  obtain rfl | ⟨point, isQuote, rfl⟩ := optional
  · simp
  · simpa using isQuote

theorem of_isOfValue {point : CodePoint} (isOf : isOfValue point = true) :
    point.any isBlank = false ∧ point.any ['"', '\''].contains = false := by
  cases point with
  | char c => simp_all [isOfValue, CodePoint.any]
  | half => exact ⟨rfl, rfl⟩

theorem isBlank_of_isAlphanum {c : Char} (alphanumeric : c.isAlphanum = true) : isBlank c = false := by
  have number : c.toNat = c.val.toNat := rfl
  have ranges : ((decide (c.val ≥ 'A'.val ∧ c.val ≤ 'Z'.val) ||
      decide (c.val ≥ 'a'.val) && decide (c.val ≤ 'z'.val)) ||
      decide (c.val ≥ '0'.val) && decide (c.val ≤ '9'.val)) = true := alphanumeric
  simp only [Bool.or_eq_true, Bool.and_eq_true, decide_eq_true_eq, ge_iff_le, UInt32.le_iff_toNat_le,
    Char.reduceVal, UInt32.reduceToNat] at ranges
  simp only [isBlank, blankRanges, CharRanges.has, List.any_cons, List.any_nil, Bool.or_eq_false_iff,
    Bool.and_eq_false_iff, decide_eq_false_iff_not, and_true]
  omega

theorem of_isOfToken {point : CodePoint} (isOf : isOfToken point = true) :
    point.any isBlank = false := by
  cases point with
  | half => rfl
  | char c =>
    simp only [isOfToken, CodePoint.any, isAlphanumeric, Bool.or_eq_true, List.contains_iff_mem] at isOf
    obtain (alphanumeric | special) | sign := isOf
    · exact isBlank_of_isAlphanum alphanumeric
    · revert c; decide
    · revert c; decide

theorem Separates.ne_nil {separator : Text} (separates : Separates separator) : separator ≠ [] := by
  obtain ⟨quote, blanks, sign, gap, mark, rfl, -⟩ := separates
  simp

theorem names_ne_nil : ∀ name ∈ credentialNames, name ≠ [] := by decide

theorem head?_name {name : List Char} (known : name ∈ credentialNames) {word : Text}
    (spells : Spells name word) (rest : Text) : (word ++ rest).head? = word.head? :=
  List.head?_append_of_ne_nil _ (spells.ne_nil (names_ne_nil name known))

theorem boundary_last {name : List Char} (known : name ∈ credentialNames) {word : Text}
    (spells : Spells name word) (after : Option CodePoint) :
    isBoundary (name.getLast?.map .char) after = isBoundary word.getLast? after := by
  have cased : ∀ name ∈ credentialNames, ∀ letter ∈ name.getLast?.toList, ∀ form ∈ caseForms letter,
      isWord form = isWord letter := by decide
  cases last : name.getLast? with
  | none =>
    obtain rfl := List.getLast?_eq_none_iff.mp last
    obtain rfl := List.forall₂_nil_left_iff.mp spells
    rfl
  | some letter =>
    obtain ⟨form, among, written⟩ := spells.getLast? last
    rw [written, isBoundary, isBoundary]
    congr 1
    exact (cased name known letter (Option.mem_toList.mpr last) form among).symm

theorem afterName?_eq_some_iff {text rest : Text} {name : List Char} :
    afterName? text name = some rest ↔ afterWord? name text = some rest ∧
      isBoundary (name.getLast?.map .char) rest.head? = true := by
  unfold afterName?
  cases afterWord? name text with
  | none => simp
  | some more =>
    constructor
    · intro found
      obtain ⟨ends, same⟩ := Option.ite_none_right_eq_some.mp found
      obtain rfl := Option.some.inj same
      exact ⟨rfl, ends⟩
    · rintro ⟨same, ends⟩
      obtain rfl := Option.some.inj same
      exact if_pos ends

/-! ### The recognisers -/

theorem afterSeparator?_append {separator rest : Text} (separates : Separates separator)
    {point : CodePoint} (isOf : isOfValue point = true) :
    afterSeparator? (separator ++ point :: rest) = some (point :: rest) := by
  obtain ⟨quote, blanks, sign, gap, mark, rfl, optional, blank, isSign, wide, perhaps⟩ := separates
  obtain ⟨notBlank, unquoted⟩ := of_isOfValue isOf
  have quoteDropped : dropQuote (quote ++ (blanks ++ sign :: (gap ++ (mark ++ point :: rest)))) =
      blanks ++ sign :: (gap ++ (mark ++ point :: rest)) :=
    dropQuote_append optional <| forall_head_append
      (fun other inside => any_contains_eq_false (by decide) (blank other inside))
      (any_eq_false_of_contains (by decide) isSign)
  have blanksDropped : dropBlanks (blanks ++ sign :: (gap ++ (mark ++ point :: rest))) =
      sign :: (gap ++ (mark ++ point :: rest)) :=
    dropBlanks_append blank (by rintro _ ⟨⟩; exact any_eq_false_of_contains (by decide) isSign)
  have gapDropped : dropBlanks (gap ++ (mark ++ point :: rest)) = mark ++ point :: rest :=
    dropBlanks_append wide <| forall_head_append
      (fun other inside => any_eq_false_of_contains (by decide) (perhaps.quoted other inside)) notBlank
  have markDropped : dropQuote (mark ++ point :: rest) = point :: rest :=
    dropQuote_append perhaps (by rintro _ ⟨⟩; exact unquoted)
  simp only [afterSeparator?, List.append_assoc, List.cons_append, quoteDropped, blanksDropped,
    isSign, if_true, gapDropped, markDropped]

theorem recognises_bearer : Recognises bearerToken .bearer := by
  refine recognises_of (fun _ => bearerFollows?) bearerToken_looks ?announced ?found
  case announced =>
    intro before text value follows
    obtain ⟨rest, found, more⟩ := Option.bind_eq_some_iff.mp follows
    rw [Option.ite_none_left_eq_some] at more
    obtain ⟨spaced, taken⟩ := more
    obtain ⟨word, spells, rfl⟩ := afterWord?_eq_some_iff.mp found
    obtain ⟨blanks, blank, parted⟩ := exists_blanks rest
    obtain rfl := Option.some.inj taken
    refine ⟨word ++ blanks, by rw [List.append_assoc, ← parted], word, blanks, rfl, spells, blank, ?_⟩
    rintro rfl
    exact spaced (congrArg List.length parted.symm)
  case found =>
    rintro before _ point rest ⟨word, blanks, rfl, spells, blank, spaced⟩ isOf
    have found : afterWord? "bearer".toList (word ++ (blanks ++ point :: rest)) =
        some (blanks ++ point :: rest) := afterWord?_eq_some_iff.mpr ⟨word, spells, rfl⟩
    have dropped : dropBlanks (blanks ++ point :: rest) = point :: rest :=
      dropBlanks_append blank (by rintro _ ⟨⟩; exact of_isOfToken isOf)
    have shorter : (point :: rest).length ≠ (blanks ++ point :: rest).length := by
      have := List.length_pos_of_ne_nil spaced
      rw [List.length_append]
      omega
    rw [List.append_assoc, bearerFollows?, found, Option.bind_some, dropped, if_neg shorter]

theorem recognises_credential : Recognises credential .credential := by
  refine recognises_of credentialFollows? credential_looks ?announced ?found
  case announced =>
    intro before text value follows
    rw [credentialFollows?, Option.ite_none_right_eq_some] at follows
    obtain ⟨starts, follows⟩ := follows
    obtain ⟨rest, found, parted⟩ := Option.bind_eq_some_iff.mp follows
    obtain ⟨name, known, named⟩ := List.exists_of_findSome?_eq_some found
    obtain ⟨led, ends⟩ := afterName?_eq_some_iff.mp named
    obtain ⟨word, spells, rfl⟩ := afterWord?_eq_some_iff.mp led
    obtain ⟨separator, rfl, separates⟩ := afterSeparator?_split parted
    rw [head?_name known spells] at starts
    rw [boundary_last known spells, List.head?_append_of_ne_nil _ separates.ne_nil] at ends
    exact ⟨word ++ separator, by rw [List.append_assoc], name, known, word, separator, rfl, spells, starts,
      ends, separates⟩
  case found =>
    rintro before _ point rest ⟨name, known, word, separator, rfl, spells, starts, ends, separates⟩ isOf
    have named : afterName? (word ++ (separator ++ point :: rest)) name =
        some (separator ++ point :: rest) := by
      refine afterName?_eq_some_iff.mpr ⟨afterWord?_eq_some_iff.mpr ⟨word, spells, rfl⟩, ?_⟩
      rwa [boundary_last known spells, List.head?_append_of_ne_nil _ separates.ne_nil]
    have found : credentialNames.findSome? (afterName? (word ++ (separator ++ point :: rest))) =
        some (separator ++ point :: rest) :=
      (distinct_credentialNames.findSome?_eq_some_iff fun _ _ named =>
        (afterName?_eq_some_iff.mp named).1).mpr ⟨name, known, named⟩
    rw [List.append_assoc, credentialFollows?, head?_name known spells, if_pos starts, found,
      Option.bind_some, afterSeparator?_append separates isOf]

theorem recognises_parameter : Recognises queryParameter .parameter := by
  refine recognises_of (fun _ => parameterFollows?) queryParameter_looks ?announced ?found
  case announced =>
    rintro before (_ | ⟨mark, text⟩) value follows
    · cases follows
    · rw [parameterFollows?, Option.ite_none_right_eq_some] at follows
      obtain ⟨isMark, found⟩ := follows
      obtain ⟨name, known, named⟩ := List.exists_of_findSome?_eq_some found
      obtain ⟨word, spells, rfl⟩ := afterWord?_eq_some_iff.mp named
      exact ⟨mark :: word, rfl, name, known, mark, word, rfl, isMark, spells⟩
  case found =>
    rintro before _ point rest ⟨name, known, mark, word, rfl, isMark, spells⟩ -
    rw [List.cons_append, parameterFollows?, if_pos isMark]
    exact (distinct_parameterNames.findSome?_eq_some_iff fun _ _ found => found).mpr
      ⟨name, known, afterWord?_eq_some_iff.mpr ⟨word, spells, rfl⟩⟩

end ApiSurface.Redaction
