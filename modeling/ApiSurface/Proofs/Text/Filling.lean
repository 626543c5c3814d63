import Mathlib.Data.List.Basic
import ApiSurface.Proofs.Success
import ApiSurface.Proofs.Text.Escaping
import ApiSurface.Text.Template

/-!
# Where the halves in a message come from

Half of a surrogate pair in a filled template stands in the template, stands in an argument that is
a text, or is named by an argument that is a number (`half_mem_fillTemplate`). Lists, records and
numbers show as characters only, whatever stands in them (`Value.whole_shown`).
-/

namespace ApiSurface

open Text

/-! ## Whole texts -/

/-- A number that names a half is the half's own. -/
theorem CodePoint.eq_number_of_ofNat?_half {n : Nat} {place : Fin 0x800}
    (named : ofNat? n = some (half place)) : n = (half place).number := by
  unfold ofNat? at named
  split at named
  · cases named
  · split at named
    next inRange =>
      have isPlace := congrArg Fin.val (CodePoint.half.inj (Option.some.inj named))
      simp only [number, ← isPlace]
      omega
    next => cases named

namespace Text

theorem whole_ofString (s : String) : Whole s := whole_ofChars s.toList

theorem Whole.append {first second : Text} (whole : Whole first) (wholeSecond : Whole second) :
    Whole (first ++ second) := fun place member =>
  (List.mem_append.mp member).elim (whole place) (wholeSecond place)

theorem whole_intercalate {separator : Text} (whole : Whole separator) :
    ∀ {texts : List Text}, (∀ text ∈ texts, Whole text) → Whole (List.intercalate separator texts)
  | [], _ => by
    rw [List.intercalate_nil]
    exact fun _ => List.not_mem_nil
  | [text], all => by
    rw [List.intercalate_singleton]
    exact all text List.mem_cons_self
  | text :: next :: texts, all => by
    obtain ⟨first, later⟩ := List.forall_mem_cons.mp all
    rw [List.intercalate_cons_cons]
    exact (first.append whole).append (whole_intercalate whole later)

theorem whole_quoted (text : Text) : Whole (quoted text) := whole_ofChars _

theorem Whole.asciiOnly {text : Text} (whole : Whole text) : Whole (Directive.asciiOnly text) := by
  intro place member
  obtain ⟨point, isIn, shown⟩ := List.mem_flatMap.mp member
  split at shown
  next => exact whole place (List.mem_singleton.mp shown ▸ isIn)
  next => exact whole_ofChars _ place shown

end Text

namespace Value

mutual

/-- What a value shows as inside another holds characters only. -/
theorem whole_shown : ∀ v : Value, Whole v.shown
  | null => whole_ofString _
  | bool false => whole_ofString _
  | bool true => whole_ofString _
  | int _ => whole_ofString _
  | float _ => whole_ofString _
  | text s => whole_quoted s
  | list items => ((whole_ofString _).append
      (whole_intercalate (whole_ofString _) (whole_shownItems items))).append (whole_ofString _)
  | record entries => ((whole_ofString _).append
      (whole_intercalate (whole_ofString _) (whole_shownEntries entries))).append (whole_ofString _)
  | model _ => whole_ofString _

theorem whole_shownItems : ∀ items : List Value, ∀ text ∈ shownItems items, Whole text
  | [] => nofun
  | item :: items => List.forall_mem_cons.mpr ⟨whole_shown item, whole_shownItems items⟩

theorem whole_shownEntries : ∀ entries : List (Text × Value),
    ∀ text ∈ shownEntries entries, Whole text
  | [] => nofun
  | (key, value) :: entries => List.forall_mem_cons.mpr
      ⟨((whole_quoted key).append (whole_ofString _)).append (whole_shown value),
        whole_shownEntries entries⟩

end

/-- A half may come from a value: the value is a text in which it stands, or its number. -/
def Supplies (place : Fin 0x800) (v : Value) : Prop :=
  (∃ s, v = text s ∧ .half place ∈ s) ∨ v.asInteger? = some (CodePoint.half place).number

variable {place : Fin 0x800}

theorem half_mem_toText {v : Value} (member : .half place ∈ v.toText) : v.Supplies place := by
  cases v with
  | text s => exact .inl ⟨s, rfl, member⟩
  | _ => exact absurd member (whole_shown _ place)

end Value

namespace Text

variable {place : Fin 0x800} {directive : Directive} {text : Text} {value : Value} {index : Nat}

/-! ## Directives -/

namespace Directive

theorem half_mem_pad {numeric : Bool} {front body : Text}
    (member : .half place ∈ directive.pad numeric front body) :
    .half place ∈ front ∨ .half place ∈ body := by
  have blanks (n : Nat) (c : Char) : CodePoint.half place ∉ List.replicate n (CodePoint.char c) :=
    fun isIn => nomatch List.eq_of_mem_replicate isIn
  unfold pad at member
  split at member
  · simpa [blanks] using member
  · split at member <;> simpa [blanks] using member

theorem whole_pad {numeric : Bool} {front body : Text} (whole : Whole front)
    (wholeBody : Whole body) : Whole (directive.pad numeric front body) := fun place member =>
  (half_mem_pad member).elim (whole place) (wholeBody place)

theorem whole_sign (negative : Bool) : Whole (directive.sign negative) := by
  unfold sign
  split
  · exact whole_ofString _
  · split
    · exact whole_ofString _
    · split <;> exact whole_ofString _

theorem whole_ofInteger (base : Nat) {mark : Text} (whole : Whole mark) (upper : Bool) (n : Int) :
    Whole (directive.ofInteger base mark upper n) := by
  refine whole_pad ((whole_sign _).append ?_) (whole_ofChars _)
  split
  · exact whole
  · exact fun _ => List.not_mem_nil

theorem whole_ofDouble (letter : Char) (number : Decimal.Double) :
    Whole (directive.ofDouble letter number) :=
  whole_pad (whole_sign _) (whole_ofChars _)

theorem half_mem_ofText (member : .half place ∈ directive.ofText text) : .half place ∈ text := by
  obtain nothing | inBody := half_mem_pad member
  · cases nothing
  · split at inBody
    · exact List.mem_of_mem_take inBody
    · exact inBody

theorem eq_number_of_pointOfNumber {n : Int} (is : pointOfNumber n = .ok (.half place)) :
    n = (CodePoint.half place).number := by
  unfold pointOfNumber at is
  split at is
  · cases is
  · next nonnegative =>
    split at is
    next point named =>
      cases is
      have number := CodePoint.eq_number_of_ofNat?_half named
      omega
    next => cases is

/-- The code point that a value stands for is a half only if the value supplies it. -/
theorem supplies_of_pointOf (is : pointOf value = .ok (.half place)) : value.Supplies place := by
  unfold pointOf at is
  split at is
  next point =>
    cases is
    exact .inl ⟨_, rfl, List.mem_cons_self⟩
  next => cases is
  next =>
    split at is
    next n stands => exact .inr (stands.trans (congrArg some (eq_number_of_pointOfNumber is)))
    next => cases is

theorem whole_fillInteger {base : Nat} {mark : Text} (whole : Whole mark) {upper : Bool} {n : Int}
    (filled : directive.fillInteger base mark upper n = .ok text) : Whole text := by
  unfold fillInteger at filled
  split at filled
  · cases filled
  · cases filled
    exact whole_ofInteger base whole upper n

theorem whole_bind_fillInteger {read : Except TemplateFault Int} {base : Nat} {mark : String}
    {upper : Bool} (filled : read.bind (directive.fillInteger base mark upper) = .ok text) :
    Whole text := by
  obtain ⟨n, -, filled⟩ := bind_eq_ok_iff.mp filled
  exact whole_fillInteger (whole_ofString mark) filled

/-- What a directive makes of a value holds the halves that the value supplies. -/
theorem half_mem_fillAnyWidth (filled : directive.fillAnyWidth index value = .ok text)
    (member : .half place ∈ text) : value.Supplies place := by
  have absurdIf : Whole text → value.Supplies place := fun whole => absurd member (whole place)
  unfold fillAnyWidth at filled
  split at filled
  next =>
    cases filled
    exact Value.half_mem_toText (half_mem_ofText member)
  next =>
    cases filled
    exact absurd (half_mem_ofText member) (value.whole_shown place)
  next =>
    cases filled
    exact absurd (half_mem_ofText member) (value.whole_shown.asciiOnly place)
  next =>
    obtain ⟨point, is, rfl⟩ := map_eq_ok_iff.mp filled
    obtain nothing | isPoint := half_mem_pad member
    · cases nothing
    · cases List.mem_singleton.mp isPoint
      exact supplies_of_pointOf is
  iterate 6 next => exact absurdIf (whole_bind_fillInteger filled)
  next =>
    split at filled
    · obtain ⟨number, -, rfl⟩ := map_eq_ok_iff.mp filled
      exact absurdIf (whole_ofDouble _ number)
    · cases filled
  next => cases filled

theorem half_mem_fill (filled : directive.fill index value = .ok text)
    (member : .half place ∈ text) : value.Supplies place := by
  unfold fill at filled
  split at filled
  · exact half_mem_fillAnyWidth filled member
  · split at filled <;> cases filled

end Directive

/-! ## Arguments -/

namespace TemplateArguments

/-- A half may come from arguments: from one of them, or from what stands in their record. -/
def Supplies (place : Fin 0x800) : TemplateArguments → Prop
  | inTurn values => ∃ value ∈ values, value.Supplies place
  | named entries next =>
    (∃ entry ∈ entries, entry.2.Supplies place) ∨ ∃ value ∈ next, value.Supplies place

variable {arguments left : TemplateArguments}

theorem supplies_of_next? (place : Fin 0x800) (taken : arguments.next? = .ok (value, left)) :
    (value.Supplies place → arguments.Supplies place) ∧
      (left.Supplies place → arguments.Supplies place) := by
  cases arguments with
  | inTurn values =>
    cases values with
    | nil => cases taken
    | cons first values =>
      cases taken
      exact ⟨fun supplies => ⟨value, List.mem_cons_self, supplies⟩,
        fun ⟨other, member, supplies⟩ => ⟨other, List.mem_cons_of_mem _ member, supplies⟩⟩
  | named entries next =>
    cases next with
    | none => cases taken
    | some next =>
      cases taken
      refine ⟨fun supplies => .inr ⟨value, rfl, supplies⟩, ?_⟩
      rintro (inEntries | ⟨_, ⟨⟩, _⟩)
      exact .inl inEntries

theorem supplies_of_choose {name : Text} (chosen : arguments.choose name = .ok left)
    (supplies : left.Supplies place) : arguments.Supplies place := by
  cases arguments with
  | inTurn values => cases chosen
  | named entries next =>
    cases found : entries.lookup name with
    | none => simp [choose, found] at chosen
    | some value =>
      simp only [choose, found, Except.ok.injEq] at chosen
      subst chosen
      obtain inEntries | ⟨_, ⟨⟩, inValue⟩ := supplies
      · exact .inl inEntries
      · obtain ⟨before, after, rfl, -⟩ := List.lookup_eq_some_iff.mp found
        exact .inl ⟨(name, value), by simp, inValue⟩

end TemplateArguments

/-! ## Reading a directive -/

/-- What is left of arguments and a template, which brings nothing new. -/
structure Left (place : Fin 0x800) (arguments : TemplateArguments) (template : Text)
    (left : TemplateArguments) (rest : Text) : Prop where
  supplies : left.Supplies place → arguments.Supplies place
  subset : rest ⊆ template

variable {arguments between left : TemplateArguments} {template middle rest : Text}

theorem Left.all (subset : rest ⊆ template) : Left place arguments template arguments rest :=
  ⟨id, subset⟩

theorem Left.trans (first : Left place arguments template between middle)
    (second : Left place between middle left rest) : Left place arguments template left rest :=
  ⟨first.supplies ∘ second.supplies, List.Subset.trans second.subset first.subset⟩

theorem subset_of_templateName {opened : Nat} {name : Text}
    (read : templateName opened template = .ok (name, rest)) : rest ⊆ template := by
  induction opened, template using templateName.induct generalizing name rest with
  | case1 opened => cases read
  | case2 more =>
    cases read
    exact List.subset_cons_self _ _
  | case3 more opened ih =>
    obtain ⟨⟨inner, left⟩, readInner, is⟩ := map_eq_ok_iff.mp read
    cases is
    exact List.Subset.trans (ih readInner) (List.subset_cons_self _ _)
  | case4 opened more ih =>
    obtain ⟨⟨inner, left⟩, readInner, is⟩ := map_eq_ok_iff.mp read
    cases is
    exact List.Subset.trans (ih readInner) (List.subset_cons_self _ _)
  | case5 opened point more notClosing notOpening ih =>
    rw [templateName] at read
    · obtain ⟨⟨inner, left⟩, readInner, is⟩ := map_eq_ok_iff.mp read
      cases is
      exact List.Subset.trans (ih readInner) (List.subset_cons_self _ _)
    · exact notClosing
    · exact notOpening

theorem left_of_templateKey (read : templateKey arguments template = .ok (left, rest)) :
    Left place arguments template left rest := by
  unfold templateKey at read
  split at read
  next more =>
    split at read
    next => cases read
    next entries next =>
      obtain ⟨⟨name, behind⟩, named, read⟩ := bind_eq_ok_iff.mp read
      obtain ⟨chosen, chooses, read⟩ := bind_eq_ok_iff.mp read
      cases read
      exact ⟨TemplateArguments.supplies_of_choose chooses,
        List.Subset.trans (subset_of_templateName named) (List.subset_cons_self _ _)⟩
  next =>
    cases read
    exact .all (List.Subset.refl _)

theorem left_of_templateNumber {limit : Nat} {beyond : TemplateFault} {number : Option Int}
    (read : templateNumber limit beyond arguments template = .ok (number, left, rest)) :
    Left place arguments template left rest := by
  unfold templateNumber at read
  split at read
  next more =>
    obtain ⟨⟨value, after⟩, taken, read⟩ := bind_eq_ok_iff.mp read
    obtain ⟨n, -, read⟩ := bind_eq_ok_iff.mp read
    cases read
    exact ⟨(TemplateArguments.supplies_of_next? _ taken).2, List.subset_cons_self _ _⟩
  next =>
    dsimp only at read
    split at read
    · cases read
    · cases read
      exact .all (List.dropWhile_subset _)

theorem left_of_templatePrecision {precision : Option Nat}
    (read : templatePrecision arguments template = .ok (precision, left, rest)) :
    Left place arguments template left rest := by
  unfold templatePrecision at read
  split at read
  next more =>
    obtain ⟨⟨number, after, behind⟩, numbered, is⟩ := map_eq_ok_iff.mp read
    cases is
    exact (Left.all (List.subset_cons_self _ _)).trans (left_of_templateNumber numbered)
  next =>
    cases read
    exact .all (List.Subset.refl _)

theorem skipSize_subset (text : Text) : skipSize text ⊆ text := by
  unfold skipSize
  split
  · split
    · exact List.subset_cons_self _ _
    · exact List.Subset.refl _
  · exact List.Subset.refl _

/-- A directive makes halves of what its arguments supply, and leaves the end of the template. -/
theorem half_mem_fillDirective (place : Fin 0x800) {filled : Text}
    (read : fillDirective arguments index template = .ok (filled, left, rest)) :
    (.half place ∈ filled → arguments.Supplies place) ∧
      Left place arguments template left rest := by
  obtain ⟨⟨keyed, afterKey⟩, key, read⟩ := bind_eq_ok_iff.mp read
  obtain ⟨⟨width, sized, afterWidth⟩, number, read⟩ := bind_eq_ok_iff.mp read
  obtain ⟨⟨precision, cut, afterPrecision⟩, places, read⟩ := bind_eq_ok_iff.mp read
  have before : Left place arguments template cut (skipSize afterPrecision) :=
    ((left_of_templateKey key).trans (Left.all (List.dropWhile_subset _))).trans
      ((left_of_templateNumber number).trans
        ((left_of_templatePrecision places).trans (Left.all (skipSize_subset _))))
  dsimp only at read
  cases ends : skipSize afterPrecision with
  | nil =>
    rw [ends] at read
    cases read
  | cons kind more =>
    rw [ends] at read before
    obtain ⟨⟨value, after⟩, taken, read⟩ := bind_eq_ok_iff.mp read
    obtain ⟨made, fills, read⟩ := bind_eq_ok_iff.mp read
    cases read
    have supplies := TemplateArguments.supplies_of_next? place taken
    exact ⟨fun member => before.supplies (supplies.1 (Directive.half_mem_fill fills member)),
      before.trans ⟨supplies.2, List.subset_cons_self _ _⟩⟩

/-! ## Whole templates -/

theorem half_mem_fillFrom {fuel : Nat} {message : Text}
    (filled : fillFrom fuel arguments index template = .ok message)
    (member : .half place ∈ message) : .half place ∈ template ∨ arguments.Supplies place := by
  induction fuel, arguments, index, template using fillFrom.induct generalizing message with
  | case1 fuel arguments index exhausted =>
    rw [fillFrom, if_pos exhausted] at filled
    cases filled
    cases member
  | case2 fuel arguments index inexhausted =>
    rw [fillFrom, if_neg inexhausted] at filled
    cases filled
  | case3 => cases filled
  | case4 fuel arguments index rest ih =>
    -- Two percent signs stand for one.
    obtain ⟨later, filledLater, rfl⟩ := map_eq_ok_iff.mp filled
    obtain ⟨⟩ | ⟨_, inLater⟩ := member
    refine (ih filledLater inLater).imp_left fun inRest => ?_
    exact List.mem_cons_of_mem _ (List.mem_cons_of_mem _ inRest)
  | case5 fuel arguments index rest single fault fails =>
    rw [fillFrom, fails] at filled
    · cases filled
    · exact single
  | case6 fuel arguments index rest single made left more fills ih =>
    rw [fillFrom, fills] at filled
    · obtain ⟨later, filledLater, rfl⟩ := map_eq_ok_iff.mp filled
      obtain ⟨supplies, leaves⟩ := half_mem_fillDirective place fills
      obtain inMade | inLater := List.mem_append.mp member
      · exact .inr (supplies inMade)
      · exact (ih filledLater inLater).imp
          (fun inMore => List.mem_cons_of_mem _ (leaves.subset inMore)) leaves.supplies
    · exact single
  | case7 fuel arguments index point rest noPercent noDirective ih =>
    rw [fillFrom] at filled
    · obtain ⟨later, filledLater, rfl⟩ := map_eq_ok_iff.mp filled
      obtain rfl | inLater := List.mem_cons.mp member
      · exact .inl List.mem_cons_self
      · exact (ih filledLater inLater).imp_left fun inRest => List.mem_cons_of_mem _ inRest
    · exact noPercent
    · exact noDirective

/-- A half in a filled template stands in the template or comes from the arguments. -/
theorem half_mem_fillTemplate {message : Text}
    (filled : fillTemplate template arguments = .ok message) (member : .half place ∈ message) :
    .half place ∈ template ∨ arguments.Supplies place :=
  half_mem_fillFrom filled member

end Text

end ApiSurface
