import Mathlib.Data.List.Basic
import ApiSurface.Text.Escaped
import ApiSurface.Value.Reader

/-!
# Escaped text read back

Escaped text is printable ASCII (`isInk_of_mem_escaped`), and reading it gives the text back in
which two halves that make up a character are that character (`readText_escaped`). For a text of
characters only, that is the text itself (`Whole.paired_eq`).

A character beyond the first 65536 is escaped as its two halves, so what the reader finds at first
are the units of a text (`CodePoint.units`); pairing them up is pairing up the text
(`paired_units`).
-/

namespace ApiSurface

/-- A printable ASCII character. -/
def IsInk (c : Char) : Prop := 0x20 ≤ c.toNat ∧ c.toNat ≤ 0x7E

instance (c : Char) : Decidable (IsInk c) := inferInstanceAs (Decidable (_ ∧ _))

namespace CodePoint

/-- The half that begins a character with two UTF-16 units. -/
def leading (c : Char) : Fin 0x800 := Fin.ofNat _ ((c.toNat - 0x10000) / 0x400)

/-- The half that ends a character with two UTF-16 units. -/
def trailing (c : Char) : Fin 0x800 := Fin.ofNat _ (0x400 + (c.toNat - 0x10000) % 0x400)

/-- A code point as its escapes name it: a character with two UTF-16 units as its halves. -/
def units : CodePoint → Text
  | char c => if c.toNat < 0x10000 then [char c] else [half (leading c), half (trailing c)]
  | half place => [half place]

theorem units_of_small {c : Char} (small : c.toNat < 0x10000) : (char c).units = [char c] :=
  if_pos small

theorem units_of_large {c : Char} (large : ¬ c.toNat < 0x10000) :
    (char c).units = [half (leading c), half (trailing c)] :=
  if_neg large

theorem toNat_lt (c : Char) : c.toNat < 0x110000 := by
  have valid : c.toNat < 0xD800 ∨ 0xDFFF < c.toNat ∧ c.toNat < 0x110000 := c.valid
  omega

theorem number_half_lt (place : Fin 0x800) : (half place).number < 0x10000 := by
  have bound := place.isLt
  simp only [number, firstHalf]
  omega

theorem leading_val (c : Char) : (leading c).val = (c.toNat - 0x10000) / 0x400 := by
  have bound := toNat_lt c
  exact Nat.mod_eq_of_lt (by omega)

theorem trailing_val (c : Char) : (trailing c).val = 0x400 + (c.toNat - 0x10000) % 0x400 :=
  Nat.mod_eq_of_lt (by omega)

theorem ofHalves?_char (c : Char) (second : CodePoint) : ofHalves? (char c) second = none := rfl

/-- The halves of a character make it up. -/
theorem ofHalves?_units {c : Char} (large : ¬ c.toNat < 0x10000) :
    ofHalves? (half (leading c)) (half (trailing c)) = some (char c) := by
  have bound := toNat_lt c
  have number : 0x10000 + (c.toNat - 0x10000) / 0x400 * 0x400 + (c.toNat - 0x10000) % 0x400 =
      c.toNat := by omega
  simp only [ofHalves?, leading_val, trailing_val, Nat.add_sub_cancel_left, number,
    Char.ofNat_toNat]
  exact if_pos ⟨by omega, by omega⟩

/-- What makes up nothing with a code point makes up nothing with its first unit. -/
theorem ofHalves?_head_units {first second : CodePoint} (apart : ofHalves? first second = none)
    (text : Text) : ∀ unit ∈ (second.units ++ text).head?, ofHalves? first unit = none := by
  cases first with
  | char c => exact fun unit _ => ofHalves?_char c unit
  | half place =>
    cases second with
    | half other =>
      rintro unit ⟨⟩
      exact apart
    | char c =>
      by_cases small : c.toNat < 0x10000
      · rw [units_of_small small]
        rintro unit ⟨⟩
        rfl
      · rw [units_of_large small]
        rintro unit ⟨⟩
        have bound := toNat_lt c
        exact if_neg fun ends => absurd ends.2 (by rw [leading_val]; omega)

end CodePoint

namespace Text

/-! ## Hexadecimal digits -/

/-- The last of several digits is that of the remainder. -/
theorem hex_succ (width n : Nat) :
    hex (width + 2) n = hex (width + 1) (n / 0x10) ++ [(n % 0x10).digitChar] := by
  by_cases one : n < 0x10
  · simp only [hex, Nat.toDigits_of_lt_base one, Nat.div_eq_of_lt one, Nat.mod_eq_of_lt one,
      Nat.toDigits_zero, List.length_singleton, Nat.add_sub_cancel]
    exact congrArg (· ++ [n.digitChar]) List.replicate_succ'
  · rw [hex, hex, Nat.toDigits_of_base_le (by decide) (Nat.le_of_not_lt one), List.length_append,
      ← List.append_assoc]
    exact congrArg (List.replicate · '0' ++ _ ++ _) (Nat.add_sub_add_right (width + 1) 1 _)

/-- Four digits of a number that has no more. -/
theorem hex_four {n : Nat} (small : n < 0x10000) :
    hex 4 n = [(n / 0x1000).digitChar, (n / 0x100 % 0x10).digitChar, (n / 0x10 % 0x10).digitChar,
      (n % 0x10).digitChar] := by
  have first : n / 0x10 / 0x10 / 0x10 < 0x10 := by omega
  rw [hex_succ, hex_succ, hex_succ, hex, Nat.toDigits_of_lt_base first]
  simp [Nat.div_div_eq_div_mul]

/-- The value of a digit is read back. -/
theorem hexDigitValue?_digitChar {n : Nat} (small : n < 0x10) :
    Value.hexDigitValue? n.digitChar = some n := by
  decide +revert

/-- A code point's number in four digits is read as the code point. -/
theorem escapedPoint?_digits {n : Nat} (small : n < 0x10000) :
    Value.escapedPoint? (n / 0x1000).digitChar (n / 0x100 % 0x10).digitChar
      (n / 0x10 % 0x10).digitChar (n % 0x10).digitChar = CodePoint.ofNat? n := by
  have number :
      ((n / 0x1000 * 16 + n / 0x100 % 0x10) * 16 + n / 0x10 % 0x10) * 16 + n % 0x10 = n := by
    omega
  simp [Value.escapedPoint?, hexDigitValue?_digitChar (show n / 0x1000 < 0x10 by omega),
    hexDigitValue?_digitChar (Nat.mod_lt _ (show 0 < 0x10 by decide)), number]

/-! ## What is written -/

theorem isInk_digitChar {n : Nat} (small : n < 0x10) : IsInk n.digitChar := by
  decide +revert

theorem isInk_of_mem_unitEscape {n : Nat} (small : n < 0x10000) : ∀ c ∈ unitEscape n, IsInk c := by
  simp only [unitEscape, hex_four small, List.forall_mem_cons]
  refine ⟨by decide, by decide, isInk_digitChar (by omega), ?_, ?_, ?_, nofun⟩ <;>
    exact isInk_digitChar (Nat.mod_lt _ (by decide))

/-- The units of a character are small numbers. -/
theorem lt_of_mem_utf16Units (c : Char) : ∀ n ∈ utf16Units c, n < 0x10000 := by
  have bound := CodePoint.toNat_lt c
  unfold utf16Units
  split
  next small => exact List.forall_mem_singleton.mpr small
  next =>
    refine List.forall_mem_cons.mpr ⟨by omega, List.forall_mem_singleton.mpr (by omega)⟩

/-- How a character is escaped: by a letter, as itself, or by its units. -/
theorem escapedChar_cases (c : Char) :
    (c.toNat < 0x10000 ∧ ∃ letter, IsInk letter ∧ letter ≠ 'u' ∧
        Value.escapedChar? letter = some c ∧ escapedChar c = ['\\', letter]) ∨
      (IsInk c ∧ c ≠ '"' ∧ c ≠ '\\' ∧ escapedChar c = [c]) ∨
      escapedChar c = (utf16Units c).flatMap unitEscape := by
  unfold escapedChar
  split
  next itself =>
    obtain rfl | rfl : c = '"' ∨ c = '\\' := by simpa using itself
    · exact .inl ⟨by decide, '"', by decide, by decide, by decide, rfl⟩
    · exact .inl ⟨by decide, '\\', by decide, by decide, by decide, rfl⟩
  next other =>
  split
  next is => exact .inl ⟨is ▸ by decide, 'n', by decide, by decide, is ▸ rfl, rfl⟩
  split
  next is => exact .inl ⟨is ▸ by decide, 'r', by decide, by decide, is ▸ rfl, rfl⟩
  split
  next is => exact .inl ⟨is ▸ by decide, 't', by decide, by decide, is ▸ rfl, rfl⟩
  split
  next is => exact .inl ⟨is ▸ by decide, 'f', by decide, by decide, is ▸ rfl, rfl⟩
  split
  next is => exact .inl ⟨is ▸ by decide, 'b', by decide, by decide, is ▸ rfl, rfl⟩
  split
  next ink =>
    have bounds : 0x20 ≤ c.toNat ∧ c.toNat < 0x7F := by simpa using ink
    have noMark : c ≠ '"' ∧ c ≠ '\\' := by simpa using other
    exact .inr (.inl ⟨⟨bounds.1, Nat.le_of_lt_succ bounds.2⟩, noMark.1, noMark.2, rfl⟩)
  next => exact .inr (.inr rfl)

theorem isInk_of_mem_escapedChar (c : Char) : ∀ written ∈ escapedChar c, IsInk written := by
  obtain ⟨-, letter, ink, -, -, escaped⟩ | ⟨ink, -, -, escaped⟩ | escaped := escapedChar_cases c
  · rw [escaped]
    exact List.forall_mem_cons.mpr ⟨by decide, List.forall_mem_singleton.mpr ink⟩
  · rw [escaped]
    exact List.forall_mem_singleton.mpr ink
  · rw [escaped]
    intro written member
    obtain ⟨unit, isUnit, inEscape⟩ := List.mem_flatMap.mp member
    exact isInk_of_mem_unitEscape (lt_of_mem_utf16Units c unit isUnit) written inEscape

theorem isInk_of_mem_escapedPoint (point : CodePoint) :
    ∀ written ∈ escapedPoint point, IsInk written := by
  cases point with
  | char c => exact isInk_of_mem_escapedChar c
  | half place => exact isInk_of_mem_unitEscape (CodePoint.number_half_lt place)

/-- What is written of a text is printable ASCII. -/
theorem isInk_of_mem_escaped (text : Text) : ∀ written ∈ escaped text, IsInk written := by
  intro written member
  simp only [escaped, List.mem_append, List.mem_cons, List.mem_flatMap, List.not_mem_nil,
    or_false] at member
  obtain (rfl | ⟨point, -, inEscape⟩) | rfl := member
  · decide
  · exact isInk_of_mem_escapedPoint point written inEscape
  · decide

/-! ## What is read -/

variable {following rest : List Char} {points : Text}

theorem readPoints_unitEscape (reads : Value.readPoints following = some (points, rest)) {n : Nat}
    (small : n < 0x10000) {point : CodePoint} (names : CodePoint.ofNat? n = some point) :
    Value.readPoints (unitEscape n ++ following) = some (point :: points, rest) := by
  simp [unitEscape, hex_four small, Value.readPoints, escapedPoint?_digits small, names, reads]

theorem readPoints_half (reads : Value.readPoints following = some (points, rest))
    (place : Fin 0x800) :
    Value.readPoints (unitEscape (CodePoint.half place).number ++ following) =
      some (.half place :: points, rest) :=
  readPoints_unitEscape reads (CodePoint.number_half_lt place) (CodePoint.ofNat?_number _)

theorem readPoints_utf16Units (reads : Value.readPoints following = some (points, rest))
    (c : Char) :
    Value.readPoints ((utf16Units c).flatMap unitEscape ++ following) =
      some ((CodePoint.char c).units ++ points, rest) := by
  by_cases small : c.toNat < 0x10000
  · rw [utf16Units, if_pos small, CodePoint.units_of_small small, List.flatMap_singleton]
    exact readPoints_unitEscape reads small (CodePoint.ofNat?_number (.char c))
  · have first : (CodePoint.half (CodePoint.leading c)).number =
        0xD800 + (c.toNat - 0x10000) / 0x400 :=
      congrArg (0xD800 + ·) (CodePoint.leading_val c)
    have second : (CodePoint.half (CodePoint.trailing c)).number =
        0xDC00 + (c.toNat - 0x10000) % 0x400 := by
      rw [CodePoint.number, CodePoint.trailing_val, CodePoint.firstHalf, ← Nat.add_assoc]
    rw [utf16Units, if_neg small, CodePoint.units_of_large small, ← first, ← second]
    simp only [List.flatMap_cons, List.flatMap_nil, List.append_nil, List.append_assoc]
    exact readPoints_half (readPoints_half reads _) _

/-- Reading an escaped code point gives its units, before what follows. -/
theorem readPoints_escapedPoint (reads : Value.readPoints following = some (points, rest))
    (point : CodePoint) :
    Value.readPoints (escapedPoint point ++ following) = some (point.units ++ points, rest) := by
  cases point with
  | half place => exact readPoints_half reads place
  | char c =>
    obtain ⟨small, letter, -, notUnit, stands, escaped⟩ | ⟨ink, noQuote, noSlash, escaped⟩ |
      escaped := escapedChar_cases c
    · rw [escapedPoint, escaped, CodePoint.units_of_small small]
      simp [Value.readPoints, notUnit, stands, reads]
    · rw [escapedPoint, escaped, CodePoint.units_of_small (Nat.lt_of_le_of_lt ink.2 (by decide))]
      simp [Value.readPoints, noSlash, reads]
    · rw [escapedPoint, escaped]
      exact readPoints_utf16Units reads c

theorem readPoints_flatMap_escapedPoint (text : Text) (rest : List Char) :
    Value.readPoints (text.flatMap escapedPoint ++ '"' :: rest) =
      some (text.flatMap CodePoint.units, rest) := by
  induction text with
  | nil => rfl
  | cons point text reads =>
    rw [List.flatMap_cons, List.append_assoc]
    exact readPoints_escapedPoint reads point

/-! ## Pairing -/

/-- A code point that makes up nothing with the next one stands. -/
theorem paired_cons {first : CodePoint} {text : Text}
    (apart : ∀ second ∈ text.head?, CodePoint.ofHalves? first second = none) :
    paired (first :: text) = first :: paired text := by
  cases text with
  | nil => rfl
  | cons second text => rw [paired, apart second rfl]

theorem paired_units_append {first : CodePoint} {text : Text}
    (apart : ∀ second ∈ text.head?, CodePoint.ofHalves? first second = none) :
    paired (first.units ++ text) = first :: paired text := by
  cases first with
  | half place => exact paired_cons apart
  | char c =>
    by_cases small : c.toNat < 0x10000
    · rw [CodePoint.units_of_small small]
      exact paired_cons fun second _ => CodePoint.ofHalves?_char c second
    · rw [CodePoint.units_of_large small]
      simp only [List.cons_append, List.nil_append, paired, CodePoint.ofHalves?_units small]

/-- Pairing up the units of a text is pairing up the text. -/
theorem paired_units (text : Text) : paired (text.flatMap CodePoint.units) = paired text := by
  induction text using paired.induct with
  | case1 first second rest point makesUp ih =>
    cases first with
    | char c => cases makesUp
    | half before =>
      cases second with
      | char c => cases makesUp
      | half after =>
        simp only [List.flatMap_cons, CodePoint.units, List.cons_append, List.nil_append]
        rw [paired, paired, makesUp, ih]
  | case2 first second rest apart ih =>
    have next := CodePoint.ofHalves?_head_units apart (rest.flatMap CodePoint.units)
    rw [List.flatMap_cons, List.flatMap_cons, paired_units_append next, ← List.flatMap_cons, ih,
      paired, apart]
  | case3 text short =>
    match text with
    | [] => rfl
    | [point] => exact paired_units_append nofun
    | first :: second :: rest => exact absurd rfl (short first second rest)

theorem escaped_append (text : Text) (rest : List Char) :
    escaped text ++ rest = '"' :: (text.flatMap escapedPoint ++ '"' :: rest) := by
  simp [escaped]

/-- Reading an escaped text after its opening quote gives the text with its halves paired up. -/
theorem readText_escaped (text : Text) (rest : List Char) :
    Value.readText (text.flatMap escapedPoint ++ '"' :: rest) = some (paired text, rest) := by
  simp only [Value.readText, readPoints_flatMap_escapedPoint, Option.map_some, paired_units]

/-! ## Texts of characters -/

/-- A text without halves. -/
def Whole (text : Text) : Prop := ∀ place, .half place ∉ text

theorem whole_ofChars (cs : List Char) : Whole (ofChars cs) := by
  intro place member
  obtain ⟨c, -, ⟨⟩⟩ := List.mem_map.mp member

theorem Whole.paired_eq {text : Text} (whole : Whole text) : paired text = text := by
  induction text with
  | nil => rfl
  | cons first text ih =>
    cases first with
    | half place => exact absurd List.mem_cons_self (whole place)
    | char c =>
      have later : Whole text := fun place member => whole place (List.mem_cons_of_mem _ member)
      rw [paired_cons fun _ _ => rfl, ih later]

end Text

end ApiSurface
