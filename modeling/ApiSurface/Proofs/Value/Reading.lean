import ApiSurface.Proofs.Text.Escaping
import ApiSurface.Value.Writer

/-!
# Values read back

What is written of a value is printable ASCII (`isInk_of_mem_jsonChars`), and reading it gives the
value back (`ofJson?_json`), up to two halves in a text that make up a character. That is for values
in which no number has a fraction and no record has a key twice (`Readable`).

The reader works with a bound on its steps. Every step but the first of a list or a record takes a
character, which the bound of twice the characters allows for.
-/

namespace ApiSurface.Value

/-! ## Readable values -/

mutual

/-- A value that reading gives back: without models and numbers with a fraction, and with different
keys in each record. -/
def Readable : Value → Prop
  | float _ | model _ => False
  | list items => ReadableItems items
  | record entries =>
    (entries.map fun entry => Text.paired entry.1).Nodup ∧ ReadableEntries entries
  | _ => True

/-- Items that reading gives back. -/
def ReadableItems : List Value → Prop
  | [] => True
  | item :: items => item.Readable ∧ ReadableItems items

/-- Entries whose values reading gives back. -/
def ReadableEntries : List (Text × Value) → Prop
  | [] => True
  | entry :: entries => entry.2.Readable ∧ ReadableEntries entries

end

mutual

/-- A value in whose texts two halves that make up a character are that character. -/
def paired : Value → Value
  | text s => text (Text.paired s)
  | list items => list (pairedItems items)
  | record entries => record (pairedEntries entries)
  | v => v

/-- Items with paired halves. -/
def pairedItems : List Value → List Value
  | [] => []
  | item :: items => item.paired :: pairedItems items

/-- Entries with paired halves. -/
def pairedEntries : List (Text × Value) → List (Text × Value)
  | [] => []
  | (key, value) :: entries => (Text.paired key, value.paired) :: pairedEntries entries

end

theorem map_fst_pairedEntries (entries : List (Text × Value)) :
    (pairedEntries entries).map (·.1) = entries.map fun entry => Text.paired entry.1 := by
  induction entries with
  | nil => rfl
  | cons entry entries ih => exact congrArg (Text.paired entry.1 :: ·) ih

/-! ## Integers -/

/-- What may stand behind a value: nothing, or what goes on with a list or a record. -/
def Stops (rest : List Char) : Prop := ∀ c ∈ rest.head?, c = ',' ∨ c = ']' ∨ c = '\x7d'

variable {rest : List Char}

theorem Stops.not_isDigit (stops : Stops rest) : ∀ c ∈ rest.head?, c.isDigit = false := by
  intro c first
  obtain rfl | rfl | rfl := stops c first <;> decide

theorem readDigits_toDigits (n : Nat) (stops : Stops rest) :
    Decimal.readDigits (Nat.toDigits 10 n ++ rest) = some (Nat.toDigits 10 n, rest) := by
  have digits : ∀ c ∈ Nat.toDigits 10 n, c.isDigit = true := fun c =>
    Nat.isDigit_of_mem_toDigits (by decide) (by decide)
  have none : rest.takeWhile Char.isDigit = [] ∧ rest.dropWhile Char.isDigit = rest := by
    cases rest with
    | nil => exact ⟨rfl, rfl⟩
    | cons c rest => simp [stops.not_isDigit c rfl]
  simp only [Decimal.readDigits]
  rw [List.takeWhile_append_of_pos digits, List.dropWhile_append_of_pos digits, none.1, none.2,
    List.append_nil, if_neg]
  simp

theorem readFraction_of_stops (stops : Stops rest) :
    Decimal.readFraction rest = some (none, rest) := by
  cases rest with
  | nil => rfl
  | cons c rest => obtain rfl | rfl | rfl := stops c rfl <;> rfl

theorem readPower_of_stops (stops : Stops rest) : Decimal.readPower rest = some (none, rest) := by
  cases rest with
  | nil => rfl
  | cons c rest => obtain rfl | rfl | rfl := stops c rfl <;> rfl

/-- The first digit of a number. -/
theorem exists_toDigits_cons (n : Nat) :
    ∃ digit digits, Nat.toDigits 10 n = digit :: digits ∧ digit.isDigit = true := by
  obtain ⟨digit, digits, split⟩ :=
    List.exists_cons_of_ne_nil (Nat.toDigits_ne_nil (b := 10) (n := n))
  refine ⟨digit, digits, split, ?_⟩
  refine Nat.isDigit_of_mem_toDigits (b := 10) (n := n) (by decide) (by decide) ?_
  rw [split]
  exact List.mem_cons_self

/-- No word begins with a digit. -/
theorem readWord_digit {digit : Char} (isDigit : digit.isDigit = true) (cs : List Char) :
    readWord (digit :: cs) = none := by
  have other : ∀ letter, letter.isDigit = false → letter ≠ digit := by
    rintro letter noDigit rfl
    exact Bool.false_ne_true (noDigit.symm.trans isDigit)
  simp [readWord, words, afterWord?, other 'n' rfl, other 't' rfl, other 'f' rfl, other 'N' rfl,
    other 'I' rfl, other '-' rfl]

/-- No word begins with a minus sign and a digit. -/
theorem readWord_minus {digit : Char} (isDigit : digit.isDigit = true) (cs : List Char) :
    readWord ('-' :: digit :: cs) = none := by
  have other : 'I' ≠ digit := by
    rintro rfl
    exact absurd isDigit (by decide)
  simp [readWord, words, afterWord?, other]

theorem natOfDigits_toDigits (n : Nat) : Decimal.natOfDigits (Nat.toDigits 10 n) = n :=
  Nat.ofDigitChars_ten_toDigits

theorem readScalar_nat (n : Nat) (stops : Stops rest) :
    readScalar (Nat.toDigits 10 n ++ rest) = some (int n, rest) := by
  obtain ⟨digit, digits, split, isDigit⟩ := exists_toDigits_cons n
  have noWord : readWord (Nat.toDigits 10 n ++ rest) = none := by
    rw [split]
    exact readWord_digit isDigit _
  have noMinus : ((Nat.toDigits 10 n ++ rest).head? == some '-') = false := by
    rw [split]
    refine beq_false_of_ne fun is => ?_
    obtain rfl := Option.some.inj is
    exact absurd isDigit (by decide)
  rw [readScalar, noWord, Option.none_or, readNumber, Decimal.readNumeral, noMinus]
  simp [readDigits_toDigits n stops, readFraction_of_stops stops, readPower_of_stops stops,
    Decimal.Numeral.isInteger, Decimal.Numeral.toInt, natOfDigits_toDigits]

theorem readScalar_neg (n : Nat) (stops : Stops rest) :
    readScalar ('-' :: Nat.toDigits 10 n ++ rest) = some (int (-n), rest) := by
  obtain ⟨digit, digits, split, isDigit⟩ := exists_toDigits_cons n
  have noWord : readWord ('-' :: Nat.toDigits 10 n ++ rest) = none := by
    rw [split]
    exact readWord_minus isDigit _
  rw [readScalar, noWord, Option.none_or]
  simp [readNumber, Decimal.readNumeral, readDigits_toDigits n stops, readFraction_of_stops stops,
    readPower_of_stops stops, Decimal.Numeral.isInteger, Decimal.Numeral.toInt,
    natOfDigits_toDigits]

theorem toList_toString_ofNat (n : Nat) : (toString (Int.ofNat n)).toList = Nat.toDigits 10 n := by
  rw [show toString (Int.ofNat n) = n.repr from rfl, Nat.repr_eq_ofList_toDigits,
    String.toList_ofList]

theorem toList_toString_negSucc (n : Nat) :
    (toString (Int.negSucc n)).toList = '-' :: Nat.toDigits 10 (n + 1) := by
  rw [show toString (Int.negSucc n) = "-" ++ (n + 1).repr from rfl, Nat.repr_eq_ofList_toDigits]
  simp [String.toList_append]

/-- An integer is read back. -/
theorem readScalar_int (n : Int) (stops : Stops rest) :
    readScalar ((toString n).toList ++ rest) = some (int n, rest) := by
  cases n with
  | ofNat n =>
    rw [toList_toString_ofNat]
    exact readScalar_nat n stops
  | negSucc n =>
    rw [toList_toString_negSucc]
    exact readScalar_neg (n + 1) stops

/-! ## What is written -/

theorem isInk_of_isDigit {c : Char} (isDigit : c.isDigit = true) : IsInk c := by
  have bounds : 48 ≤ c.val ∧ c.val ≤ 57 := by simpa [Char.isDigit] using isDigit
  have lower : 48 ≤ c.toNat := bounds.1
  have upper : c.toNat ≤ 57 := bounds.2
  exact ⟨by omega, by omega⟩

theorem isInk_of_mem_toDigits (n : Nat) : ∀ c ∈ Nat.toDigits 10 n, IsInk c := fun _ member =>
  isInk_of_isDigit (Nat.isDigit_of_mem_toDigits (by decide) (by decide) member)

theorem isInk_of_mem_int (n : Int) : ∀ c ∈ (toString n).toList, IsInk c := by
  cases n with
  | ofNat n =>
    rw [toList_toString_ofNat]
    exact isInk_of_mem_toDigits n
  | negSucc n =>
    rw [toList_toString_negSucc]
    exact List.forall_mem_cons.mpr ⟨by decide, isInk_of_mem_toDigits (n + 1)⟩

theorem isInk_of_mem_entry (key : Text) {cs : List Char} (written : ∀ c ∈ cs, IsInk c) :
    ∀ c ∈ Text.escaped key ++ ':' :: ' ' :: cs, IsInk c := by
  refine List.forall_mem_append.mpr ⟨Text.isInk_of_mem_escaped key, ?_⟩
  exact List.forall_mem_cons.mpr ⟨by decide, List.forall_mem_cons.mpr ⟨by decide, written⟩⟩

mutual

/-- What is written of a readable value is printable ASCII. -/
theorem isInk_of_mem_jsonChars : ∀ (v : Value), v.Readable → ∀ c ∈ v.jsonChars, IsInk c
  | null, _ => by decide
  | bool false, _ => by decide
  | bool true, _ => by decide
  | int n, _ => isInk_of_mem_int n
  | text s, _ => Text.isInk_of_mem_escaped s
  | list items, readable =>
    List.forall_mem_cons.mpr ⟨by decide, isInk_of_mem_itemsChars items readable⟩
  | record entries, readable =>
    List.forall_mem_cons.mpr ⟨by decide, isInk_of_mem_entriesChars entries readable.2⟩

theorem isInk_of_mem_itemsChars : ∀ (items : List Value), ReadableItems items →
    ∀ c ∈ itemsChars items, IsInk c
  | [], _ => by decide
  | [item], readable =>
    List.forall_mem_append.mpr ⟨isInk_of_mem_jsonChars item readable.1, by decide⟩
  | item :: next :: items, readable => by
    have later := isInk_of_mem_itemsChars (next :: items) readable.2
    refine List.forall_mem_append.mpr ⟨isInk_of_mem_jsonChars item readable.1, ?_⟩
    exact List.forall_mem_cons.mpr ⟨by decide, List.forall_mem_cons.mpr ⟨by decide, later⟩⟩

theorem isInk_of_mem_entriesChars : ∀ (entries : List (Text × Value)), ReadableEntries entries →
    ∀ c ∈ entriesChars entries, IsInk c
  | [], _ => by decide
  | [(key, value)], readable =>
    List.forall_mem_append.mpr
      ⟨isInk_of_mem_entry key (isInk_of_mem_jsonChars value readable.1), by decide⟩
  | (key, value) :: next :: entries, readable => by
    have written := isInk_of_mem_entry key (isInk_of_mem_jsonChars value readable.1)
    have later := isInk_of_mem_entriesChars (next :: entries) readable.2
    refine List.forall_mem_append.mpr ⟨written, ?_⟩
    exact List.forall_mem_cons.mpr ⟨by decide, List.forall_mem_cons.mpr ⟨by decide, later⟩⟩

end

/-! ## The first character -/

/-- A character that is no blank and does not close a list. -/
def Opens (c : Char) : Prop := c ∉ [' ', '\n', '\r', '\t', ']']

instance (c : Char) : Decidable (Opens c) := inferInstanceAs (Decidable (¬ _))

theorem skipBlanks_cons {c : Char} (opens : Opens c) (cs : List Char) :
    skipBlanks (c :: cs) = c :: cs := by
  have parts : c ≠ ' ' ∧ c ≠ '\n' ∧ c ≠ '\r' ∧ c ≠ '\t' ∧ c ≠ ']' := by simpa [Opens] using opens
  simp [skipBlanks, parts]

theorem opens_of_isDigit {c : Char} (isDigit : c.isDigit = true) : Opens c := by
  intro member
  have noDigit : ∀ c ∈ [' ', '\n', '\r', '\t', ']'], c.isDigit = false := by decide
  exact Bool.false_ne_true ((noDigit c member).symm.trans isDigit)

theorem exists_int_cons (n : Int) :
    ∃ c cs, (toString n).toList = c :: cs ∧ (c = '-' ∨ c.isDigit = true) := by
  cases n with
  | ofNat n =>
    obtain ⟨digit, digits, split, isDigit⟩ := exists_toDigits_cons n
    exact ⟨digit, digits, (toList_toString_ofNat n).trans split, .inr isDigit⟩
  | negSucc n => exact ⟨'-', _, toList_toString_negSucc n, .inl rfl⟩

/-- What is written of a value begins with a character that opens something. -/
theorem exists_jsonChars_cons {v : Value} (readable : v.Readable) :
    ∃ c cs, v.jsonChars = c :: cs ∧ Opens c := by
  cases v with
  | null => exact ⟨'n', _, rfl, by decide⟩
  | bool b => cases b with
    | false => exact ⟨'f', _, rfl, by decide⟩
    | true => exact ⟨'t', _, rfl, by decide⟩
  | int n =>
    obtain ⟨c, cs, split, rfl | isDigit⟩ := exists_int_cons n
    · exact ⟨'-', cs, split, by decide⟩
    · exact ⟨c, cs, split, opens_of_isDigit isDigit⟩
  | text s => exact ⟨'"', _, rfl, by decide⟩
  | list items => exact ⟨'[', _, rfl, by decide⟩
  | record entries => exact ⟨'\x7b', _, rfl, by decide⟩
  | float x => exact readable.elim
  | model fields => exact readable.elim

/-! ## One step of the reader -/

theorem readValue_blank (fuel : Nat) (cs : List Char) :
    readValue fuel (' ' :: cs) = readValue fuel cs := by
  cases fuel <;> rfl

theorem readItems_blank (fuel : Nat) (cs : List Char) :
    readItems fuel (' ' :: cs) = readItems fuel cs := by
  cases fuel with
  | zero => rfl
  | succ fuel => rw [readItems, readItems, readValue_blank]

theorem readEntries_blank (fuel : Nat) (cs : List Char) :
    readEntries fuel (' ' :: cs) = readEntries fuel cs := by
  cases fuel <;> rfl

theorem readValue_scalar {c : Char} (opens : Opens c) (plain : c ∉ ['"', '[', '\x7b']) (fuel : Nat)
    (cs : List Char) : readValue (fuel + 1) (c :: cs) = readScalar (c :: cs) := by
  have parts : c ≠ '"' ∧ c ≠ '[' ∧ c ≠ '\x7b' := by simpa using plain
  rw [readValue, skipBlanks_cons opens]
  split
  next is => exact absurd (List.cons.inj is).1 parts.1
  next is => exact absurd (List.cons.inj is).1 parts.2.1
  next is => exact absurd (List.cons.inj is).1 parts.2.2
  next => rfl

theorem readValue_text (fuel : Nat) (s : Text) (rest : List Char) :
    readValue (fuel + 1) (Text.escaped s ++ rest) = some (text (Text.paired s), rest) := by
  have opens : Opens '"' := by decide
  simp only [Text.escaped_append, readValue, skipBlanks_cons opens, Text.readText_escaped,
    Option.map_some]

theorem readValue_list {c : Char} (opens : Opens c) (fuel : Nat) (cs : List Char) :
    readValue (fuel + 1) ('[' :: c :: cs) =
      (readItems fuel (c :: cs)).map fun (items, rest) => (list items, rest) := by
  have bracket : Opens '[' := by decide
  simp only [readValue, skipBlanks_cons bracket, skipBlanks_cons opens]
  split
  next is =>
    obtain ⟨rfl, -⟩ := List.cons.inj is
    exact absurd opens (by decide)
  next => rfl

theorem readValue_record (fuel : Nat) (cs : List Char) :
    readValue (fuel + 1) ('\x7b' :: '"' :: cs) =
      (readEntries fuel ('"' :: cs)).map fun (entries, rest) => (record entries, rest) := by
  have brace : Opens '\x7b' := by decide
  have quote : Opens '"' := by decide
  simp only [readValue, skipBlanks_cons brace, skipBlanks_cons quote]
  rfl

variable {fuel : Nat} {cs more : List Char} {key : Text} {value : Value} {items : List Value}
  {entries : List (Text × Value)}

theorem readItems_last (read : readValue fuel cs = some (value, ']' :: rest)) :
    readItems (fuel + 1) cs = some ([value], rest) := by
  have bracket : skipBlanks (']' :: rest) = ']' :: rest := rfl
  simp [readItems, read, bracket]

theorem readItems_more (read : readValue fuel cs = some (value, ',' :: ' ' :: more))
    (reads : readItems fuel more = some (items, rest)) :
    readItems (fuel + 1) cs = some (value :: items, rest) := by
  have comma : skipBlanks (',' :: ' ' :: more) = ',' :: ' ' :: more := rfl
  simp [readItems, read, comma, readItems_blank, reads]

theorem readEntries_last (key : Text) (read : readValue fuel cs = some (value, '\x7d' :: rest)) :
    readEntries (fuel + 1) (Text.escaped key ++ ':' :: ' ' :: cs) =
      some ([(Text.paired key, value)], rest) := by
  have quote : Opens '"' := by decide
  have colon : skipBlanks (':' :: ' ' :: cs) = ':' :: ' ' :: cs := rfl
  have brace : skipBlanks ('\x7d' :: rest) = '\x7d' :: rest := rfl
  simp [readEntries, Text.escaped_append, skipBlanks_cons quote, Text.readText_escaped, colon,
    readValue_blank, read, brace]

theorem readEntries_more (key : Text) (read : readValue fuel cs = some (value, ',' :: ' ' :: more))
    (reads : readEntries fuel more = some (entries, rest)) :
    readEntries (fuel + 1) (Text.escaped key ++ ':' :: ' ' :: cs) =
      some (consEntry (Text.paired key) value entries, rest) := by
  have quote : Opens '"' := by decide
  have colon : skipBlanks (':' :: ' ' :: cs) = ':' :: ' ' :: cs := rfl
  have comma : skipBlanks (',' :: ' ' :: more) = ',' :: ' ' :: more := rfl
  simp [readEntries, Text.escaped_append, skipBlanks_cons quote, Text.readText_escaped, colon,
    readValue_blank, read, comma, readEntries_blank, reads]

/-- An entry whose key is not among later ones is put in front of them. -/
theorem consEntry_of_fresh {key : Text} {later : List (Text × Value)}
    (fresh : key ∉ later.map (·.1)) (value : Value) :
    consEntry key value later = (key, value) :: later := by
  have apart : ∀ entry ∈ later, entry.1 ≠ key := by
    rintro entry member rfl
    exact fresh (List.mem_map_of_mem member)
  have absent : later.lookup key = none :=
    List.lookup_eq_none_iff.mpr fun entry member => bne_iff_ne.mpr (apart entry member).symm
  have kept : later.filter (fun entry => entry.1 != key) = later :=
    List.filter_eq_self.mpr fun entry member => bne_iff_ne.mpr (apart entry member)
  rw [consEntry, absent, kept, Option.getD_none]

/-! ## Reading what was written -/

theorem stops_comma (cs : List Char) : Stops (',' :: cs) := by
  rintro c ⟨⟩
  exact .inl rfl

theorem stops_bracket (cs : List Char) : Stops (']' :: cs) := by
  rintro c ⟨⟩
  exact .inr (.inl rfl)

theorem stops_brace (cs : List Char) : Stops ('\x7d' :: cs) := by
  rintro c ⟨⟩
  exact .inr (.inr rfl)

theorem readValue_int (n : Int) (fuel : Nat) (stops : Stops rest) :
    readValue (fuel + 1) ((toString n).toList ++ rest) = some (int n, rest) := by
  obtain ⟨c, cs, split, first⟩ := exists_int_cons n
  have plain : Opens c ∧ c ∉ ['"', '[', '\x7b'] := by
    obtain rfl | isDigit := first
    · decide
    · refine ⟨opens_of_isDigit isDigit, fun member => ?_⟩
      have noDigit : ∀ c ∈ ['"', '[', '\x7b'], c.isDigit = false := by decide
      exact Bool.false_ne_true ((noDigit c member).symm.trans isDigit)
  have reads := readScalar_int n stops
  rw [split, List.cons_append] at reads ⊢
  rw [readValue_scalar plain.1 plain.2, reads]

theorem exists_itemsChars_cons {item : Value} (readable : item.Readable) (items : List Value) :
    ∃ c cs, itemsChars (item :: items) = c :: cs ∧ Opens c := by
  obtain ⟨c, cs, split, opens⟩ := exists_jsonChars_cons readable
  cases items with
  | nil => exact ⟨c, cs ++ [']'], by simp [itemsChars, split], opens⟩
  | cons next items => exact ⟨c, cs ++ ',' :: ' ' :: itemsChars (next :: items), by
      simp [itemsChars, split], opens⟩

theorem exists_entriesChars_cons (key : Text) (value : Value) (entries : List (Text × Value)) :
    ∃ cs, entriesChars ((key, value) :: entries) = '"' :: cs := by
  cases entries with
  | nil => exact ⟨_, rfl⟩
  | cons next entries => exact ⟨_, rfl⟩

mutual

theorem readValue_jsonChars : ∀ (v : Value) (fuel : Nat) (rest : List Char), v.Readable →
    2 * v.jsonChars.length ≤ fuel → Stops rest →
      readValue fuel (v.jsonChars ++ rest) = some (v.paired, rest)
  | v, 0, rest, readable, enough, _ => by
    obtain ⟨c, cs, split, -⟩ := exists_jsonChars_cons readable
    simp [split] at enough
  | null, fuel + 1, rest, _, _, _ => readValue_scalar (by decide) (by decide) fuel _
  | bool false, fuel + 1, rest, _, _, _ => readValue_scalar (by decide) (by decide) fuel _
  | bool true, fuel + 1, rest, _, _, _ => readValue_scalar (by decide) (by decide) fuel _
  | int n, fuel + 1, rest, _, _, stops => readValue_int n fuel stops
  | text s, fuel + 1, rest, _, _, _ => readValue_text fuel s rest
  | list [], fuel + 1, rest, _, _, _ => rfl
  | list (item :: items), fuel + 1, rest, readable, enough, _ => by
    have reads := readItems_itemsChars item items fuel rest readable (by
      simp only [jsonChars, List.length_cons] at enough
      omega)
    obtain ⟨c, cs, split, opens⟩ := exists_itemsChars_cons readable.1 items
    rw [split, List.cons_append] at reads
    rw [jsonChars, split, List.cons_append, List.cons_append, readValue_list opens, reads]
    rfl
  | record [], fuel + 1, rest, _, _, _ => rfl
  | record ((key, value) :: entries), fuel + 1, rest, readable, enough, _ => by
    have reads := readEntries_entriesChars key value entries fuel rest readable.2 readable.1 (by
      simp only [jsonChars, List.length_cons] at enough
      omega)
    obtain ⟨cs, split⟩ := exists_entriesChars_cons key value entries
    rw [split, List.cons_append] at reads
    rw [jsonChars, split, List.cons_append, List.cons_append, readValue_record, reads]
    rfl

theorem readItems_itemsChars : ∀ (item : Value) (items : List Value) (fuel : Nat)
    (rest : List Char), ReadableItems (item :: items) →
    2 * (itemsChars (item :: items)).length ≤ fuel →
      readItems fuel (itemsChars (item :: items) ++ rest) =
        some (pairedItems (item :: items), rest)
  | item, [], 0, rest, readable, enough => by
    simp [itemsChars] at enough
  | item, next :: items, 0, rest, readable, enough => by
    simp [itemsChars] at enough
  | item, [], fuel + 1, rest, readable, enough => by
    simp only [itemsChars, List.length_append, List.length_singleton] at enough
    have read := readValue_jsonChars item fuel (']' :: rest) readable.1 (by omega)
      (stops_bracket rest)
    rw [itemsChars, List.append_assoc]
    exact readItems_last read
  | item, next :: items, fuel + 1, rest, readable, enough => by
    simp only [itemsChars, List.length_append, List.length_cons] at enough
    have read := readValue_jsonChars item fuel (',' :: ' ' :: (itemsChars (next :: items) ++ rest))
      readable.1 (by omega) (stops_comma _)
    have reads := readItems_itemsChars next items fuel rest readable.2 (by omega)
    simp only [itemsChars, List.append_assoc, List.cons_append]
    exact readItems_more read reads

theorem readEntries_entriesChars : ∀ (key : Text) (value : Value) (entries : List (Text × Value))
    (fuel : Nat) (rest : List Char), ReadableEntries ((key, value) :: entries) →
    (((key, value) :: entries).map fun entry => Text.paired entry.1).Nodup →
    2 * (entriesChars ((key, value) :: entries)).length ≤ fuel →
      readEntries fuel (entriesChars ((key, value) :: entries) ++ rest) =
        some (pairedEntries ((key, value) :: entries), rest)
  | key, value, [], 0, rest, readable, distinct, enough => by
    simp [entriesChars] at enough
  | key, value, (next, following) :: entries, 0, rest, readable, distinct, enough => by
    simp [entriesChars] at enough
  | key, value, [], fuel + 1, rest, readable, distinct, enough => by
    simp only [entriesChars, List.length_append, List.length_cons] at enough
    have read := readValue_jsonChars value fuel ('\x7d' :: rest) readable.1 (by omega)
      (stops_brace rest)
    simp only [entriesChars, List.append_assoc, List.cons_append]
    exact readEntries_last key read
  | key, value, (next, following) :: entries, fuel + 1, rest, readable, distinct, enough => by
    simp only [entriesChars, List.length_append, List.length_cons] at enough
    have read := readValue_jsonChars value fuel
      (',' :: ' ' :: (entriesChars ((next, following) :: entries) ++ rest)) readable.1 (by omega)
      (stops_comma _)
    obtain ⟨fresh, distinct⟩ := List.nodup_cons.mp distinct
    have reads := readEntries_entriesChars next following entries fuel rest readable.2 distinct
      (by omega)
    rw [← map_fst_pairedEntries] at fresh
    simp only [entriesChars, List.append_assoc, List.cons_append]
    rw [readEntries_more key read reads, consEntry_of_fresh fresh]
    rfl

end

/-- A readable value is read back from what is written of it, with its halves paired up. -/
theorem ofJson?_json {v : Value} (readable : v.Readable) : ofJson? v.json = some v.paired := by
  have reads := readValue_jsonChars v (2 * v.jsonChars.length + 2) [] readable (by omega) nofun
  rw [List.append_nil] at reads
  rw [ofJson?, json, String.toList_ofList, ofJsonChars?, reads]
  rfl

end ApiSurface.Value
