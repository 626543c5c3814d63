import ApiSurface.Decimal.Numeral
import ApiSurface.Value.Basic

/-!
# Values from JSON text

A JSON text is read into the value it stands for: records keep the order of their
keys, of a repeated key the last value counts, and numbers without fraction and
power are integers of any size. Numbers that are none may be written as words. An
escaped half of a surrogate pair is read as what it is.
-/

namespace ApiSurface.Value

/-- Text without the blanks at its beginning. -/
def skipBlanks (cs : List Char) : List Char :=
  cs.dropWhile fun c => c == ' ' || c == '\n' || c == '\r' || c == '\t'

/-- The value of a hexadecimal digit. -/
def hexDigitValue? (c : Char) : Option Nat :=
  if '0' ≤ c ∧ c ≤ '9' then some (c.toNat - '0'.toNat)
  else if 'a' ≤ c ∧ c ≤ 'f' then some (c.toNat - 'a'.toNat + 10)
  else if 'A' ≤ c ∧ c ≤ 'F' then some (c.toNat - 'A'.toNat + 10)
  else none

/-- The code point whose number is written as four hexadecimal digits. -/
def escapedPoint? (a b c d : Char) : Option CodePoint := do
  let a ← hexDigitValue? a
  let b ← hexDigitValue? b
  let c ← hexDigitValue? c
  let d ← hexDigitValue? d
  CodePoint.ofNat? (((a * 16 + b) * 16 + c) * 16 + d)

/-- The character that a letter after a backslash stands for. -/
def escapedChar? (c : Char) : Option Char :=
  [('"', '"'), ('\\', '\\'), ('/', '/'), ('b', Char.ofNat 8), ('f', Char.ofNat 12), ('n', '\n'),
    ('r', '\r'), ('t', '\t')].lookup c

/-- Code points as they are written, up to the closing quote. -/
def readPoints : List Char → Option (Text × List Char)
  | [] => none
  | '"' :: rest => some ([], rest)
  | '\\' :: 'u' :: a :: b :: c :: d :: rest => do
    let point ← escapedPoint? a b c d
    let (points, rest) ← readPoints rest
    some (point :: points, rest)
  | '\\' :: c :: rest => do
    let c ← escapedChar? c
    let (points, rest) ← readPoints rest
    some (.char c :: points, rest)
  | c :: rest => do
    let (points, rest) ← readPoints rest
    some (.char c :: points, rest)

/-- Reads a text after its opening quote. Only escapes give halves of pairs, so two halves
that make up a character were written as one pair. -/
def readText (cs : List Char) : Option (Text × List Char) :=
  (readPoints cs).map fun (points, rest) => (Text.paired points, rest)

/-- Reads a number. -/
def readNumber (cs : List Char) : Option (Value × List Char) :=
  (Decimal.readNumeral cs).map fun (numeral, rest) =>
    (if numeral.isInteger then int numeral.toInt else float numeral.toFloat, rest)

/-- The values that are written as words. -/
def words : List (List Char × Value) :=
  [("null", null), ("true", bool true), ("false", bool false), ("NaN", float (0.0 / 0.0)),
    ("Infinity", float (1.0 / 0.0)), ("-Infinity", float (-1.0 / 0.0))].map
    fun (word, value) => (word.toList, value)

/-- What follows a word at the beginning of a text. -/
def afterWord? : List Char → List Char → Option (List Char)
  | [], rest => some rest
  | letter :: letters, c :: rest => if letter = c then afterWord? letters rest else none
  | _ :: _, [] => none

/-- Reads a value that is written as a word. -/
def readWord (cs : List Char) : Option (Value × List Char) :=
  words.findSome? fun (word, value) => (afterWord? word cs).map fun rest => (value, rest)

/-- Reads a value that is neither text, list nor record. -/
def readScalar (cs : List Char) : Option (Value × List Char) :=
  (readWord cs).or (readNumber cs)

/-- Puts an entry in front of later ones; a later value under the same key counts. -/
def consEntry (key : Text) (value : Value) (later : List (Text × Value)) :
    List (Text × Value) :=
  (key, (later.lookup key).getD value) :: later.filter fun entry => entry.1 != key

mutual

/-- Reads a value, with a bound on the number of steps. -/
def readValue : Nat → List Char → Option (Value × List Char)
  | 0, _ => none
  | fuel + 1, cs =>
    match skipBlanks cs with
    | '"' :: rest => (readText rest).map fun (s, rest) => (text s, rest)
    | '[' :: rest =>
      match skipBlanks rest with
      | ']' :: rest => some (list [], rest)
      | rest => (readItems fuel rest).map fun (items, rest) => (list items, rest)
    | '\x7b' :: rest =>
      match skipBlanks rest with
      | '\x7d' :: rest => some (record [], rest)
      | rest => (readEntries fuel rest).map fun (entries, rest) => (record entries, rest)
    | rest => readScalar rest

/-- Reads the items of a list up to its closing bracket. -/
def readItems : Nat → List Char → Option (List Value × List Char)
  | 0, _ => none
  | fuel + 1, cs => do
    let (item, rest) ← readValue fuel cs
    match skipBlanks rest with
    | ',' :: rest =>
      let (items, rest) ← readItems fuel rest
      some (item :: items, rest)
    | ']' :: rest => some ([item], rest)
    | _ => none

/-- Reads the entries of a record up to its closing brace. -/
def readEntries : Nat → List Char → Option (List (Text × Value) × List Char)
  | 0, _ => none
  | fuel + 1, cs => do
    let '"' :: rest := skipBlanks cs | none
    let (key, rest) ← readText rest
    let ':' :: rest := skipBlanks rest | none
    let (value, rest) ← readValue fuel rest
    match skipBlanks rest with
    | ',' :: rest =>
      let (entries, rest) ← readEntries fuel rest
      some (consEntry key value entries, rest)
    | '\x7d' :: rest => some ([(key, value)], rest)
    | _ => none

end

/-- The value that characters stand for as JSON, if they do. Every step but the first of a
list or a record takes a character, so twice their number of steps is enough. -/
def ofJsonChars? (cs : List Char) : Option Value := do
  let (value, rest) ← readValue (2 * cs.length + 2) cs
  if (skipBlanks rest).isEmpty then some value else none

/-- The value that a JSON text stands for, if it is one. -/
def ofJson? (json : String) : Option Value := ofJsonChars? json.toList

end ApiSurface.Value
