import Mathlib.Data.List.Forall2
import ApiSurface.Redaction

/-!
# Words in any case

A word is spelled by a text letter by letter, each in one of its case forms. A letter is known by any of
its forms (`letterOf`), so that texts that spell words are compared as the words are: of words none of
which begins another, at most one stands at a place, and a search for them finds the one that does
(`Distinct.findSome?_eq_some_iff`).
-/

namespace ApiSurface

theorem CodePoint.any_contains_iff {point : CodePoint} {characters : List Char} :
    point.any characters.contains = true ↔ ∃ c ∈ characters, point = .char c := by
  cases point <;> simp [CodePoint.any]

namespace Redaction

open ApiSurface.Text

/-- What holds of the characters of a list is decided along the list, even where all characters could be
gone through. -/
instance (priority := high) decidableForallMem {property : Char → Prop} [DecidablePred property]
    (characters : List Char) : Decidable (∀ c ∈ characters, property c) :=
  List.decidableBAll property characters

/-- A text spells a word, whatever the case of its letters. -/
def Spells (word : List Char) (text : Text) : Prop :=
  List.Forall₂ (fun letter point => point.any (caseForms letter).contains = true) word text

theorem afterWord?_eq_some_iff {word : List Char} {text rest : Text} :
    afterWord? word text = some rest ↔ ∃ spelled, Spells word spelled ∧ text = spelled ++ rest := by
  induction word generalizing text with
  | nil => simp [afterWord?, Spells]
  | cons letter word ih =>
    cases text with
    | nil => simp [afterWord?, Spells, List.forall₂_cons_left_iff]
    | cons point text =>
      constructor
      · intro found
        rw [afterWord?, Option.ite_none_right_eq_some] at found
        obtain ⟨form, found⟩ := found
        obtain ⟨spelled, spells, rfl⟩ := ih.mp found
        exact ⟨point :: spelled, .cons form spells, rfl⟩
      · rintro ⟨spelled, _ | ⟨form, spells⟩, split⟩
        obtain ⟨rfl, rfl⟩ := List.cons.inj split
        rw [afterWord?, if_pos form]
        exact ih.mpr ⟨_, spells, rfl⟩

instance (word : List Char) (text : Text) : Decidable (Spells word text) :=
  decidable_of_iff (afterWord? word text = some []) <| by
    rw [afterWord?_eq_some_iff]
    constructor
    · rintro ⟨spelled, spells, rfl⟩
      rwa [List.append_nil]
    · intro spells
      exact ⟨text, spells, (List.append_nil text).symm⟩

namespace Spells

variable {word : List Char} {text : Text}

theorem ne_nil (spells : Spells word text) (nonempty : word ≠ []) : text ≠ [] := by
  rintro rfl
  exact nonempty (List.forall₂_nil_right_iff.mp spells)

theorem exists_form (spells : Spells word text) :
    ∀ point ∈ text, ∃ letter ∈ word, ∃ form ∈ caseForms letter, point = .char form := by
  induction spells with
  | nil => simp
  | @cons letter point word text form spells ih =>
    rintro other (_ | ⟨_, inside⟩)
    · exact ⟨letter, List.mem_cons_self, CodePoint.any_contains_iff.mp form⟩
    · obtain ⟨known, among, rest⟩ := ih other inside
      exact ⟨known, List.mem_cons_of_mem _ among, rest⟩

theorem getLast? {letter : Char} (spells : Spells word text) (last : word.getLast? = some letter) :
    ∃ form ∈ caseForms letter, text.getLast? = some (.char form) := by
  have turned : List.Forall₂ _ word.reverse text.reverse := List.forall₂_reverse_iff.mpr spells
  rw [List.getLast?_eq_head?_reverse] at last ⊢
  generalize word.reverse = back at turned last
  generalize text.reverse = written at turned
  cases turned with
  | nil => cases last
  | cons form =>
    obtain rfl := Option.some.inj last
    obtain ⟨c, among, rfl⟩ := CodePoint.any_contains_iff.mp form
    exact ⟨c, among, rfl⟩

end Spells

/-! ## Letters by their forms -/

/-- The letters of names, with the signs that join the words of one. -/
def alphabet : List Char := "abcdefghijklmnopqrstuvwxyz_-".toList

/-- What names are written with: letters, and the sign at the end of the name of a parameter. -/
def nameCharacters : List Char := '=' :: alphabet

/-- The letter that a code point is a form of. -/
def letterOf : CodePoint → Option Char
  | .char c => alphabet.find? fun letter => (caseForms letter).contains c
  | .half _ => none

theorem letterOf_form : ∀ letter ∈ nameCharacters, ∀ form ∈ caseForms letter,
    letterOf (.char form) = letterOf (.char letter) := by decide

/-- A code point with a property that no letter has in any form is no letter. -/
theorem letterOf_eq_none {property : Char → Bool}
    (forms : ∀ letter ∈ alphabet, ∀ form ∈ caseForms letter, property form = false) {point : CodePoint}
    (holds : point.any property = true) : letterOf point = none := by
  cases point with
  | half => rfl
  | char c =>
    refine List.find?_eq_none.mpr fun letter known form => ?_
    have fails := forms letter known c (List.contains_iff_mem.mp form)
    exact Bool.false_ne_true (fails.symm.trans holds)

/-- What holds of every form of what names are written with holds of a text that spells a name. -/
theorem Spells.of_forms {word : List Char} {text : Text} {property : CodePoint → Prop}
    (spells : Spells word text) (written : ∀ letter ∈ word, letter ∈ nameCharacters)
    (forms : ∀ letter ∈ nameCharacters, ∀ form ∈ caseForms letter, property (.char form)) :
    ∀ point ∈ text, property point := by
  intro point inside
  obtain ⟨letter, among, form, formed, rfl⟩ := spells.exists_form point inside
  exact forms letter (written letter among) form formed

/-- The letters of a word. -/
def letters (word : List Char) : List (Option Char) := word.map fun letter => letterOf (.char letter)

/-- Names of which none begins another. -/
structure Distinct (words : List (List Char)) : Prop where
  written : ∀ word ∈ words, ∀ letter ∈ word, letter ∈ nameCharacters
  apart : ∀ word ∈ words, ∀ other ∈ words, letters word <+: letters other → word = other

namespace Distinct

variable {words : List (List Char)} (distinct : Distinct words)

include distinct

theorem map_letterOf {word : List Char} (known : word ∈ words) {text : Text}
    (spells : Spells word text) : text.map letterOf = letters word := by
  have written := distinct.written word known
  clear known
  induction spells with
  | nil => rfl
  | @cons letter point word text form spells ih =>
    obtain ⟨c, among, rfl⟩ := CodePoint.any_contains_iff.mp form
    have alike := letterOf_form letter (written letter List.mem_cons_self) c among
    have rest := ih fun other inside => written other (List.mem_cons_of_mem _ inside)
    rw [List.map_cons, alike, rest, letters, letters, List.map_cons]

theorem eq_of_begins {word other : List Char} (known : word ∈ words) (alike : other ∈ words)
    {text longer : Text} (spells : Spells word text) (spelled : Spells other longer)
    (begins : text <+: longer) : word = other := by
  refine distinct.apart word known other alike ?_
  rw [← distinct.map_letterOf known spells, ← distinct.map_letterOf alike spelled]
  exact begins.map letterOf

/-- What follows a word is the same for every word that stands at a place. -/
theorem afterWord?_unique {word other : List Char} (known : word ∈ words) (alike : other ∈ words)
    {text rest more : Text} (first : afterWord? word text = some rest)
    (second : afterWord? other text = some more) : rest = more := by
  obtain ⟨spelled, spells, split⟩ := afterWord?_eq_some_iff.mp first
  obtain ⟨written, writes, parted⟩ := afterWord?_eq_some_iff.mp second
  have same : word = other := by
    rcases List.prefix_or_prefix_of_prefix ⟨rest, split.symm⟩ ⟨more, parted.symm⟩ with begins | begins
    · exact distinct.eq_of_begins known alike spells writes begins
    · exact (distinct.eq_of_begins alike known writes spells begins).symm
  rw [same] at first
  exact Option.some.inj (first.symm.trans second)

/-- A search for one of the words finds what any of them leads to. -/
theorem findSome?_eq_some_iff {text rest : Text} {find : List Char → Option Text}
    (finds : ∀ word more, find word = some more → afterWord? word text = some more) :
    words.findSome? find = some rest ↔ ∃ word ∈ words, find word = some rest := by
  constructor
  · exact List.exists_of_findSome?_eq_some
  · rintro ⟨word, known, found⟩
    have some : (words.findSome? find).isSome := List.findSome?_isSome_iff.mpr
      ⟨word, known, by rw [found, Option.isSome_some]⟩
    obtain ⟨more, result⟩ := Option.isSome_iff_exists.mp some
    obtain ⟨other, alike, foundToo⟩ := List.exists_of_findSome?_eq_some result
    rw [result, distinct.afterWord?_unique known alike (finds _ _ found) (finds _ _ foundToo)]

end Distinct

theorem distinct_credentialNames : Distinct credentialNames where
  written := by decide
  apart := by decide

theorem distinct_parameterNames : Distinct parameterNames where
  written := by decide
  apart := by decide

theorem distinct_bearer : Distinct ["bearer".toList] where
  written := by decide
  apart := by decide

end Redaction

end ApiSurface
