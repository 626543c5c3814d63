import ApiSurface.Text.Basic
import ApiSurface.Text.Case.Table

/-!
# Upper and lower case of text

Changing case is a map on texts, not on characters: one letter may become two or
three, and the capital sigma has two lower-case forms, of which the final one
stands where a word ends. Every other character maps on its own, and half of a
surrogate pair has no case.
-/

namespace ApiSurface.Text

open Case

/-- The code point a run of letters sends a code point to. -/
def Case.Runs.image (runs : Runs) (code : Nat) : Option Nat :=
  (runs.find? fun run => run.1 ≤ code && code ≤ run.2.1 && (code - run.1) % run.2.2.1 == 0).map
    fun run => ((code : Int) + run.2.2.2).toNat

/-- What a character becomes, by a table of runs and a table of expansions. -/
def changeCase (runs : Runs) (expansions : Expansions) (c : Char) : List Char :=
  match expansions.find? fun entry => entry.1 == c.toNat with
  | some entry => entry.2.map Char.ofNat
  | none =>
    match runs.image c.toNat with
    | some code => [Char.ofNat code]
    | none => [c]

/-- The upper-case form of a character. -/
def upperChar (c : Char) : List Char := changeCase upperRuns upperExpansions c

/-- The lower-case form of a character, taken on its own. -/
def lowerChar (c : Char) : List Char := changeCase lowerRuns lowerExpansions c

/-- Whether the nearest code point that is not passed over has a case. -/
def meetsCased (text : Text) : Bool :=
  match text.dropWhile (CodePoint.any ignorableRanges.has) with
  | [] => false
  | point :: _ => point.any casedRanges.has

/-- Lower case of a text, given the text before it, last code point first. -/
def lowerFrom (before : Text) : Text → Text
  | [] => []
  | point :: rest =>
    (if point = .char 'Σ' then [.char (if meetsCased before && !meetsCased rest then 'ς' else 'σ')]
      else point.expand lowerChar) ++ lowerFrom (point :: before) rest

/-- The upper-case form of a text. -/
def upper (text : Text) : Text := text.flatMap (CodePoint.expand upperChar)

/-- The lower-case form of a text. -/
def lower (text : Text) : Text := lowerFrom [] text

end ApiSurface.Text
