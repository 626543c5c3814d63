import Mathlib.Algebra.Field.Rat
import Mathlib.Data.Rat.Cast.Order
import Mathlib.Tactic.FieldSimp
import ApiSurface.Proofs.Snapshot.Signature

/-!
# Equality of values

Flags, integers and floating-point numbers are equal if they stand for the same
quantity, and everything else is equal by form and content. On tidy values, in which no
record has a field twice, this equality is an equivalence: a value is equal to itself,
and equal values are equal to the same values.
-/

namespace ApiSurface

/-- Where keys are distinct, what stands beside a key is what is found under it. -/
theorem lookup_eq_some_iff_mem {α : Type} {entries : List (Text × α)}
    (distinct : (entries.map (·.1)).Nodup) {key : Text} {a : α} :
    entries.lookup key = some a ↔ (key, a) ∈ entries := by
  constructor
  · intro found
    obtain ⟨before, after, rfl, _⟩ := List.lookup_eq_some_iff.mp found
    simp
  · intro member
    obtain ⟨before, after, rfl⟩ := List.append_of_mem member
    have absent : ∀ entry ∈ before, (key != entry.1) = true := by
      intro entry inBefore
      simp only [List.map_append, List.map_cons, List.nodup_append] at distinct
      have apart := distinct.2.2 entry.1 (List.mem_map_of_mem inBefore) key List.mem_cons_self
      exact bne_iff_ne.mpr apart.symm
    exact List.lookup_eq_some_iff.mpr ⟨before, after, rfl, absent⟩

/-- What a number stands for, exactly. -/
inductive Quantity where
  | notANumber
  | infinite (negative : Bool)
  | exact (q : ℚ)
deriving DecidableEq

namespace Decimal.Double

/-- What a double stands for. -/
def quantity : Double → Quantity
  | notANumber => .notANumber
  | infinite negative => .infinite negative
  | finite negative mantissa exponent =>
    let scaled : Int := mantissa * Nat.pow 2 exponent.toNat
    .exact ((if negative then -scaled else scaled : Int) / (Nat.pow 2 (-exponent).toNat : Nat))

theorem same_iff (x y : Double) : x.same y = true ↔ x.quantity = y.quantity := by
  cases x with
  | notANumber => cases y <;> simp [same, quantity]
  | infinite negative => cases y <;> simp [same, quantity]
  | finite negative mantissa exponent =>
    cases y with
    | notANumber => simp [same, quantity]
    | infinite otherNegative => simp [same, quantity]
    | finite otherNegative otherMantissa otherExponent =>
      simp only [same, quantity, beq_iff_eq, Quantity.exact.injEq]
      have positive : ∀ e : Int, ((Nat.pow 2 e.toNat : Nat) : ℚ) ≠ 0 := by
        intro e
        exact Nat.cast_ne_zero.mpr (Nat.pow_pos (by decide)).ne'
      rw [div_eq_div_iff (positive _) (positive _)]
      norm_cast

/-- A double is an integer if it stands for exactly that quantity. -/
theorem isInteger_iff (x : Double) (n : Int) : x.isInteger n = true ↔ x.quantity = .exact n := by
  cases x with
  | notANumber => simp [isInteger, quantity]
  | infinite negative => simp [isInteger, quantity]
  | finite negative mantissa exponent =>
    simp only [isInteger, quantity, beq_iff_eq, Quantity.exact.injEq]
    have positive : ((Nat.pow 2 (-exponent).toNat : Nat) : ℚ) ≠ 0 :=
      Nat.cast_ne_zero.mpr (Nat.pow_pos (by decide)).ne'
    rw [div_eq_iff positive]
    norm_cast

end Decimal.Double

namespace Value

/-! ## Quantities -/

/-- The quantity that a flag or a number stands for. -/
def quantity? : Value → Option Quantity
  | bool b => some (.exact (if b then 1 else 0))
  | int n => some (.exact n)
  | float x => some (Decimal.Double.ofFloat x).quantity
  | _ => none

/-- An integer is equal to exactly what stands for it. -/
theorem int_same_iff (n : Int) (w : Value) :
    (int n).same w = true ↔ w.quantity? = some (.exact n) := by
  cases w with
  | bool b => cases b <;> simp [same, asInteger?, quantity?] <;> norm_cast
  | int m => simp [same, asInteger?, quantity?]
  | float y => simp [same, quantity?, Decimal.Double.isInteger_iff]
  | _ => simp [same, asInteger?, quantity?]

/-- What stands for a quantity is equal to exactly what stands for the same. -/
theorem same_iff_of_quantity {v : Value} {q : Quantity} (stands : v.quantity? = some q)
    (w : Value) : v.same w = true ↔ w.quantity? = some q := by
  cases v with
  | bool b =>
    cases stands
    have asInt : (bool b).same w = (int (if b then 1 else 0)).same w := by cases w <;> simp [same]
    rw [asInt, int_same_iff]
    cases b <;> simp
  | int n =>
    cases stands
    exact int_same_iff n w
  | float x =>
    cases stands
    have double : ∀ n, (Decimal.Double.ofFloat x).isInteger n = true ↔
        Quantity.exact n = (Decimal.Double.ofFloat x).quantity :=
      fun n => (Decimal.Double.isInteger_iff _ n).trans eq_comm
    have floats : ∀ y, sameFloat x y = true ↔
        (Decimal.Double.ofFloat y).quantity = (Decimal.Double.ofFloat x).quantity :=
      fun y => (Decimal.Double.same_iff _ _).trans eq_comm
    cases w with
    | bool b => cases b <;> simp [same, asInteger?, quantity?, double]
    | int n => simp [same, asInteger?, quantity?, double]
    | float y => simp [same, quantity?, floats]
    | _ => simp [same, asInteger?, quantity?]
  | _ => cases stands

/-! ## Tidy values -/

mutual

/-- No record or model in the value has a field twice. -/
def Tidy : Value → Prop
  | list items => TidyItems items
  | record entries => (entries.map (·.1)).Nodup ∧ TidyEntries entries
  | model fields => (fields.map (·.1)).Nodup ∧ TidyEntries fields
  | _ => True

/-- Every item of a list is tidy. -/
def TidyItems : List Value → Prop
  | [] => True
  | item :: items => item.Tidy ∧ TidyItems items

/-- Every value among entries is tidy. -/
def TidyEntries : List (Text × Value) → Prop
  | [] => True
  | entry :: entries => entry.2.Tidy ∧ TidyEntries entries

end

theorem tidyItems_iff {items : List Value} : TidyItems items ↔ ∀ item ∈ items, item.Tidy := by
  induction items with
  | nil => simp [TidyItems]
  | cons item rest ih => simp [TidyItems, ih]

theorem tidyEntries_iff {entries : List (Text × Value)} :
    TidyEntries entries ↔ ∀ entry ∈ entries, entry.2.Tidy := by
  induction entries with
  | nil => simp [TidyEntries]
  | cons entry rest ih => simp [TidyEntries, ih]

/-- Entries are equal to others if each finds an equal value under its key there. -/
theorem sameEntries_iff {entries others : List (Text × Value)} :
    sameEntries entries others = true ↔
      ∀ entry ∈ entries, ∃ other, others.lookup entry.1 = some other ∧
        entry.2.same other = true := by
  induction entries with
  | nil => simp [sameEntries]
  | cons entry rest ih =>
    obtain ⟨key, value⟩ := entry
    rw [sameEntries, Bool.and_eq_true, ih, List.forall_mem_cons]
    apply and_congr_left'
    cases others.lookup key <;> simp

/-! ## Equality is an equivalence -/

mutual

/-- A tidy value is equal to itself. -/
theorem same_refl : ∀ v : Value, v.Tidy → v.same v = true
  | null, _ => rfl
  | bool b, _ => (same_iff_of_quantity rfl _).mpr rfl
  | int n, _ => (same_iff_of_quantity rfl _).mpr rfl
  | float x, _ => (same_iff_of_quantity rfl _).mpr rfl
  | text s, _ => text_same_iff.mpr rfl
  | list items, tidy => sameItems_refl items tidy
  | record entries, tidy => by
    rw [same, beq_self_eq_true, Bool.true_and, sameEntries_iff]
    exact entries_refl entries tidy.2 entries fun entry => (lookup_eq_some_iff_mem tidy.1).mpr
  | model fields, tidy => by
    rw [same, beq_self_eq_true, Bool.true_and, sameEntries_iff]
    exact entries_refl fields tidy.2 fields fun entry => (lookup_eq_some_iff_mem tidy.1).mpr

theorem sameItems_refl : ∀ items : List Value, TidyItems items → sameItems items items = true
  | [], _ => rfl
  | item :: items, tidy => by
    rw [sameItems, same_refl item tidy.1, sameItems_refl items tidy.2]
    rfl

theorem entries_refl : ∀ entries : List (Text × Value), TidyEntries entries →
    ∀ others : List (Text × Value), (∀ entry ∈ entries, others.lookup entry.1 = some entry.2) →
      ∀ entry ∈ entries, ∃ other, others.lookup entry.1 = some other ∧ entry.2.same other = true
  | [], _, _, _ => nofun
  | entry :: entries, tidy, others, found => by
    rw [List.forall_mem_cons]
    constructor
    · exact ⟨entry.2, found entry List.mem_cons_self, same_refl entry.2 tidy.1⟩
    · exact entries_refl entries tidy.2 others fun other member =>
        found other (List.mem_cons_of_mem _ member)

end

/-- Entries with distinct keys that are all found among as many others are all that is found
there. -/
theorem keys_of_sameEntries {entries others : List (Text × Value)}
    (distinct : (entries.map (·.1)).Nodup) (length : entries.length = others.length)
    (same : sameEntries entries others = true) {other : Text × Value} (member : other ∈ others) :
    ∃ entry ∈ entries, entry.1 = other.1 := by
  have within : entries.map (·.1) ⊆ others.map (·.1) := by
    intro key inEntries
    obtain ⟨entry, entryMember, rfl⟩ := List.mem_map.mp inEntries
    obtain ⟨value, found, _⟩ := sameEntries_iff.mp same entry entryMember
    obtain ⟨before, after, rfl, _⟩ := List.lookup_eq_some_iff.mp found
    simp
  have perm : (entries.map (·.1)).Perm (others.map (·.1)) :=
    (List.subperm_of_subset distinct within).perm_of_length_le (by simp [length])
  exact List.mem_map.mp (perm.mem_iff.mpr (List.mem_map_of_mem member))

/-- Whether entries are equal to others, key by key, and as many. -/
def sameFields (entries others : List (Text × Value)) : Bool :=
  entries.length == others.length && sameEntries entries others

/-- Equal entries are equal to the same entries if this holds of each of their values. -/
theorem sameFields_congr {entries others : List (Text × Value)}
    (distinct : (entries.map (·.1)).Nodup) (distinctOthers : (others.map (·.1)).Nodup)
    (tidyOthers : TidyEntries others)
    (values : ∀ entry ∈ entries, ∀ v : Value, v.Tidy → entry.2.same v = true →
      ∀ u, entry.2.same u = v.same u)
    (same : sameFields entries others = true) (more : List (Text × Value)) :
    sameFields entries more = sameFields others more := by
  obtain ⟨asMany, sameAll⟩ := Bool.and_eq_true_iff.mp same
  have length : entries.length = others.length := beq_iff_eq.mp asMany
  have found := sameEntries_iff.mp sameAll
  have tidy := tidyEntries_iff.mp tidyOthers
  rw [sameFields, sameFields, length, Bool.eq_iff_iff, Bool.and_eq_true, Bool.and_eq_true,
    sameEntries_iff, sameEntries_iff]
  apply and_congr_right'
  constructor
  · intro among other member
    obtain ⟨entry, entryMember, key⟩ := keys_of_sameEntries distinct length sameAll member
    obtain ⟨value, foundHere, sameHere⟩ := found entry entryMember
    obtain ⟨third, foundThird, sameThird⟩ := among entry entryMember
    have isOther : value = other.2 := by
      have here : others.lookup other.1 = some other.2 :=
        (lookup_eq_some_iff_mem distinctOthers).mpr member
      rw [← key, foundHere] at here
      exact Option.some.inj here
    refine ⟨third, key ▸ foundThird, ?_⟩
    rw [← values entry entryMember other.2 (tidy other member) (isOther ▸ sameHere) third]
    exact sameThird
  · intro among entry entryMember
    obtain ⟨value, foundHere, sameHere⟩ := found entry entryMember
    have member := (lookup_eq_some_iff_mem distinctOthers).mp foundHere
    obtain ⟨third, foundThird, sameThird⟩ := among _ member
    refine ⟨third, foundThird, ?_⟩
    rw [values entry entryMember value (tidy _ member) sameHere third]
    exact sameThird

/-- What stands for a quantity is equal only to what is equal to the same values. -/
theorem same_congr_of_quantity {v w : Value} {q : Quantity} (stands : v.quantity? = some q)
    (same : v.same w = true) (u : Value) : v.same u = w.same u := by
  have standsToo : w.quantity? = some q := (same_iff_of_quantity stands w).mp same
  rw [Bool.eq_iff_iff, same_iff_of_quantity stands, same_iff_of_quantity standsToo]

mutual

/-- Equal tidy values are equal to the same values. -/
theorem same_congr : ∀ v : Value, v.Tidy → ∀ w : Value, w.Tidy → v.same w = true →
    ∀ u, v.same u = w.same u
  | null, _, w, _, same, u => by
    cases w with
    | null => rfl
    | _ => cases same
  | bool b, _, w, _, same, u => same_congr_of_quantity rfl same u
  | int n, _, w, _, same, u => same_congr_of_quantity rfl same u
  | float x, _, w, _, same, u => same_congr_of_quantity rfl same u
  | text s, _, w, _, same, u => by rw [text_same_iff.mp same]
  | list items, tidy, w, tidyOther, same, u => by
    cases w with
    | list others =>
      cases u with
      | list more => exact sameItems_congr items tidy others tidyOther same more
      | _ => rfl
    | _ => cases same
  | record entries, tidy, w, tidyOther, same, u => by
    cases w with
    | record others =>
      cases u with
      | record more =>
        exact sameFields_congr tidy.1 tidyOther.1 tidyOther.2 (values_congr entries tidy.2) same
          more
      | _ => rfl
    | _ => cases same
  | model fields, tidy, w, tidyOther, same, u => by
    cases w with
    | model others =>
      cases u with
      | model more =>
        exact sameFields_congr tidy.1 tidyOther.1 tidyOther.2 (values_congr fields tidy.2) same more
      | _ => rfl
    | _ => cases same
termination_by structural v => v

theorem sameItems_congr : ∀ items : List Value, TidyItems items → ∀ others : List Value,
    TidyItems others → sameItems items others = true →
      ∀ more, sameItems items more = sameItems others more
  | [], _, others, _, same, more => by
    cases others with
    | nil => rfl
    | cons other others => cases same
  | item :: items, tidy, others, tidyOthers, same, more => by
    cases others with
    | nil => cases same
    | cons other others =>
      obtain ⟨here, rest⟩ := Bool.and_eq_true_iff.mp same
      cases more with
      | nil => rfl
      | cons third more =>
        rw [sameItems, sameItems, same_congr item tidy.1 other tidyOthers.1 here,
          sameItems_congr items tidy.2 others tidyOthers.2 rest]
termination_by structural items => items

theorem values_congr : ∀ entries : List (Text × Value), TidyEntries entries →
    ∀ entry ∈ entries, ∀ v : Value, v.Tidy → entry.2.same v = true →
      ∀ u, entry.2.same u = v.same u
  | [], _ => nofun
  | entry :: entries, tidy =>
    List.forall_mem_cons.mpr ⟨same_congr entry.2 tidy.1, values_congr entries tidy.2⟩
termination_by structural entries => entries

end

/-- Of two equal tidy values either is equal to the other. -/
theorem same_symm {v w : Value} (tidy : v.Tidy) (tidyOther : w.Tidy) (same : v.same w = true) :
    w.same v = true := by
  rw [← same_congr v tidy w tidyOther same, same_refl v tidy]

end Value

end ApiSurface
