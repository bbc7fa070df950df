import Mathlib.Data.Nat.Digits.Defs
import PackageMarket.Decimal.Basic

set_option autoImplicit false

/-!
Which texts are whole numbers, and of what value. A reader of 64-bit integers takes exactly those
whose value has a place in 64 bits.
-/

namespace PackageMarket.Decimal

/-- The number that digits stand for, the last of them being the units. -/
def value (s : List Char) : Nat := Nat.ofDigits 10 (s.reverse.map digitValue)

structure IsDigits (s : List Char) : Prop where
  ne_nil : s ≠ []
  all : ∀ c ∈ s, isDigit c = true

/-- A text and the integer it stands for: digits, with at most one sign before them. -/
inductive Numeral : List Char → Int → Prop where
  | plain {s : List Char} : IsDigits s → Numeral s (value s)
  | plus {s : List Char} : IsDigits s → Numeral ('+' :: s) (value s)
  | minus {s : List Char} : IsDigits s → Numeral ('-' :: s) (-(value s : Int))

/-- An integer of 64 bits and a text that spells it. -/
structure Spells (s : List Char) (n : Int) : Prop where
  numeral : Numeral s n
  min_le : int64Min ≤ n
  le_max : n ≤ int64Max

variable {s : List Char}

theorem natOfDigits_zero (s : List Char) : natOfDigits 0 s = value s := by
  rw [value, Nat.ofDigits_eq_foldr, natOfDigits, List.foldr_map, List.foldl_eq_foldr_reverse]
  congr
  funext c n
  simp only [Nat.cast_id]
  omega

theorem nat?_eq_some_iff {n : Nat} : nat? s = some n ↔ IsDigits s ∧ value s = n := by
  by_cases h : IsDigits s
  · have hread : nat? s = some (value s) := by
      have hne : s.isEmpty = false := by simpa using h.ne_nil
      have hall : s.all isDigit = true := List.all_eq_true.mpr h.all
      simp [nat?, hne, hall, natOfDigits_zero]
    simp [hread, h]
  · have hread : nat? s = none := by
      rw [nat?, if_pos]
      by_contra hno
      simp only [Bool.or_eq_true, Bool.not_eq_true', not_or, Bool.not_eq_true, Bool.not_eq_false]
        at hno
      exact h ⟨by simpa using hno.1, List.all_eq_true.mp hno.2⟩
    simp [hread, h]

/-- The same behind a sign, which changes the value by `f`. -/
theorem signed_eq_some_iff {f : Int → Int} {n : Int} :
    (do let m ← nat? s; pure (m : Int) : Option Int).map f = some n ↔
      IsDigits s ∧ f (value s) = n := by
  constructor
  · intro h
    cases hs : nat? s with
    | none => simp [hs] at h
    | some m =>
      obtain ⟨hdigits, rfl⟩ := nat?_eq_some_iff.mp hs
      exact ⟨hdigits, by simpa [hs] using h⟩
  · rintro ⟨hdigits, rfl⟩
    simp [nat?_eq_some_iff.mpr ⟨hdigits, rfl⟩]

theorem IsDigits.head {c : Char} (h : IsDigits (c :: s)) : isDigit c = true :=
  h.all c List.mem_cons_self

theorem int64?_eq_some_iff {n : Int} : int64? s = some n ↔ Spells s n := by
  have hspells : Spells s n ↔ Numeral s n ∧ int64Min ≤ n ∧ n ≤ int64Max :=
    ⟨fun ⟨h, hmin, hmax⟩ => ⟨h, hmin, hmax⟩, fun ⟨h, hmin, hmax⟩ => ⟨h, hmin, hmax⟩⟩
  rw [hspells]
  unfold int64?
  simp only [Option.filter_eq_some_iff, Bool.and_eq_true, decide_eq_true_eq]
  refine and_congr_left fun _ => ?_
  -- a digit is no sign, so that the three spellings exclude each other
  split
  · rename_i s
    rw [signed_eq_some_iff]
    constructor
    · rintro ⟨hs, rfl⟩
      exact .minus hs
    · intro h
      cases h with
      | plain hs => exact absurd hs.head (by decide)
      | minus hs => exact ⟨hs, rfl⟩
  · rename_i s
    rw [signed_eq_some_iff]
    constructor
    · rintro ⟨hs, rfl⟩
      exact .plus hs
    · intro h
      cases h with
      | plain hs => exact absurd hs.head (by decide)
      | plus hs => exact ⟨hs, rfl⟩
  · rename_i hminus hplus
    rw [signed_eq_some_iff]
    constructor
    · rintro ⟨hs, rfl⟩
      exact .plain hs
    · intro h
      cases h with
      | plain hs => exact ⟨hs, rfl⟩
      | plus hs => exact absurd rfl (hplus _)
      | minus hs => exact absurd rfl (hminus _)

end PackageMarket.Decimal
