import PackageMarket.Form.Form
import PackageMarket.Proofs.Decimal.Numeral

set_option autoImplicit false

namespace PackageMarket

open Decimal

theorem Rule.check_integerInRange {min max : Int} {s : List Char} :
    (integerInRange min max).check s = none ↔ ∃ n : Int, int64? s = some n ∧ min ≤ n ∧ n ≤ max := by
  cases h : int64? s with
  | none => simp [check, h]
  | some n =>
    have hcheck : (integerInRange min max).check s = none ↔ ¬(n < min ∨ max < n) := by
      simp [check, h]
    rw [hcheck]
    constructor
    · intro hin
      exact ⟨n, rfl, by omega, by omega⟩
    · rintro ⟨m, hm, hmin, hmax⟩
      cases hm
      omega

theorem Rule.check_exactLength {n : Nat} {s : List Char} :
    (exactLength n).check s = none ↔ s.length = n := by
  by_cases h : s.length = n <;> simp [check, h]

namespace Form

variable (f : Form) (rules : List FieldRule)

theorem violations_eq_nil :
    f.violations rules = [] ↔ ∀ r ∈ rules, r.rule.check (f.value r.field) = none := by
  simp [violations]

theorem hasErrors_validate :
    (f.validate rules).hasErrors = false ↔ ∀ r ∈ rules, r.rule.check (f.value r.field) = none := by
  rw [← violations_eq_nil]
  simp [validate]

end Form

theorem Decimal.ofList_ofInt (n : Int) : String.ofList (ofInt n) = toString n := by
  cases n with
  | ofNat n =>
    rw [Int.ofNat_eq_natCast, ofInt_natCast]
    rfl
  | negSucc n =>
    rw [ofInt, if_pos (Int.negSucc_lt_zero n)]
    exact String.ofList_cons

theorem Violation.text_below (min : Int) :
    (below min).text = "must be at least " ++ toString min := by
  rw [← ofList_ofInt]
  rfl

theorem Violation.text_outside (min max : Int) :
    (outside min max).text = "must be between " ++ toString min ++ " and " ++ toString max := by
  rw [← ofList_ofInt, ← ofList_ofInt]
  rfl

namespace Rule

def Holds : Rule → List Char → Prop
  | .integerInRange min max, s => ∃ n : Int, Spells s n ∧ min ≤ n ∧ n ≤ max
  | .exactLength n, s => s.length = n

/-- How a value breaks a rule, in words. -/
inductive Broken : Rule → List Char → String → Prop where
  | notWhole {min max : Int} {s : List Char} : (¬∃ n : Int, Spells s n) →
      Broken (.integerInRange min max) s "must be a whole number"
  | below {min n : Int} {s : List Char} : Spells s n → n < min →
      Broken (.integerInRange min int64Max) s ("must be at least " ++ toString min)
  | outside {min max n : Int} {s : List Char} : max ≠ int64Max → Spells s n → n < min ∨ max < n →
      Broken (.integerInRange min max) s
        ("must be between " ++ toString min ++ " and " ++ toString max)
  | wrongLength {n : Nat} {s : List Char} : s.length ≠ n →
      Broken (.exactLength n) s ("must be exactly " ++ toString n ++ " characters")

variable {r : Rule} {s : List Char}

theorem check_eq_none_iff : r.check s = none ↔ r.Holds s := by
  cases r with
  | integerInRange min max => simp only [check_integerInRange, int64?_eq_some_iff, Holds]
  | exactLength n => exact check_exactLength

instance (r : Rule) (s : List Char) : Decidable (r.Holds s) :=
  decidable_of_iff (r.check s = none) check_eq_none_iff

theorem broken_of_check {v : Violation} (h : r.check s = some v) : r.Broken s v.text := by
  cases r with
  | integerInRange min max =>
    cases hn : int64? s with
    | none =>
      obtain rfl : Violation.notWhole = v := by simpa [check, hn] using h
      refine .notWhole ?_
      rintro ⟨n, hspells⟩
      rw [int64?_eq_some_iff.mpr hspells] at hn
      cases hn
    | some n =>
      have hspells := int64?_eq_some_iff.mp hn
      have hout : n < min ∨ max < n := by
        by_contra hin
        simp [check, hn, hin] at h
      have hv : (if max = int64Max then Violation.below min else .outside min max) = v := by
        simpa [check, hn, hout] using h
      subst hv
      split
      · rename_i hmax
        have hbelow : n < min := hout.resolve_right (by have := hspells.le_max; omega)
        rw [hmax, Violation.text_below]
        exact .below hspells hbelow
      · rename_i hmax
        rw [Violation.text_outside]
        exact .outside hmax hspells hout
  | exactLength n =>
    by_cases hn : s.length = n
    · simp [check, hn] at h
    · obtain rfl : Violation.wrongLength n = v := by simpa [check, hn] using h
      exact .wrongLength hn

end Rule

namespace Form

variable (f : Form)

def Holds (r : FieldRule) : Prop := r.rule.Holds (f.value r.field)

instance (r : FieldRule) : Decidable (f.Holds r) := inferInstanceAs (Decidable (r.rule.Holds _))

/-- A sentence says how a rule is broken, beginning with the label of its field. -/
def Complains (r : FieldRule) (e : String) : Prop :=
  ∃ why : String, r.rule.Broken (f.value r.field) why ∧ e = f.label r.field ++ " " ++ why

theorem violations_complain (rules : List FieldRule) :
    List.Forall₂ f.Complains (rules.filter fun r => ¬f.Holds r) (f.violations rules) := by
  induction rules with
  | nil => exact .nil
  | cons r rs ih =>
    rw [violations, List.filterMap_cons, ← violations]
    cases hc : r.rule.check (f.value r.field) with
    | none =>
      have hholds : f.Holds r := Rule.check_eq_none_iff.mp hc
      simpa [hholds] using ih
    | some v =>
      have hbroken : ¬f.Holds r := fun hholds => by
        rw [Rule.check_eq_none_iff.mpr hholds] at hc
        cases hc
      rw [List.filter_cons_of_pos (by simpa using hbroken)]
      exact .cons ⟨v.text, Rule.broken_of_check hc, rfl⟩ ih

theorem hasErrors_validate_iff (rules : List FieldRule) :
    (f.validate rules).hasErrors = false ↔ ∀ r ∈ rules, f.Holds r := by
  rw [hasErrors_validate]
  exact forall₂_congr fun r _ => Rule.check_eq_none_iff

/-- A form whose values break a rule is the same form with its
complaints in place of those it had. -/
theorem validate_of_broken {rules : List FieldRule} (h : ¬∀ r ∈ rules, f.Holds r) :
    f.violations rules ≠ [] ∧
      f.validate rules = { f with hasErrors := true, errors := f.violations rules } := by
  rw [← hasErrors_validate_iff] at h
  have hne : f.violations rules ≠ [] := by simpa [validate] using h
  refine ⟨hne, ?_⟩
  simp [validate, hne]

end Form

end PackageMarket
