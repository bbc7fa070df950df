import PackageMarket.Json.Literal

set_option autoImplicit false

namespace PackageMarket

namespace Decimal

theorem roundDiv_pos {n d : Nat} (hd : 0 < d) (h : d ≤ n) : 0 < roundDiv n d := by
  have hq : 0 < n / d := Nat.div_pos h hd
  unfold roundDiv
  dsimp only
  split
  · exact hq
  split
  · exact Nat.succ_pos _
  split
  · exact hq
  · exact Nat.succ_pos _

namespace Binary64

theorem le_ratio {n : Nat} {e : Int} (hn : 0 < n) (he : e ≤ n.log2) :
    0 < (ratio n 0 1 e).2 ∧ (ratio n 0 1 e).2 ≤ (ratio n 0 1 e).1 := by
  unfold ratio
  split
  · exact ⟨Nat.one_pos, Nat.mul_pos hn (Nat.two_pow_pos _)⟩
  · refine ⟨Nat.mul_pos Nat.one_pos (Nat.two_pow_pos _), ?_⟩
    calc
      1 * Nat.pow 2 (e - 0).toNat = 2 ^ (e - 0).toNat := Nat.one_mul _
      _ ≤ 2 ^ n.log2 := Nat.pow_le_pow_right (by omega) (by omega)
      _ ≤ n := Nat.log2_self_le (by omega)

/-- A significand is not rounded away. -/
theorem isZero_ofNat {n : Nat} (hn : 0 < n) (hmax : n ≤ uint64Max) : (ofNat n).isZero = false := by
  have hlog : n.log2 < 64 := (Nat.log2_lt (by omega)).mpr (Nat.lt_of_le_of_lt hmax (by decide))
  have hone : Nat.log2 1 = 0 := by decide
  unfold ofNat nearest
  rw [if_neg (Nat.ne_of_gt hn)]
  extract_lets guess below e
  have hle : e ≤ 11 ∧ e ≤ n.log2 := by
    simp only [e, guess, hone, minExponent]
    split <;> omega
  clear_value e
  have hexp : ¬maxExponent < e ∧ ¬maxExponent < e + 1 := by
    simp only [maxExponent]
    omega
  obtain ⟨hd, hratio⟩ := le_ratio hn hle.2
  split
  rename_i a b hab
  rw [hab] at hd hratio
  have hm : 0 < roundDiv a b := roundDiv_pos hd hratio
  dsimp only
  -- As a literal the power would be unfolded.
  generalize hp : Nat.pow 2 52 = p
  have hp : 0 < p := hp ▸ Nat.two_pow_pos 52
  split
  · rw [if_neg hexp.2]
    simpa [isZero] using Nat.ne_of_gt hp
  · rw [if_neg hexp.1]
    simpa [isZero] using Nat.ne_of_gt hm

theorem ofDecimal_eq_none {n : Nat} {e : Int} (negative : Bool) (hn : 0 < n) (hmax : n ≤ uint64Max)
    (he : 308 < e) : ofDecimal negative n e = none := by
  have hzero : ({ ofNat n with negative } : Binary64).isZero = false := isZero_ofNat hn hmax
  simp only [ofDecimal, hzero, Bool.false_eq_true, if_false]
  rw [if_neg (by omega), if_neg (by omega)]

end Binary64

end Decimal

namespace Json

open Decimal

theorem absorb_le {n : Nat} (s : List Char) (h : n ≤ uint64Max) : (absorb n s).1 ≤ uint64Max := by
  induction s generalizing n with
  | nil => exact h
  | cons c s ih =>
    unfold absorb
    split
    · rename_i hc
      exact ih hc
    · exact h

namespace Literal

variable {l : Literal}

theorem significand_le (l : Literal) : l.significand.1 ≤ uint64Max :=
  absorb_le l.fraction (absorb_le l.whole (Nat.zero_le _))

/-- Not zero, and written with a power of ten that no float reaches. -/
def Huge (l : Literal) : Prop :=
  0 < l.significand.1 ∧
    ∃ ds : List Char, l.exponent = some (false, ds) ∧ 308 < l.significand.2 + natOfDigits 0 ds

theorem Huge.value_eq_none (h : l.Huge) (hu : l.unread = none) : l.value = none := by
  obtain ⟨hpos, ds, hexp, he⟩ := h
  have hoverflow : exponentOverflow 0 ds = none := by
    simpa only [unread, hexp, if_neg (Nat.ne_of_gt hpos), Option.map_eq_none_iff] using hu
  have hfloat : l.float = none := by
    simp only [float, hexp, hoverflow, Option.isSome_none, Bool.false_eq_true, if_false]
    exact Binary64.ofDecimal_eq_none _ hpos l.significand_le he
  simp [value, isInteger, hexp, hfloat]

end Literal

end Json

end PackageMarket
