import PackageMarket.Json.Reader
import PackageMarket.Proofs.Json.Literal

set_option autoImplicit false

/-!
Printed strings and numbers are read again, whatever follows them. For a float this rests on the
float alone: if its text is read as the float when nothing follows, then so it is within a longer
text.
-/

namespace PackageMarket.Json

open Decimal Text

theorem hexValue_hexDigit : ∀ n < 16, hexValue? (hexDigit n) = some n := by decide

theorem codePoint_control {n : Nat} (hn : n < 0x20) (rest : List Char) :
    Reads (codePoint ('0' :: '0' :: hexDigit (n / 16) :: hexDigit (n % 16) :: rest))
      (Char.ofNat n) rest := by
  have hzero : hexValue? '0' = some 0 := by decide
  have hhigh := hexValue_hexDigit (n / 16) (by omega)
  have hlow := hexValue_hexDigit (n % 16) (by omega)
  have hunit : Reads (hexUnit ('0' :: '0' :: hexDigit (n / 16) :: hexDigit (n % 16) :: rest))
      n rest := by
    simp only [hexUnit, hzero, hhigh, hlow]
    refine ⟨by simp; omega, ?_⟩
    have hvalue : ((0 * 16 + 0) * 16 + n / 16) * 16 + n % 16 = n := by omega
    simp only [hvalue]
    rfl
  obtain ⟨hlt, hunit⟩ := hunit
  have hnotLow : isLowSurrogate n = false := by
    simp only [isLowSurrogate, Bool.and_eq_false_iff, decide_eq_false_iff_not]
    omega
  have hnotHigh : isHighSurrogate n = false := by
    simp only [isHighSurrogate, Bool.and_eq_false_iff, decide_eq_false_iff_not]
    omega
  refine ⟨hlt, ?_⟩
  simp only [codePoint, hunit, bind, Except.bind, hnotLow, hnotHigh]
  rfl

theorem escapeChar_cases (c : Char) :
    (escapeChar c = [c] ∧ c ≠ '"' ∧ c ≠ '\\' ∧ ¬c.toNat < 0x20) ∨
      ∃ e, escapeChar c = '\\' :: e ∧ ∀ rest : List Char, Reads (escaped (e ++ rest)) c rest := by
  unfold escapeChar
  split
  case h_8 hquote hback _ _ _ _ _ =>
    split
    case isTrue hn =>
      refine .inr ⟨_, rfl, fun rest => ?_⟩
      obtain ⟨hlt, hread⟩ := codePoint_control hn rest
      rw [Char.ofNat_toNat] at hread
      refine ⟨Nat.lt_succ_of_lt hlt, ?_⟩
      simp only [List.cons_append, List.nil_append, escaped, if_true, hread, bind, Except.bind]
      rfl
    case isFalse hn => exact .inl ⟨rfl, hquote, hback, hn⟩
  all_goals exact .inr ⟨_, rfl, fun rest => ⟨Nat.lt_succ_self _, rfl⟩⟩

theorem quotedAfter_escaped (s done rest : List Char) :
    Reads (quotedAfter done (s.flatMap escapeChar ++ '"' :: rest)) (done.reverse ++ s) rest := by
  induction s generalizing done with
  | nil =>
    rw [List.flatMap_nil, List.nil_append, quotedAfter, if_pos rfl, List.append_nil]
    exact ⟨_, rfl⟩
  | cons c s ih =>
    obtain ⟨hlt, hread⟩ := ih (c :: done)
    rw [List.reverse_cons, List.append_assoc] at hread
    rw [List.flatMap_cons, List.append_assoc]
    obtain ⟨hc, hquote, hback, hshown⟩ | ⟨e, he, hescaped⟩ := escapeChar_cases c
    · rw [hc, List.singleton_append, quotedAfter, if_neg hquote, if_neg hback, if_neg hshown, hread]
      exact ⟨_, rfl⟩
    · obtain ⟨hlt', hescaped⟩ := hescaped (s.flatMap escapeChar ++ '"' :: rest)
      rw [he, List.cons_append, quotedAfter, if_neg (by decide), if_pos rfl, hescaped]
      simp only [hread]
      exact ⟨_, rfl⟩

theorem quote_append (s rest : List Char) :
    quote s ++ rest = '"' :: (s.flatMap escapeChar ++ '"' :: rest) := by
  rw [quote, List.append_assoc, List.cons_append, List.singleton_append]

theorem quoted_escaped (s rest : List Char) :
    Reads (quoted (s.flatMap escapeChar ++ '"' :: rest)) s rest :=
  quotedAfter_escaped s [] rest

section Digits

theorem isDigit_of_mem_digits {n : Nat} {c : Char} (h : c ∈ digits n) : isDigit c = true := by
  have hdigit := Nat.isDigit_of_mem_toDigits (by decide) (by decide) h
  simpa [isDigit, Char.isDigit, Char.le_def] using hdigit

theorem natOfDigits_digits (n : Nat) : natOfDigits 0 (digits n) = n := by
  have h : Nat.ofDigitChars 10 (digits n) 0 = n := Nat.ofDigitChars_toDigits (by decide) (by decide)
  simp only [Nat.ofDigitChars, Nat.mul_comm] at h
  exact h

theorem eq_nil_of_digits {n : Nat} {t : List Char} (h : digits n = '0' :: t) : n = 0 ∧ t = [] := by
  induction n using Nat.strongRecOn generalizing t with
  | ind n ih =>
    rw [digits, Nat.toDigits_eq_if (by decide)] at h
    split at h
    · rename_i hn
      obtain ⟨hdigit, rfl⟩ := List.cons.inj h
      refine ⟨?_, rfl⟩
      have hvalues : ∀ m < 10, m.digitChar = '0' → m = 0 := by decide
      exact hvalues n hn hdigit
    · obtain ⟨c, u, hu⟩ := List.exists_cons_of_ne_nil (Nat.toDigits_ne_nil (n := n / 10) (b := 10))
      rw [hu, List.cons_append] at h
      obtain ⟨rfl, -⟩ := List.cons.inj h
      have := (ih (n / 10) (by omega) hu).1
      omega

theorem digits_digits (n : Nat) : Digits (digits n) :=
  ⟨Nat.toDigits_ne_nil, fun _ => isDigit_of_mem_digits⟩

theorem whole_digits (n : Nat) : Literal.Whole (digits n) := by
  have hdigits := digits_digits n
  obtain ⟨c, t, h⟩ := List.exists_cons_of_ne_nil hdigits.ne_nil
  rw [h] at hdigits ⊢
  by_cases hzero : c = '0'
  · subst hzero
    obtain ⟨-, rfl⟩ := eq_nil_of_digits h
    exact .zero
  · exact .digits hzero hdigits

theorem written_ofInt (n : Int) :
    Literal.Written ⟨decide (n < 0), digits n.natAbs, [], none⟩ (ofInt n) := by
  have h : Literal.Written ⟨decide (n < 0), digits n.natAbs, [], none⟩ _ :=
    .intro (whole_digits n.natAbs) .none .none
  by_cases hn : n < 0
  · simpa [ofInt, hn] using h
  · simpa [ofInt, hn] using h

theorem endsNumber_nil : EndsNumber [] := by
  rintro c ⟨⟩

theorem read_ofInt (atEnd : Cause) (n : Int) :
    Reads (Literal.read atEnd (ofInt n)) ⟨decide (n < 0), digits n.natAbs, [], none⟩ [] := by
  have h := Literal.read_of_written atEnd (written_ofInt n) endsNumber_nil
  rwa [List.append_nil] at h

end Digits

namespace Number

/-- The text of a number is read as the number when nothing follows it. -/
def ReadsBack (n : Number) : Prop := Reads (Number.read n.text) n []

theorem ReadsBack.append {n : Number} (h : n.ReadsBack) {rest : List Char}
    (hrest : EndsNumber rest) :
    Reads (Number.read (n.text ++ rest)) n rest := by
  obtain ⟨lt, h⟩ := h
  exact Number.read_append h hrest

theorem readsBack_int {n : Int} (hmin : -9223372036854775808 ≤ n) (hmax : n ≤ uint64Max) :
    (Number.int n).ReadsBack := by
  obtain ⟨hlt, hread⟩ := read_ofInt .endInValue n
  have hvalue : Literal.value ⟨decide (n < 0), digits n.natAbs, [], none⟩ = some (.int n) := by
    generalize hm : n.natAbs = m
    rcases Int.lt_or_le n 0 with hn | hn
    · have habs : 0 < m ∧ m ≤ 9223372036854775808 := by omega
      have hneg : -(m : Int) = n := by omega
      simp [Literal.value, natOfDigits_digits, Literal.isInteger, hn, habs, hneg]
    · have habs : m ≤ uint64Max := by omega
      have hpos : (m : Int) = n := by omega
      simp [Literal.value, natOfDigits_digits, Literal.isInteger, Int.not_lt.mpr hn, habs, hpos]
  have hunread : Literal.unread ⟨decide (n < 0), digits n.natAbs, [], none⟩ = none := rfl
  show Reads (Number.read (ofInt n)) _ _
  simp only [Number.read, hread, bind, Except.bind, hunread, hvalue]
  exact ⟨_, rfl⟩

/-- A zero keeps its sign. -/
theorem readsBack_zero (negative : Bool) :
    (Number.float ⟨negative, 0, Binary64.minExponent⟩).ReadsBack := by
  cases negative <;> exact ⟨by decide, rfl⟩

end Number

end PackageMarket.Json
