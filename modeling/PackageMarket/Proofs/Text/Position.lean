import PackageMarket.Text.Basic

set_option autoImplicit false

/-!
Positions between two characters of a text, in bytes. Scanning the bytes of a text for characters of
one byte is scanning its characters: no other character has such a byte in it.
-/

namespace PackageMarket.Text

variable (a b s : List Char)

theorem size_reverse : size s.reverse = size s := by
  induction s with
  | nil => rfl
  | cons c s ih =>
    rw [List.reverse_cons, size_append, ih]
    simp [size, Nat.add_comm]

theorem length_utf8 : (utf8 s).length = size s := by
  induction s with
  | nil => rfl
  | cons c s ih =>
    have hc : utf8 (c :: s) = String.utf8EncodeChar c ++ utf8 s := rfl
    rw [hc, List.length_append, String.length_utf8EncodeChar, ih, size]

theorem size_eq_zero {s : List Char} : size s = 0 ↔ s = [] := by
  cases s with
  | nil => simp [size]
  | cons c s =>
    have hc := c.utf8Size_pos
    simp only [size, reduceCtorEq, iff_false]
    omega

theorem size_pos {s : List Char} : 0 < size s ↔ s ≠ [] :=
  Nat.pos_iff_ne_zero.trans (not_congr size_eq_zero)

theorem size_lt_size_append {a b : List Char} : size a < size (a ++ b) ↔ b ≠ [] := by
  rw [size_append, ← size_pos]
  omega

@[simp] theorem take_size_append : take (size a) (a ++ b) = a := by
  induction a with
  | nil =>
    cases b with
    | nil => rfl
    | cons c b =>
      have hc := c.utf8Size_pos
      simp only [List.nil_append, size, take]
      rw [if_neg (by omega)]
  | cons c a ih => simp [take, size, ih]

@[simp] theorem drop_size_append : drop (size a) (a ++ b) = b := by
  have h := take_append_drop (size a) (a ++ b)
  rw [take_size_append] at h
  exact List.append_cancel_left h

theorem atBoundary_size_append : AtBoundary (size a) (a ++ b) := by
  rw [AtBoundary, take_size_append]

theorem atBoundary_iff {n : Nat} {s : List Char} :
    AtBoundary n s ↔ ∃ a b : List Char, s = a ++ b ∧ (utf8 a).length = n := by
  constructor
  · intro h
    exact ⟨take n s, drop n s, (take_append_drop n s).symm, by rw [length_utf8]; exact h⟩
  · rintro ⟨a, b, rfl, rfl⟩
    rw [length_utf8]
    exact atBoundary_size_append a b

theorem le_of_mem_utf8EncodeChar {c : Char} (hc : 128 ≤ c.val.toNat) {x : UInt8}
    (hx : x ∈ String.utf8EncodeChar c) : 128 ≤ x.toNat := by
  simp only [String.utf8EncodeChar] at hx
  rw [if_neg (by omega)] at hx
  -- Two, three or four bytes, each with its first bit set.
  split at hx
  · simp only [List.mem_cons, List.not_mem_nil, or_false] at hx
    rcases hx with rfl | rfl <;> rw [UInt8.toNat_ofNat'] <;> omega
  split at hx
  · simp only [List.mem_cons, List.not_mem_nil, or_false] at hx
    rcases hx with rfl | rfl | rfl <;> rw [UInt8.toNat_ofNat'] <;> omega
  · simp only [List.mem_cons, List.not_mem_nil, or_false] at hx
    rcases hx with rfl | rfl | rfl | rfl <;> rw [UInt8.toNat_ofNat'] <;> omega

/-- A byte is the code of an ASCII character only in that character. -/
theorem byte_eq_iff {c d : Char} (hd : d.val.toNat < 128) {x : UInt8}
    (hx : x ∈ String.utf8EncodeChar c) : x = UInt8.ofNat d.val.toNat ↔ c = d := by
  have hchar : c = d ↔ c.val.toNat = d.val.toNat := by rw [← Char.val_inj, ← UInt32.toNat_inj]
  rw [hchar, ← UInt8.toNat_inj, UInt8.toNat_ofNat']
  by_cases hc : 128 ≤ c.val.toNat
  · have hle := le_of_mem_utf8EncodeChar hc hx
    omega
  · simp only [String.utf8EncodeChar] at hx
    rw [if_pos (by omega), List.mem_singleton] at hx
    rw [hx, UInt8.toNat_ofNat']
    omega

theorem utf8EncodeChar_ne_nil (c : Char) : String.utf8EncodeChar c ≠ [] := by
  intro h
  have hlength := String.length_utf8EncodeChar c
  have hpos := c.utf8Size_pos
  rw [h, List.length_nil] at hlength
  omega

theorem dropWhile_flatMap {α β : Type} {f : α → List β} (hf : ∀ c : α, f c ≠ []) {p : β → Bool}
    {q : α → Bool} (h : ∀ (c : α), ∀ x ∈ f c, p x = q c) (l : List α) :
    (l.flatMap f).dropWhile p = (l.dropWhile q).flatMap f := by
  induction l with
  | nil => rfl
  | cons c l ih =>
    rw [List.flatMap_cons, List.dropWhile_cons]
    cases hq : q c with
    | true =>
      rw [List.dropWhile_append_of_pos fun x hx => (h c x hx).trans hq, ih]
      rfl
    | false =>
      obtain ⟨x, xs, hx⟩ := List.exists_cons_of_ne_nil (hf c)
      have hp : p x = false := (h c x (hx ▸ List.mem_cons_self)).trans hq
      rw [hx, List.cons_append, List.dropWhile_cons_of_neg (by simp [hp])]
      simp [hx]

/-- Going back over bytes as long as they keep a condition is going back over characters, if all
bytes of a character agree on it. -/
theorem dropWhile_reverse_utf8 {p : UInt8 → Bool} {q : Char → Bool}
    (h : ∀ (c : Char), ∀ x ∈ String.utf8EncodeChar c, p x = q c) (s : List Char) :
    (utf8 s).reverse.dropWhile p = (utf8 (s.reverse.dropWhile q).reverse).reverse := by
  have hreverse (t : List Char) :
      (utf8 t).reverse = t.reverse.flatMap fun c => (String.utf8EncodeChar c).reverse := by
    rw [utf8, List.reverse_flatMap]
    rfl
  rw [hreverse, hreverse, List.reverse_reverse]
  refine dropWhile_flatMap (fun c => ?_) (fun c x hx => h c x (List.mem_reverse.mp hx)) _
  exact List.reverse_ne_nil_iff.mpr (utf8EncodeChar_ne_nil c)

end PackageMarket.Text
