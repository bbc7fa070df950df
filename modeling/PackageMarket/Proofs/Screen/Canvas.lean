import PackageMarket.Screen.Canvas

set_option autoImplicit false

/-!
Words as numbers, and rectangles of which the far sides are words too. On these, nothing that is
computed of a rectangle depends on words being short.
-/

namespace PackageMarket.Screen

section

variable (a b : UInt16)

theorem toNat_minus : (minus a b).toNat = a.toNat - b.toNat := by
  unfold minus
  split
  · have hlt := UInt16.lt_iff_toNat_lt.mp ‹a < b›
    exact (Nat.sub_eq_zero_of_le (Nat.le_of_lt hlt)).symm
  · exact UInt16.toNat_sub_of_le a b (UInt16.not_lt.mp ‹_›)

theorem toNat_plus : (plus a b).toNat = min (a.toNat + b.toNat) 65535 := by
  unfold plus
  split
  · rw [UInt16.toNat_add]
    omega
  · have hlargest : (65535 : UInt16).toNat = 65535 := rfl
    omega

theorem toNat_min : (min a b).toNat = min a.toNat b.toNat := by
  have hmin : min a b = if a ≤ b then a else b := rfl
  rw [hmin, Nat.min_def]
  simp only [UInt16.le_iff_toNat_le]
  split <;> rfl

theorem toNat_max : (max a b).toNat = max a.toNat b.toNat := by
  have hmax : max a b = if a ≤ b then b else a := rfl
  rw [hmax, Nat.max_def]
  simp only [UInt16.le_iff_toNat_le]
  split <;> rfl

theorem toNat_toUInt16 (n : Nat) : n.toUInt16.toNat = n % 65536 := rfl

theorem toNat_toUInt16_of_lt {n : Nat} (h : n < 65536) : n.toUInt16.toNat = n := Nat.mod_eq_of_lt h

end

namespace Area

/-- The sides on the right and below are words. -/
structure OnGrid (a : Area) : Prop where
  right : a.x.toNat + a.width.toNat ≤ 65535
  bottom : a.y.toNat + a.height.toNat ≤ 65535

instance (a : Area) : Decidable a.OnGrid :=
  decidable_of_iff (_ ∧ _) ⟨fun h => ⟨h.1, h.2⟩, fun h => ⟨h.right, h.bottom⟩⟩

structure Has (a : Area) (x y : UInt16) : Prop where
  left : a.x.toNat ≤ x.toNat
  right : x.toNat < a.x.toNat + a.width.toNat
  top : a.y.toNat ≤ y.toNat
  bottom : y.toNat < a.y.toNat + a.height.toNat

structure Within (b a : Area) : Prop where
  left : a.x.toNat ≤ b.x.toNat
  right : b.x.toNat + b.width.toNat ≤ a.x.toNat + a.width.toNat
  top : a.y.toNat ≤ b.y.toNat
  bottom : b.y.toNat + b.height.toNat ≤ a.y.toNat + a.height.toNat

variable {a b c : Area}

theorem Within.trans (hab : Within a b) (hbc : Within b c) : Within a c :=
  ⟨Nat.le_trans hbc.left hab.left, Nat.le_trans hab.right hbc.right, Nat.le_trans hbc.top hab.top,
    Nat.le_trans hab.bottom hbc.bottom⟩

theorem OnGrid.within (h : a.OnGrid) (hb : Within b a) : b.OnGrid :=
  ⟨Nat.le_trans hb.right h.right, Nat.le_trans hb.bottom h.bottom⟩

theorem OnGrid.toNat_right (h : a.OnGrid) : a.right.toNat = a.x.toNat + a.width.toNat :=
  (toNat_plus a.x a.width).trans (Nat.min_eq_left h.right)

theorem OnGrid.toNat_bottom (h : a.OnGrid) : a.bottom.toNat = a.y.toNat + a.height.toNat :=
  (toNat_plus a.y a.height).trans (Nat.min_eq_left h.bottom)

theorem clipped_of_le {x y width height : UInt16} (hx : x.toNat + width.toNat ≤ 65535)
    (hy : y.toNat + height.toNat ≤ 65535) : clipped x y width height = ⟨x, y, width, height⟩ := by
  have hmin {first size : UInt16} (h : first.toNat + size.toNat ≤ 65535) :
      min size (65535 - first) = size := by
    have hlargest : (65535 : UInt16).toNat = 65535 := rfl
    have hfirst : first ≤ 65535 := UInt16.le_iff_toNat_le.mpr (by omega)
    rw [← UInt16.toNat_inj, toNat_min, UInt16.toNat_sub_of_le _ _ hfirst]
    omega
  rw [clipped, hmin hx, hmin hy]

theorem within_inside (h : a.OnGrid) : Within a.inside a := by
  have hright := h.toNat_right
  have hbottom := h.toNat_bottom
  have hx := h.right
  have hy := h.bottom
  have hone : (1 : UInt16).toNat = 1 := rfl
  constructor <;> simp only [inside, toNat_min, toNat_minus, toNat_plus, hone] <;> omega

theorem bottom_inside (h : a.OnGrid) (hrows : 0 < a.inside.height.toNat) :
    a.inside.y.toNat + a.inside.height.toNat + 1 = a.y.toNat + a.height.toNat := by
  have hbottom := h.toNat_bottom
  have hy := h.bottom
  have hone : (1 : UInt16).toNat = 1 := rfl
  simp only [inside, toNat_min, toNat_minus, toNat_plus, hone] at hrows ⊢
  omega

theorem toNat_inside (h : a.OnGrid) (hwidth : 0 < a.inside.width.toNat)
    (hheight : 0 < a.inside.height.toNat) :
    a.inside.x.toNat = a.x.toNat + 1 ∧ a.inside.y.toNat = a.y.toNat + 1 ∧
      a.inside.width.toNat + 2 = a.width.toNat ∧ a.inside.height.toNat + 2 = a.height.toNat := by
  have hone : (1 : UInt16).toNat = 1 := rfl
  have hfirst {first size far : UInt16} (hfar : far.toNat = first.toNat + size.toNat)
      (hword : first.toNat + size.toNat ≤ 65535) (hsize : 1 ≤ size.toNat) :
      (min (plus first 1) far).toNat = first.toNat + 1 := by
    have hnext : first.toNat + 1 ≤ first.toNat + size.toNat := Nat.add_le_add_left hsize _
    rw [toNat_min, toNat_plus, hone, hfar, Nat.min_eq_left (Nat.le_trans hnext hword),
      Nat.min_eq_left hnext]
  simp only [inside, toNat_minus, hone] at hwidth hheight ⊢
  exact ⟨hfirst h.toNat_right h.right (by omega), hfirst h.toNat_bottom h.bottom (by omega), by
    omega, by omega⟩

theorem not_isEmpty_iff : ¬a.isEmpty ↔ 0 < a.width.toNat ∧ 0 < a.height.toNat := by
  have hzero (w : UInt16) : w = 0 ↔ w.toNat = 0 := (UInt16.toNat_inj (b := 0)).symm
  simp only [isEmpty, Bool.or_eq_true, decide_eq_true_eq, hzero]
  omega

end Area

namespace Canvas

def cell? (c : Canvas) (x y : Nat) : Option Cell :=
  if x < c.width ∧ y < c.height then c.cells[y * c.width + x]? else none

def Full (c : Canvas) : Prop := c.cells.size = c.width * c.height

/-- A canvas before and after drawing: of one size, and with the same cells but where `p` holds. -/
structure OnlyAt (p : Nat → Nat → Prop) (c d : Canvas) : Prop where
  width : d.width = c.width
  height : d.height = c.height
  size : d.cells.size = c.cells.size
  cell : ∀ x y : Nat, ¬p x y → d.cell? x y = c.cell? x y

variable {p : Nat → Nat → Prop} {c d e : Canvas} {f : Cell → Cell} {x y : Nat}

theorem full_blank (width height : Nat) : (blank width height).Full := Array.size_replicate

theorem Full.isSome_cell? (h : c.Full) (hx : x < c.width) (hy : y < c.height) :
    (c.cell? x y).isSome := by
  have hlt : y * c.width + x < c.cells.size := by
    rw [h, Nat.mul_comm c.width]
    exact Nat.lt_of_lt_of_le (Nat.add_lt_add_left hx _)
      (by rw [← Nat.succ_mul]; exact Nat.mul_le_mul_right _ hy)
  simp [cell?, hx, hy, hlt]

namespace OnlyAt

theorem refl (c : Canvas) : OnlyAt p c c := ⟨rfl, rfl, rfl, fun _ _ _ => rfl⟩

theorem trans (h : OnlyAt p c d) (h' : OnlyAt p d e) : OnlyAt p c e :=
  ⟨h'.width.trans h.width, h'.height.trans h.height, h'.size.trans h.size,
    fun x y hp => (h'.cell x y hp).trans (h.cell x y hp)⟩

theorem full (h : OnlyAt p c d) (hc : c.Full) : d.Full := by
  rw [Full, h.size, h.width, h.height]
  exact hc

theorem foldl {α : Type} {g : Canvas → α → Canvas} {as : List α}
    (h : ∀ c : Canvas, ∀ a ∈ as, OnlyAt p c (g c a)) (c : Canvas) : OnlyAt p c (as.foldl g c) := by
  induction as generalizing c with
  | nil => exact refl c
  | cons a as ih =>
    obtain ⟨ha, has⟩ : (∀ c, OnlyAt p c (g c a)) ∧ ∀ c, ∀ a ∈ as, OnlyAt p c (g c a) :=
      ⟨fun c => h c a List.mem_cons_self, fun c b hb => h c b (List.mem_cons_of_mem a hb)⟩
    exact (ha c).trans (ih has _)

end OnlyAt

/-- Cells that are not in one place do not have one index. -/
theorem place_eq {n x y u v : Nat} (hx : x < n) (hu : u < n) (h : y * n + x = v * n + u) :
    u = x ∧ v = y := by
  have hmod := congrArg (· % n) h
  have hdiv := congrArg (· / n) h
  have hn : 0 < n := Nat.zero_lt_of_lt hx
  simp only [Nat.add_comm (_ * n), Nat.add_mul_mod_self_right, Nat.mod_eq_of_lt hx,
    Nat.mod_eq_of_lt hu, Nat.add_mul_div_right _ _ hn, Nat.div_eq_of_lt hx, Nat.div_eq_of_lt hu,
    Nat.zero_add] at hmod hdiv
  exact ⟨hmod.symm, hdiv.symm⟩

theorem shape_edit (c : Canvas) (x y : Nat) (f : Cell → Cell) :
    (c.edit x y f).width = c.width ∧ (c.edit x y f).height = c.height ∧
      (c.edit x y f).cells.size = c.cells.size := by
  unfold edit
  split <;> simp

theorem cell?_edit (c : Canvas) (x y : Nat) (f : Cell → Cell) (u v : Nat) :
    (c.edit x y f).cell? u v = if u = x ∧ v = y then (c.cell? u v).map f else c.cell? u v := by
  obtain ⟨hwidth, hheight, -⟩ := shape_edit c x y f
  simp only [cell?, hwidth, hheight]
  by_cases hin : u < c.width ∧ v < c.height
  · simp only [if_pos hin, edit, Bool.and_eq_true, decide_eq_true_eq]
    split
    · rename_i hedit
      have hindex : y * c.width + x = v * c.width + u ↔ u = x ∧ v = y :=
        ⟨place_eq hedit.1 hin.1, by rintro ⟨rfl, rfl⟩; rfl⟩
      simp only [Array.getElem?_modify, hindex]
    · rename_i hedit
      rw [if_neg]
      rintro ⟨rfl, rfl⟩
      exact hedit hin
  · simp [hin]

theorem onlyAt_edit (c : Canvas) (f : Cell → Cell) (h : p x y) : OnlyAt p c (c.edit x y f) := by
  obtain ⟨hwidth, hheight, hsize⟩ := shape_edit c x y f
  refine ⟨hwidth, hheight, hsize, fun u v hp => ?_⟩
  rw [cell?_edit, if_neg]
  rintro ⟨rfl, rfl⟩
  exact hp h

theorem cell?_foldl_edit (f : Cell → Cell) (y n : Nat) (c : Canvas) (x u v : Nat) :
    ((List.range' x n).foldl (fun c x => c.edit x y f) c).cell? u v =
      if v = y ∧ x ≤ u ∧ u < x + n then (c.cell? u v).map f else c.cell? u v := by
  induction n generalizing c x with
  | zero =>
    rw [if_neg (by omega)]
    rfl
  | succ n ih =>
    rw [List.range'_succ, List.foldl_cons, ih, cell?_edit]
    by_cases hfirst : u = x ∧ v = y
    · rw [if_neg (by omega), if_pos hfirst, if_pos (by omega)]
    · rw [if_neg hfirst]
      congr 1
      exact propext (by omega)

theorem cell?_editRow (c : Canvas) (y start stop : Nat) (f : Cell → Cell) (u v : Nat) :
    (c.editRow y start stop f).cell? u v =
      if v = y ∧ start ≤ u ∧ u < stop then (c.cell? u v).map f else c.cell? u v := by
  rw [editRow, cell?_foldl_edit]
  by_cases hu : u < c.width
  · congr 1
    exact propext (by omega)
  · have hnone : c.cell? u v = none := by simp [cell?, hu]
    simp [hnone]

theorem onlyAt_editRow (c : Canvas) (y start stop : Nat) (f : Cell → Cell)
    (h : ∀ x : Nat, start ≤ x → x < stop → p x y) : OnlyAt p c (c.editRow y start stop f) :=
  .foldl (fun c x hx => onlyAt_edit c f (h x (by simp at hx; omega) (by simp at hx; omega))) c

theorem cell?_foldl_editRow (f : Cell → Cell) (left right n : Nat) (c : Canvas) (y u v : Nat) :
    ((List.range' y n).foldl (fun c y => c.editRow y left right f) c).cell? u v =
      if y ≤ v ∧ v < y + n ∧ left ≤ u ∧ u < right then (c.cell? u v).map f else c.cell? u v := by
  induction n generalizing c y with
  | zero =>
    rw [if_neg (by omega)]
    rfl
  | succ n ih =>
    rw [List.range'_succ, List.foldl_cons, ih, cell?_editRow]
    by_cases hfirst : v = y ∧ left ≤ u ∧ u < right
    · rw [if_neg (by omega), if_pos hfirst, if_pos (by omega)]
    · rw [if_neg hfirst]
      congr 1
      exact propext (by omega)

theorem cell?_editArea (c : Canvas) (a : Area) (f : Cell → Cell) (u v : Nat) :
    (c.editArea a f).cell? u v =
      if a.y.toNat ≤ v ∧ v < a.bottom.toNat ∧ a.x.toNat ≤ u ∧
      u < a.right.toNat then (c.cell? u v).map f
      else c.cell? u v := by
  rw [editArea, cell?_foldl_editRow]
  by_cases hv : v < c.height
  · congr 1
    exact propext (by omega)
  · have hnone : c.cell? u v = none := by simp [cell?, hv]
    simp [hnone]

theorem onlyAt_editArea (c : Canvas) (a : Area) (f : Cell → Cell)
    (h : ∀ x y : Nat, a.x.toNat ≤ x → x < a.right.toNat → a.y.toNat ≤ y →
      y < a.bottom.toNat → p x y) :
    OnlyAt p c (c.editArea a f) :=
  .foldl (fun c y hy => onlyAt_editRow c y _ _ f fun x hx hx' =>
    h x y hx hx' (by simp at hy; omega) (by simp at hy; omega)) c

end Canvas

end PackageMarket.Screen
