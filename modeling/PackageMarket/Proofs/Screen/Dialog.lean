import PackageMarket.Proofs.Screen.Canvas
import PackageMarket.Screen.Canvas
import PackageMarket.Screen.Draw

set_option autoImplicit false

namespace PackageMarket.Screen

/-- A stretch in another one: what is free before it is free behind it, or one less. -/
structure Centred (start length first size before behind : Nat) : Prop where
  first_eq : first = start + before
  last_eq : first + size + behind = start + length
  before_le : before ≤ behind
  behind_le : behind ≤ before + 1

theorem Centred.within {a b : Area} {left right top bottom : Nat}
    (hcolumns : Centred a.x.toNat a.width.toNat b.x.toNat b.width.toNat left right)
    (hrows : Centred a.y.toNat a.height.toNat b.y.toNat b.height.toNat top bottom) :
    b.Within a := by
  obtain ⟨hx, hright, -, -⟩ := hcolumns
  obtain ⟨hy, hbottom, -, -⟩ := hrows
  constructor <;> omega

section

variable (length percent least margin : UInt16)

/-- The product needs more than a word, and the part is a word again. -/
theorem toNat_percentOf :
    (percentOf length percent).toNat = length.toNat * min percent.toNat 100 / 100 := by
  have hhundred : (100 : UInt16).toNat = 100 := rfl
  have hle : length.toNat * min percent.toNat 100 / 100 ≤ length.toNat :=
    Nat.div_le_of_le_mul (Nat.mul_comm 100 _ ▸ Nat.mul_le_mul_left _ (Nat.min_le_right _ _))
  rw [percentOf, toNat_min, hhundred, toNat_toUInt16_of_lt (Nat.lt_of_le_of_lt hle length.toNat_lt)]

theorem toNat_popupSize :
    (popupSize length percent least margin).toNat =
      min (max (length.toNat * min percent.toNat 100 / 100) least.toNat)
        (length.toNat - margin.toNat) := by
  rw [popupSize, toNat_min, toNat_max, toNat_percentOf, toNat_minus]

theorem popupSize_le :
    (popupSize length percent least margin).toNat ≤ length.toNat - margin.toNat := by
  rw [toNat_popupSize]
  exact Nat.min_le_right _ _

end

theorem toNat_add_half {start length size : UInt16} (h : start.toNat + length.toNat ≤ 65535)
    (hsize : size.toNat ≤ length.toNat) :
    (start + minus length size / 2).toNat = start.toNat + (length.toNat - size.toNat) / 2 := by
  have htwo : (2 : UInt16).toNat = 2 := rfl
  rw [UInt16.toNat_add, UInt16.toNat_div, toNat_minus, htwo]
  omega

theorem centred_half {start length size : Nat} (h : size ≤ length) :
    Centred start length (start + (length - size) / 2) size ((length - size) / 2)
      (length - size - (length - size) / 2) := by
  constructor <;> omega

section

variable {a : Area} (ha : a.OnGrid) (percentWidth percentHeight leastWidth leastHeight : UInt16)

include ha

theorem popup_eq :
    popup a percentWidth percentHeight leastWidth leastHeight =
      let w := popupSize a.width percentWidth leastWidth 4
      let h := popupSize a.height percentHeight leastHeight 2
      ⟨a.x + minus a.width w / 2, a.y + minus a.height h / 2, w, h⟩ := by
  have hx := ha.right
  have hy := ha.bottom
  have hw := popupSize_le a.width percentWidth leastWidth 4
  have hh := popupSize_le a.height percentHeight leastHeight 2
  refine Area.clipped_of_le ?_ ?_
  · rw [toNat_add_half hx (by omega)]
    omega
  · rw [toNat_add_half hy (by omega)]
    omega

theorem centred_popup :
    let p := popup a percentWidth percentHeight leastWidth leastHeight
    let left := (a.width.toNat - p.width.toNat) / 2
    let top := (a.height.toNat - p.height.toNat) / 2
    Centred a.x.toNat a.width.toNat p.x.toNat p.width.toNat left
      (a.width.toNat - p.width.toNat - left) ∧
      Centred a.y.toNat a.height.toNat p.y.toNat p.height.toNat top
        (a.height.toNat - p.height.toNat - top) := by
  have hwidth := Nat.le_trans (popupSize_le a.width percentWidth leastWidth 4) (Nat.sub_le _ _)
  have hheight := Nat.le_trans (popupSize_le a.height percentHeight leastHeight 2) (Nat.sub_le _ _)
  rw [popup_eq ha]
  exact ⟨toNat_add_half ha.right hwidth ▸ centred_half hwidth,
    toNat_add_half ha.bottom hheight ▸ centred_half hheight⟩

theorem within_popup : (popup a percentWidth percentHeight leastWidth leastHeight).Within a :=
  (centred_popup ha _ _ _ _).1.within (centred_popup ha _ _ _ _).2

/-- A popup has the size that was asked for in hundredths, with its minimum, as far as the margin
allows. It lies in the rectangle, with as many free columns on the left as on the right, or one
less, and as many free rows above as below, or one less; two columns and one row of these are free
wherever there is room for them. These are equations between numbers, so nothing is lost to the
shortness of words; the products of the percentages fit in 32 bits. -/
theorem popups_fit_and_are_centred :
    ∃ left right top bottom : Nat,
      let p := popup a percentWidth percentHeight leastWidth leastHeight
      p.width.toNat =
          min (max (a.width.toNat * min percentWidth.toNat 100 / 100) leastWidth.toNat)
            (a.width.toNat - 4) ∧
        p.height.toNat =
          min (max (a.height.toNat * min percentHeight.toNat 100 / 100) leastHeight.toNat)
            (a.height.toNat - 2) ∧
        Centred a.x.toNat a.width.toNat p.x.toNat p.width.toNat left right ∧
        Centred a.y.toNat a.height.toNat p.y.toNat p.height.toNat top bottom ∧
        p.Within a ∧
        (4 ≤ a.width.toNat → 2 ≤ a.height.toNat → 2 ≤ left ∧ 2 ≤ right ∧ 1 ≤ top ∧ 1 ≤ bottom) ∧
        a.width.toNat * min percentWidth.toNat 100 < UInt32.size ∧
        a.height.toNat * min percentHeight.toNat 100 < UInt32.size := by
  obtain ⟨hcolumns, hrows⟩ := centred_popup ha percentWidth percentHeight leastWidth leastHeight
  have hwidth : (popup a percentWidth percentHeight leastWidth leastHeight).width.toNat = _ :=
    (congrArg (·.width.toNat) (popup_eq ha _ _ _ _)).trans (toNat_popupSize _ _ _ _)
  have hheight : (popup a percentWidth percentHeight leastWidth leastHeight).height.toNat = _ :=
    (congrArg (·.height.toNat) (popup_eq ha _ _ _ _)).trans (toNat_popupSize _ _ _ _)
  have hproduct (length percent : UInt16) : length.toNat * min percent.toNat 100 < UInt32.size := by
    have hle : length.toNat * min percent.toNat 100 ≤ length.toNat * 100 :=
      Nat.mul_le_mul_left _ (Nat.min_le_right _ _)
    have hlt := length.toNat_lt
    have hsize : UInt32.size = 4294967296 := rfl
    omega
  refine ⟨_, _, _, _, hwidth, hheight, hcolumns, hrows, within_popup ha _ _ _ _,
    fun hfour htwo => ?_, hproduct _ _, hproduct _ _⟩
  have hmargins : (4 : UInt16).toNat = 4 ∧ (2 : UInt16).toNat = 2 := ⟨rfl, rfl⟩
  omega

end

/-- In the last columns and rows that there are, with an odd number of free rows. -/
theorem popups_fit_and_are_centred_in_a_corner :
    let a : Area := ⟨65000, 65500, 535, 35⟩
    a.OnGrid ∧ popup a 75 80 60 20 = ⟨65067, 65503, 401, 28⟩ ∧
      ∃ left right top bottom : Nat,
        Centred 65000 535 65067 401 left right ∧ Centred 65500 35 65503 28 top bottom ∧
          2 ≤ left ∧ 2 ≤ right ∧ 1 ≤ top ∧ 1 ≤ bottom := by
  intro a
  have ha : a.OnGrid := by decide
  have hpopup : popup a 75 80 60 20 = ⟨65067, 65503, 401, 28⟩ := by decide
  obtain ⟨left, right, top, bottom, h⟩ := popups_fit_and_are_centred ha 75 80 60 20
  rw [hpopup] at h
  obtain ⟨-, -, hcolumns, hrows, -, hfree, -, -⟩ := h
  exact ⟨ha, hpopup, left, right, top, bottom, hcolumns, hrows, hfree (by decide) (by decide)⟩

end PackageMarket.Screen

namespace PackageMarket

open Screen

theorem Dialog.mapScroll_mapScroll (d : Dialog) (f g : Scroll → Scroll) :
    (d.mapScroll g).mapScroll f = d.mapScroll fun v => f (g v) := by
  cases d <;> rfl

namespace Screen

variable (f : Scroll → Scroll) (a : Area) (d : Dialog)

theorem dialogArea_mapScroll : dialogArea a (d.mapScroll f) = dialogArea a d := by
  cases d <;> rfl

theorem dialogInside_mapScroll : dialogInside a (d.mapScroll f) = dialogInside a d := by
  rw [dialogInside, dialogInside, dialogArea_mapScroll]

theorem viewerLines_mapScroll : viewerLines (d.mapScroll f) = viewerLines d := by
  cases d <;> rfl

theorem exists_measured :
    ∃ g : Scroll → Scroll, measured a d = d.mapScroll g ∧ ∀ v : Scroll, (g v).row = v.row := by
  unfold measured
  split
  · exact ⟨id, by cases d <;> rfl, fun _ => rfl⟩
  · exact ⟨_, rfl, fun _ => rfl⟩

@[simp] theorem measured_measured : measured a (measured a d) = measured a d := by
  cases hi : dialogInside a d with
  | none => simp only [measured, hi]
  | some i =>
    simp only [measured, hi, dialogInside_mapScroll, viewerLines_mapScroll,
      Dialog.mapScroll_mapScroll]

end Screen

namespace State

variable (s : State) (screen : Area)

@[simp] theorem measured_measured : (s.measured screen).measured screen = s.measured screen := by
  simp [measured]

theorem drawPage_measured (a : Area) (c : Canvas) :
    drawPage (s.measured screen) a c = drawPage s a c := by
  have hempty : (s.measured screen).dialogs.isEmpty = s.dialogs.isEmpty := List.isEmpty_map
  have hlist (a : Area) (c : Canvas) : drawList (s.measured screen) a c = drawList s a c := by
    rw [drawList, hempty]
    rfl
  rw [drawPage, hlist]
  rfl

theorem draw_measured : (s.measured screen).draw screen = s.draw screen := by
  rw [draw, draw, drawPage_measured, measured_measured]
  rfl

end State

namespace Screen

variable {screen i : Area} {d : Dialog}

/-- A rectangle that dialogs draw in: it lies on the screen, is not too small,
and leaves two rows below it. -/
structure Body (screen a : Area) : Prop where
  within : a.Within screen
  width : 10 ≤ a.width.toNat
  height : 2 ≤ a.height.toNat
  below : a.y.toNat + a.height.toNat + 2 ≤ screen.y.toNat + screen.height.toNat

theorem dialogArea_within (h : screen.OnGrid) (d : Dialog) :
    (dialogArea screen d).Within screen := by
  cases d <;> exact within_popup h _ _ _ _

theorem dialogInside_eq_some (h : dialogInside screen d = some i) :
    i = (dialogArea screen d).inside ∧ 3 ≤ i.height.toNat ∧ 10 ≤ i.width.toNat := by
  simp only [dialogInside] at h
  split at h
  · cases h
  · rename_i hfits
    cases h
    simp only [Bool.or_eq_true, decide_eq_true_eq, not_or, UInt16.not_lt, UInt16.le_iff_toNat_le]
      at hfits
    exact ⟨rfl, hfits⟩

theorem body_of_dialogInside (h : screen.OnGrid) (hi : dialogInside screen d = some i) :
    Body screen (dialogBody i) := by
  obtain ⟨rfl, hheight, hwidth⟩ := dialogInside_eq_some hi
  have hpopup := dialogArea_within h d
  have hbottom := Area.bottom_inside (h.within hpopup) (Nat.lt_of_lt_of_le (by decide) hheight)
  obtain ⟨hleft, hright, htop, -⟩ := (Area.within_inside (h.within hpopup)).trans hpopup
  have hone : (1 : UInt16) ≤ (dialogArea screen d).inside.height :=
    UInt16.le_iff_toNat_le.mpr (Nat.le_trans (by decide) hheight)
  have hrows : (dialogBody (dialogArea screen d).inside).height.toNat =
      (dialogArea screen d).inside.height.toNat - 1 := UInt16.toNat_sub_of_le _ _ hone
  have hscreen := hpopup.bottom
  exact ⟨⟨hleft, hright, htop, by rw [hrows]; simp only [dialogBody]; omega⟩, hwidth, by omega,
    by rw [hrows]; simp only [dialogBody]; omega⟩

theorem bodyCursor_mapScroll (f : Scroll → Scroll) (d : Dialog) (a : Area) :
    bodyCursor (d.mapScroll f) a = bodyCursor d a := by
  cases d <;> rfl

/-- Where the cursor of a dialog on top is to stand. -/
def dialogCursor (screen : Area) (d : Dialog) : Option (UInt16 × UInt16) :=
  (dialogInside screen d).bind fun i => bodyCursor d (dialogBody i)

theorem dialogCursor_measured (screen : Area) (d : Dialog) :
    dialogCursor screen (measured screen d) = dialogCursor screen d := by
  obtain ⟨g, hg, -⟩ := exists_measured screen d
  rw [hg, dialogCursor, dialogInside_mapScroll]
  simp only [bodyCursor_mapScroll]
  rfl

theorem cursor_drawDialog (r : Market.Role) (onTop : Bool) (screen : Area) (d : Dialog)
    (f : Frame) :
    (drawDialog r onTop screen d f).cursor =
      if onTop then (dialogCursor screen d).or f.cursor else f.cursor := by
  unfold drawDialog dialogCursor
  cases dialogInside screen d with
  | none => cases onTop <;> rfl
  | some i => rfl

theorem cursor_foldl_drawDialog (r : Market.Role) (screen : Area) (ds : List OpenDialog)
    (f : Frame) :
    (ds.foldl (fun f d => drawDialog r false screen d.dialog f) f).cursor = f.cursor := by
  induction ds generalizing f with
  | nil => rfl
  | cons d ds ih =>
    rw [List.foldl_cons, ih, cursor_drawDialog]
    rfl

end Screen

theorem State.cursor_draw (s : State) (screen : Area) :
    (s.draw screen).cursor = s.dialogs.head?.bind fun d => dialogCursor screen d.dialog := by
  unfold draw
  cases hd : s.dialogs with
  | nil => simp [measured, hd]
  | cons top below =>
    have hmeasured : (s.measured screen).dialogs =
        { top with dialog := Screen.measured screen top.dialog } ::
          below.map fun d => { d with dialog := Screen.measured screen d.dialog } := by
      rw [measured, hd]
      rfl
    simp only [hmeasured, cursor_drawDialog, if_true, dialogCursor_measured, List.head?_cons,
      Option.bind_some]
    rw [cursor_foldl_drawDialog, Option.or_none]

theorem State.cursor_draw_of_inside {s : State} {top : OpenDialog} {screen i : Area}
    (htop : s.dialogs.head? = some top) (hi : dialogInside screen top.dialog = some i) :
    (s.draw screen).cursor = bodyCursor top.dialog (dialogBody i) := by
  rw [s.cursor_draw, htop, Option.bind_some, dialogCursor, hi, Option.bind_some]

end PackageMarket
