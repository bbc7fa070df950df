import PackageMarket.Proofs.Screen.Dialog
import PackageMarket.Proofs.Screen.Reach

set_option autoImplicit false

namespace PackageMarket

open Market Screen

theorem Dialog.scroll?_mapScroll (d : Dialog) (f : Scroll → Scroll) :
    (d.mapScroll f).scroll? = d.scroll?.map f := by
  cases d <;> rfl

namespace Screen

open Canvas

def ground : Cell := ⟨[' '], .bg Theme.surface⟩

theorem clip_eq_self {c : Canvas} {a : Area} (h : a.OnGrid) (hright : a.right.toNat ≤ c.width)
    (hbottom : a.bottom.toNat ≤ c.height) : c.clip a = a := by
  have hsize {first size : UInt16} : (first.toNat + size.toNat - first.toNat).toUInt16 = size := by
    rw [Nat.add_sub_cancel_left, ← UInt16.toNat_inj, toNat_toUInt16_of_lt size.toNat_lt]
  rw [clip, Nat.min_eq_left hright, Nat.min_eq_left hbottom, h.toNat_right, h.toNat_bottom,
    hsize, hsize]

/-- Inside its border a panel that is drawn on a cleared area is empty. -/
theorem cell?_drawPanel {c : Canvas} {a : Area} (h : a.OnGrid) (hright : a.right.toNat ≤ c.width)
    (hbottom : a.bottom.toNat ≤ c.height) (panel : Panel) {x y : Nat} (hx : a.x.toNat < x)
    (hx' : x + 1 < a.right.toNat) (hy : a.y.toNat < y) (hy' : y + 1 < a.bottom.toNat) :
    (panel.draw a (c.clear a)).cell? x y = (c.cell? x y).map fun _ =>
      Cell.blank.restyle panel.back := by
  have hclear : SameSize c (c.clear a) := onlyAt_editArea _ _ _ fun _ _ _ _ _ _ => trivial
  have hclip : (c.clear a).clip a = a :=
    clip_eq_self h (by rw [hclear.width]; exact hright) (by rw [hclear.height]; exact hbottom)
  have hempty : ¬a.isEmpty := by
    rw [h.toNat_right] at hx'
    rw [h.toNat_bottom] at hy'
    exact Area.not_isEmpty_iff.mpr (by omega)
  have hedge : ¬OnEdge a x y := by
    unfold OnEdge
    omega
  have hborder (c : Canvas) :
      OnlyAt (OnEdge a) c (panel.drawNote a (panel.drawTitle a (panel.drawBorder a c))) :=
    .trans (.trans (onlyAt_drawBorder (fun _ _ h => h) panel c)
      (onlyAt_drawTitle (fun _ _ h => h) panel _))
      (onlyAt_drawNote (fun _ _ h => h) panel hempty _)
  simp only [Panel.draw, hclip, if_neg hempty]
  have hin : a.y.toNat ≤ y ∧ y < a.bottom.toNat ∧ a.x.toNat ≤ x ∧ x < a.right.toNat := by omega
  rw [(hborder _).cell x y hedge, restyle, clear, cell?_editArea, if_pos hin,
    cell?_editArea, if_pos hin, Option.map_map]
  rfl

def viewerRows (d : Dialog) (body : Area) : List Row :=
  (viewerLines d).flatMap (wrap (scrollArea body).width.toNat)

theorem viewerRows_mapScroll (f : Scroll → Scroll) (d : Dialog) (body : Area) :
    viewerRows (d.mapScroll f) body = viewerRows d body := by
  rw [viewerRows, viewerLines_mapScroll, viewerRows]

theorem toNat_scrollArea (a : Area) : (scrollArea a).width.toNat = a.width.toNat - 1 :=
  toNat_minus a.width 1

theorem maxScroll_eq {a : Area} (hwidth : 2 ≤ a.width.toNat) (d : Dialog) :
    maxScroll (viewerLines d) a = min ((viewerRows d a).length - a.height.toNat) 65535 := by
  have hcolumns := toNat_scrollArea a
  have hne : (scrollArea a).width ≠ 0 := by
    intro hzero
    rw [hzero] at hcolumns
    have hnone : (0 : UInt16).toNat = 0 := rfl
    omega
  rw [maxScroll, wrappedHeight, if_neg hne, viewerRows]

theorem drawBody_of_scroll? {d : Dialog} {v : Scroll} (h : d.scroll? = some v) (r : Role) (a : Area)
    (c : Canvas) : drawBody r d a c = drawScroll (viewerLines d) v a c := by
  cases d with
  | details name text w | message title m w =>
    cases h
    rfl
  | _ => cases h

/-- A row of the body shows the row of the text that is so far behind the
one the text is scrolled to. -/
theorem cell?_drawScroll {a : Area} (h : a.OnGrid) {x y : Nat} (hx : x + 1 < a.width.toNat)
    (hy : y < a.height.toNat) (d : Dialog) (v : Scroll) (c : Canvas) :
    (drawScroll (viewerLines d) v a c).cell? (a.x.toNat + x) (a.y.toNat + y) =
      (c.cell? (a.x.toNat + x) (a.y.toNat + y)).map
        (Cell.showing (glyphIn (viewerRows d a) (v.shown + y) x)) := by
  have hcolumn : x < (scrollArea a).width.toNat := by
    rw [toNat_scrollArea]
    omega
  have htext := cell?_drawRows (a := scrollArea a) hcolumn hy (viewerRows d a) v.shown c
  unfold drawScroll
  dsimp only
  split
  · exact htext
  · -- The bar has its own column.
    have hbar (c : Canvas) :
        OnlyAt (fun x _ => x = a.right.toNat - 1) c (Scrollbar.draw v.max v.shown a c) :=
      onlyAt_drawScrollbar (fun _ => rfl) _ _ c
    refine ((hbar _).cell _ _ ?_).trans htext
    rw [h.toNat_right]
    omega

def terminal (width height : UInt16) : Area := ⟨0, 0, width, height⟩

theorem onGrid_terminal (width height : UInt16) : (terminal width height).OnGrid := by
  have hzero : (0 : UInt16).toNat = 0 := rfl
  have hwidth := width.toNat_lt
  have hheight := height.toNat_lt
  constructor <;> simp only [terminal, hzero] <;> omega

variable {width height : UInt16} {i : Area} {d : Dialog} {v : Scroll} {x y : Nat}

theorem toNat_dialogHelp (hi : i.OnGrid) (hheight : 0 < i.height.toNat) :
    (dialogHelp i).y.toNat = i.y.toNat + i.height.toNat - 1 ∧
    (dialogBody i).height.toNat = i.height.toNat - 1 := by
  have hone : (1 : UInt16).toNat = 1 := rfl
  have hbottom := hi.bottom
  have hlast : (i.y + i.height).toNat = i.y.toNat + i.height.toNat := by
    rw [UInt16.toNat_add]
    omega
  refine ⟨?_, UInt16.toNat_sub_of_le _ _ (UInt16.le_iff_toNat_le.mpr hheight)⟩
  rw [dialogHelp, UInt16.toNat_sub_of_le _ _ (UInt16.le_iff_toNat_le.mpr (by omega)), hlast, hone]

theorem cell?_drawDialog (hv : d.scroll? = some v)
    (hi : dialogInside (terminal width height) d = some i)
    (hx : x + 1 < i.width.toNat) (hy : y + 1 < i.height.toNat) (r : Role) (onTop : Bool) {f : Frame}
    (hf : SameSize (.blank width.toNat height.toNat) f.canvas) :
    (drawDialog r onTop (terminal width height) d f).canvas.cell? (i.x.toNat + x) (i.y.toNat + y) =
      some (ground.showing (glyphIn (viewerRows d (dialogBody i)) (v.shown + y) x)) := by
  have hgrid := onGrid_terminal width height
  have hwithin := dialogArea_within hgrid d
  obtain ⟨hinside, htall, hwide⟩ := dialogInside_eq_some hi
  generalize ha : dialogArea (terminal width height) d = a at hwithin hinside
  have harea := hgrid.within hwithin
  rw [hinside] at htall hwide
  obtain ⟨hleft, htop, hcolumns, hrows⟩ := Area.toNat_inside harea (by omega) (by omega)
  rw [← hinside] at hleft htop hcolumns hrows
  have hi' : i.OnGrid := hinside ▸ harea.within (Area.within_inside harea)
  obtain ⟨hhelp, hbody⟩ := toNat_dialogHelp hi' (by omega)
  have hright := harea.toNat_right
  have hbottom := harea.toNat_bottom
  have hright' : a.right.toNat ≤ width.toNat := by
    have hfar : a.x.toNat + a.width.toNat ≤ 0 + width.toNat := hwithin.right
    omega
  have hbottom' : a.bottom.toNat ≤ height.toNat := by
    have hfar : a.y.toNat + a.height.toNat ≤ 0 + height.toNat := hwithin.bottom
    omega
  have hpanel (panel : Panel) (hback : panel.back = .bg Theme.surface) :
      (panel.draw a (f.canvas.clear a)).cell? (i.x.toNat + x) (i.y.toNat + y) = some ground := by
    obtain ⟨c, hc⟩ := Option.isSome_iff_exists.mp <|
      (hf.full (Canvas.full_blank _ _)).isSome_cell? (x := i.x.toNat + x) (y := i.y.toNat + y)
        (by rw [hf.width]; show _ < width.toNat; omega)
          (by rw [hf.height]; show _ < height.toNat; omega)
    rw [cell?_drawPanel harea (by rw [hf.width]; exact hright')
      (by rw [hf.height]; exact hbottom') panel
      (by omega) (by omega) (by omega) (by omega), hc, hback]
    rfl
  -- The help is below the text.
  have hkeys (c : Canvas) : OnlyAt (fun _ v => v = (dialogHelp i).y.toNat) c
      (drawLines [keyLine (dialogKeys d)] (dialogHelp i) c) := by
    refine onlyAt_drawRows (fun x v hv hv' => ?_) _ _ _
    have hone : (dialogHelp i).height.toNat = 1 := rfl
    omega
  have hbodyGrid : (dialogBody i).OnGrid := by
    have hlast := hi'.bottom
    refine ⟨hi'.right, ?_⟩
    rw [hbody]
    show i.y.toNat + _ ≤ _
    omega
  simp only [drawDialog, hi, ha]
  rw [(hkeys _).cell _ _ (by omega), drawBody_of_scroll? hv]
  refine (cell?_drawScroll hbodyGrid hx (by omega) d v _).trans ?_
  exact congrArg _ (hpanel _ rfl)

end Screen

namespace State

variable {s : State} {top : OpenDialog} {v : Scroll} {width height : UInt16} {i : Area} {x y : Nat}

/-- What a terminal shows of the text of the topmost dialog: its body begins with the row that the
text is scrolled to, as far as that goes now that the text has been laid out. -/
theorem cell?_draw (hs : s.dialogs.head? = some top) (hv : top.dialog.scroll? = some v)
    (hi : dialogInside (terminal width height) top.dialog = some i) (hx : x + 1 < i.width.toNat)
    (hy : y + 1 < i.height.toNat) :
    (s.draw (terminal width height)).canvas.cell? (i.x.toNat + x) (i.y.toNat + y) =
      some (ground.showing (glyphIn (viewerRows top.dialog (dialogBody i))
        (min v.row (maxScroll (viewerLines top.dialog) (dialogBody i)) + y) x)) := by
  obtain ⟨below, hdialogs⟩ := List.head?_eq_some_iff.mp hs
  have hmeasured : (s.measured (terminal width height)).dialogs =
      { top with dialog := Screen.measured (terminal width height) top.dialog } ::
        below.map fun d =>
          { d with dialog := Screen.measured (terminal width height) d.dialog } := by
    rw [measured, hdialogs]
    rfl
  have hlaid : Screen.measured (terminal width height) top.dialog =
      top.dialog.mapScroll fun v =>
        { v with max := maxScroll (viewerLines top.dialog) (dialogBody i) } := by
    simp only [Screen.measured, hi]
  have hv' : (Screen.measured (terminal width height) top.dialog).scroll? =
      some { v with max := maxScroll (viewerLines top.dialog) (dialogBody i) } := by
    rw [hlaid, Dialog.scroll?_mapScroll, hv]
    rfl
  have hi' : dialogInside (terminal width height)
      (Screen.measured (terminal width height) top.dialog) = some i := by
    rw [hlaid, dialogInside_mapScroll, hi]
  have hrows : viewerRows (Screen.measured (terminal width height) top.dialog) (dialogBody i) =
      viewerRows top.dialog (dialogBody i) := by
    rw [hlaid, viewerRows_mapScroll]
  unfold draw
  simp only [hmeasured]
  refine (cell?_drawDialog hv' hi' hx hy _ true ?_).trans ?_
  · exact (sameSize_drawPage s _ _).trans
      (sameSize_foldl_drawDialog s.role _ _ ⟨drawPage s _ (.blank width.toNat height.toNat), none⟩)
  · rw [hrows]
    rfl

end State

end PackageMarket
