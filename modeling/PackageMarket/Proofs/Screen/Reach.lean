import PackageMarket.Proofs.Screen.Canvas
import PackageMarket.Screen.Draw
import PackageMarket.Screen.Line

set_option autoImplicit false

/-!
How far the parts of the screen reach. Lines of text stay in their row, a border on the edges of its
panel, a bar in its column, and nothing changes the size of the canvas.
-/

namespace PackageMarket.Screen

def Cell.showing (g : Option Glyph) (c : Cell) : Cell :=
  match g with
  | some g => c.put g.symbol g.style
  | none => c

@[simp] theorem Cell.showing_none : Cell.showing none = id := rfl

/-- The glyph that begins in a column of a row, if there is one. What has no width is not seen. -/
def Row.glyphAt : Row → Nat → Option Glyph
  | [], _ => none
  | g :: gs, x =>
    if g.width = 0 then glyphAt gs x
    else if x = 0 then some g
    else if x < g.width then none
    else glyphAt gs (x - g.width)

def glyphIn (rows : List Row) (y x : Nat) : Option Glyph := (rows[y]?.getD []).glyphAt x

open Canvas

variable {p : Nat → Nat → Prop}

theorem cell?_drawRow (y x : Nat) (r : Row) (c : Canvas) (u v : Nat) :
    (Row.draw y x r c).cell? u v =
      if v = y ∧ x ≤ u then (c.cell? u v).map (Cell.showing (r.glyphAt (u - x)))
        else c.cell? u v := by
  induction r generalizing x c with
  | nil => simp [Row.draw, Row.glyphAt]
  | cons g gs ih =>
    by_cases hg : g.width = 0
    · simp only [Row.draw, Row.glyphAt, if_pos hg, ih]
    simp only [Row.draw, Row.glyphAt, if_neg hg, ih, cell?_edit]
    by_cases hbehind : v = y ∧ x + g.width ≤ u
    · rw [if_pos hbehind, if_neg (by omega), if_pos (by omega), if_neg (by omega),
        if_neg (by omega), Nat.sub_sub]
    rw [if_neg hbehind]
    by_cases hfirst : u = x ∧ v = y
    · rw [if_pos hfirst, if_pos (by omega), if_pos (by omega)]
      rfl
    rw [if_neg hfirst]
    by_cases hrow : v = y ∧ x ≤ u
    · -- The rest of a wide glyph shows what was there.
      rw [if_pos hrow, if_neg (by omega), if_pos (by omega), Cell.showing_none, Option.map_id, id]
    · rw [if_neg hrow]

theorem onlyAt_drawRow {y : Nat} (h : ∀ x : Nat, p x y) (x : Nat) (r : Row) (c : Canvas) :
    OnlyAt p c (Row.draw y x r c) := by
  induction r generalizing x c with
  | nil => exact .refl c
  | cons g gs ih =>
    unfold Row.draw
    split
    · exact ih x c
    · exact (onlyAt_edit c _ (h x)).trans (ih _ _)

def drawDown (y x : Nat) (rs : List Row) (c : Canvas) : Canvas :=
  (rs.foldl (fun (y, c) r => (y + 1, Row.draw y x r c)) (y, c)).2

theorem drawDown_cons (y x : Nat) (r : Row) (rs : List Row) (c : Canvas) :
    drawDown y x (r :: rs) c = drawDown (y + 1) x rs (Row.draw y x r c) := rfl

theorem drawRows_eq (rows : List Row) (skip : Nat) (a : Area) (c : Canvas) :
    drawRows rows skip a c =
      if a.isEmpty then c
        else drawDown a.y.toNat a.x.toNat ((rows.drop skip).take a.height.toNat) c := rfl

theorem cell?_drawDown (y x : Nat) (rs : List Row) (c : Canvas) (u v : Nat) :
    (drawDown y x rs c).cell? u v =
      if y ≤ v ∧ x ≤ u then (c.cell? u v).map (Cell.showing (glyphIn rs (v - y) (u - x)))
        else c.cell? u v := by
  induction rs generalizing y c with
  | nil => simp [drawDown, glyphIn, Row.glyphAt]
  | cons r rs ih =>
    rw [drawDown_cons, ih, cell?_drawRow]
    by_cases hfirst : v = y ∧ x ≤ u
    · obtain ⟨rfl, hx⟩ := hfirst
      rw [if_neg (by omega), if_pos ⟨rfl, hx⟩, if_pos ⟨Nat.le_refl v, hx⟩, Nat.sub_self]
      rfl
    rw [if_neg hfirst]
    by_cases hbelow : y + 1 ≤ v ∧ x ≤ u
    · have hnext : v - y = v - (y + 1) + 1 := by omega
      rw [if_pos hbelow, if_pos (by omega), hnext]
      rfl
    · rw [if_neg hbelow, if_neg (by omega)]

theorem onlyAt_drawDown {y : Nat} (rs : List Row)
    (h : ∀ x v : Nat, y ≤ v → v < y + rs.length → p x v) (x : Nat) (c : Canvas) :
    OnlyAt p c (drawDown y x rs c) := by
  induction rs generalizing y c with
  | nil => exact .refl c
  | cons r rs ih =>
    rw [List.length_cons] at h
    rw [drawDown_cons]
    exact (onlyAt_drawRow (fun u => h u y (Nat.le_refl y) (by omega)) x r c).trans
      (ih (fun u v hv hv' => h u v (by omega) (by omega)) _)

/-- A row of the area shows the row of the text that is so far behind those that are skipped. -/
theorem cell?_drawRows {a : Area} {x y : Nat} (hx : x < a.width.toNat) (hy : y < a.height.toNat)
    (rows : List Row) (skip : Nat) (c : Canvas) :
    (drawRows rows skip a c).cell? (a.x.toNat + x) (a.y.toNat + y) =
      (c.cell? (a.x.toNat + x) (a.y.toNat + y)).map (Cell.showing (glyphIn rows (skip + y) x)) := by
  have hempty : ¬a.isEmpty := Area.not_isEmpty_iff.mpr ⟨Nat.zero_lt_of_lt hx, Nat.zero_lt_of_lt hy⟩
  rw [drawRows_eq, if_neg hempty, cell?_drawDown,
    if_pos ⟨Nat.le_add_right _ _, Nat.le_add_right _ _⟩, Nat.add_sub_cancel_left,
    Nat.add_sub_cancel_left, glyphIn, List.getElem?_take_of_lt hy, List.getElem?_drop]
  rfl

theorem onlyAt_drawRows {a : Area}
    (h : ∀ x y : Nat, a.y.toNat ≤ y → y < a.y.toNat + a.height.toNat → p x y) (rows : List Row)
    (skip : Nat) (c : Canvas) : OnlyAt p c (drawRows rows skip a c) := by
  rw [drawRows_eq]
  split
  · exact .refl c
  · refine onlyAt_drawDown _ (fun x y hy hy' => h x y hy ?_) _ c
    have hlength := List.length_take_le a.height.toNat (rows.drop skip)
    omega

end PackageMarket.Screen

namespace PackageMarket.Screen

open Canvas Market

abbrev SameSize (c d : Canvas) : Prop := OnlyAt (fun _ _ => True) c d

variable {p : Nat → Nat → Prop}

section

variable {y : Nat} (h : ∀ x : Nat, p x y)

include h

theorem onlyAt_drawGlyphs (start right x : Nat) (first : Bool) (gs : List Glyph) (c : Canvas) :
    OnlyAt p c (drawGlyphs start y right x first gs c) := by
  induction gs generalizing x first c with
  | nil => exact .refl c
  | cons g gs ih =>
    simp only [drawGlyphs]
    split
    · exact .refl c
    · refine .trans ?_ (.trans (onlyAt_editRow _ y _ _ _ fun x _ _ => h x) (ih _ _ _))
      split
      · exact onlyAt_edit c _ (h _)
      split
      · exact onlyAt_edit c _ (h _)
      split
      · exact onlyAt_edit c _ (h _)
      · exact onlyAt_edit c _ (h _)

end

section

variable {a : Area} (h : ∀ x : Nat, p x a.y.toNat)

include h

theorem onlyAt_drawSpan (s : Span) (c : Canvas) : OnlyAt p c (s.draw a c) := by
  unfold Span.draw
  dsimp only
  split
  · exact .refl c
  · exact onlyAt_drawGlyphs h _ _ _ _ _ c

theorem onlyAt_drawSpans (l : List (Span × Nat × Nat)) (c : Canvas) :
    OnlyAt p c (Line.drawSpans l a c) := by
  induction l generalizing a c with
  | nil => exact .refl c
  | cons x l ih =>
    obtain ⟨s, w, offset⟩ := x
    simp only [Line.drawSpans]
    split
    · exact .refl c
    · exact (onlyAt_drawSpan (a := a.indent offset) h s c).trans
        (ih (a := (a.indent offset).indent w) h _)

theorem onlyAt_drawLine (l : Line) (c : Canvas) : OnlyAt p c (l.draw a c) := by
  unfold Line.draw
  dsimp only
  split
  · exact .refl c
  · exact onlyAt_drawSpans (a := { c.clip a with height := 1 }) h _ c

theorem onlyAt_drawRight (l : Line) (c : Canvas) : OnlyAt p c (l.drawRight a c) := by
  unfold Line.drawRight
  dsimp only
  split
  · exact .refl c
  split
  · exact onlyAt_drawSpans (a := { c.clip a with height := 1 }.indent _) h _ c
  · exact onlyAt_drawSpans (a := { c.clip a with height := 1 }) h _ c

end

def OnEdge (a : Area) (x y : Nat) : Prop :=
  x = a.x.toNat ∨ x = a.right.toNat - 1 ∨ y = a.y.toNat ∨ y = a.bottom.toNat - 1

theorem eq_of_lt_plus_one {n : UInt16} {x : Nat} (hx : n.toNat ≤ x) (hx' : x < (plus n 1).toNat) :
    x = n.toNat := by
  have hone : (1 : UInt16).toNat = 1 := rfl
  rw [toNat_plus, hone] at hx'
  omega

theorem onlyAt_restyle {e : Area} (h : ∀ x : Nat, p x e.y.toNat) (he : e.height = 1) (c : Canvas)
    (style : Style) : OnlyAt p c (c.restyle e style) := by
  refine onlyAt_editArea c e _ fun x y _ _ hy hy' => ?_
  rw [Area.bottom, he] at hy'
  rw [eq_of_lt_plus_one hy hy']
  exact h x

section

variable {a : Area} (h : ∀ x y : Nat, OnEdge a x y → p x y)

include h

theorem onlyAt_drawBorder (panel : Panel) (c : Canvas) : OnlyAt p c (panel.drawBorder a c) := by
  have hright : (a.right.toNat - 1).toUInt16.toNat = a.right.toNat - 1 :=
    toNat_toUInt16_of_lt (Nat.lt_of_le_of_lt (Nat.sub_le _ _) a.right.toNat_lt)
  have hbottom : (a.bottom.toNat - 1).toUInt16.toNat = a.bottom.toNat - 1 :=
    toNat_toUInt16_of_lt (Nat.lt_of_le_of_lt (Nat.sub_le _ _) a.bottom.toNat_lt)
  unfold Panel.drawBorder
  dsimp only
  -- The corners, which are drawn last.
  refine .trans ?_ (onlyAt_edit _ _ (h _ _ (.inl rfl)))
  refine .trans ?_ (onlyAt_edit _ _ (h _ _ (.inl rfl)))
  refine .trans ?_ (onlyAt_edit _ _ (h _ _ (.inr (.inl rfl))))
  refine .trans ?_ (onlyAt_edit _ _ (h _ _ (.inr (.inl rfl))))
  refine .trans ?_ (onlyAt_editArea _ _ _ fun x y _ _ hy hy' => h x y ?_)
  · refine .trans ?_ (onlyAt_editArea _ _ _ fun x y hx hx' _ _ => h x y ?_)
    · refine .trans ?_ (onlyAt_editArea _ _ _ fun x y _ _ hy hy' => h x y ?_)
      · exact onlyAt_editArea _ _ _ fun x y hx hx' _ _ => h x y (.inl (eq_of_lt_plus_one hx hx'))
      · exact .inr (.inr (.inl (eq_of_lt_plus_one hy hy')))
    · exact .inr (.inl ((eq_of_lt_plus_one hx hx').trans hright))
  · exact .inr (.inr (.inr ((eq_of_lt_plus_one hy hy').trans hbottom)))

theorem onlyAt_drawTitle (panel : Panel) (c : Canvas) : OnlyAt p c (panel.drawTitle a c) := by
  have htop (x : Nat) : p x a.y.toNat := h x _ (.inr (.inr (.inl rfl)))
  unfold Panel.drawTitle
  dsimp only
  split
  · exact .refl c
  · refine .trans (onlyAt_restyle ?_ rfl c _) (onlyAt_drawLine ?_ _ _)
    · exact htop
    · exact htop

theorem onlyAt_drawNote (panel : Panel) (ha : ¬a.isEmpty) (c : Canvas) :
    OnlyAt p c (panel.drawNote a c) := by
  have hlast : (a.bottom - 1).toNat = a.bottom.toNat - 1 := by
    have hone : (1 : UInt16).toNat = 1 := rfl
    have hheight := (Area.not_isEmpty_iff.mp ha).2
    refine UInt16.toNat_sub_of_le _ _ (UInt16.le_iff_toNat_le.mpr ?_)
    rw [Area.bottom, toNat_plus, hone]
    omega
  have hbottom (x : Nat) : p x (a.bottom - 1).toNat := h x _ (.inr (.inr (.inr hlast)))
  unfold Panel.drawNote
  dsimp only
  split
  · exact .refl c
  split
  · exact .refl c
  · refine .trans (onlyAt_restyle ?_ rfl c _) (onlyAt_drawRight ?_ _ _)
    · exact hbottom
    · exact hbottom

end

theorem sameSize_restyle (c : Canvas) (a : Area) (style : Style) : SameSize c (c.restyle a style) :=
  onlyAt_editArea c a _ fun _ _ _ _ _ _ => trivial

theorem sameSize_drawPanel (panel : Panel) (a : Area) (c : Canvas) :
    SameSize c (panel.draw a c) := by
  unfold Panel.draw
  dsimp only
  split
  · exact .refl c
  · rename_i ha
    refine .trans ?_ (onlyAt_drawNote (fun _ _ _ => trivial) panel ha _)
    refine .trans ?_ (onlyAt_drawTitle (fun _ _ _ => trivial) panel _)
    exact (sameSize_restyle c _ _).trans (onlyAt_drawBorder (fun _ _ _ => trivial) panel _)

theorem sameSize_drawList (items : List Line) (a : Area) (c : Canvas) :
    SameSize c (Listing.draw items a c) := by
  have hfrom (y : Nat) (ls : List Line) (c : Canvas) : SameSize c (Listing.drawFrom y a ls c) := by
    induction ls generalizing y c with
    | nil => exact .refl c
    | cons l ls ih => exact (onlyAt_drawLine (fun _ => trivial) l c).trans (ih _ _)
  unfold Listing.draw
  split
  · exact .refl c
  · exact hfrom _ _ c

theorem sameSize_drawMarked (highlight : Style) (selected i y : Nat) (a : Area) (ls : List Line)
    (c : Canvas) : SameSize c (Listing.drawMarked highlight selected i y a ls c) := by
  induction ls generalizing i y c with
  | nil => exact .refl c
  | cons l ls ih =>
    have hitem (row : Area) (mark : Span) : SameSize c (mark.draw row (l.draw (row.indent 1) c)) :=
      .trans (onlyAt_drawLine (fun _ => trivial) l c) (onlyAt_drawSpan (fun _ => trivial) mark _)
    simp only [Listing.drawMarked]
    split
    · exact (hitem _ _).trans (.trans (sameSize_restyle _ _ _) (ih _ _ _))
    · exact (hitem _ _).trans (ih _ _ _)

theorem sameSize_drawSelected (items : List Line) (selected : Nat) (highlight : Style) (a : Area)
    (c : Canvas) : SameSize c (Listing.drawSelected items selected highlight a c) := by
  unfold Listing.drawSelected
  split
  · exact .refl c
  · exact sameSize_drawMarked _ _ _ _ _ _ c

theorem onlyAt_drawScrollbar {a : Area} (h : ∀ y : Nat, p (a.right.toNat - 1) y) (max row : Nat)
    (c : Canvas) : OnlyAt p c (Scrollbar.draw max row a c) := by
  unfold Scrollbar.draw
  dsimp only
  split
  · exact .refl c
  · refine .trans ?_ (onlyAt_edit _ _ (h _))
    refine .trans ?_ (.foldl (fun c i _ => onlyAt_edit c _ (h _)) _)
    exact onlyAt_edit c _ (h _)

theorem sameSize_drawRows (rows : List Row) (skip : Nat) (a : Area) (c : Canvas) :
    SameSize c (drawRows rows skip a c) :=
  onlyAt_drawRows (fun _ _ _ _ => trivial) rows skip c

theorem sameSize_drawItems (panel : Panel) (items : List Line) (none : String) (a : Area)
    (c : Canvas) : SameSize c (drawItems panel items none a c) :=
  (sameSize_drawPanel panel a c).trans (sameSize_drawList _ _ _)

theorem sameSize_drawOffers (s : State) (a : Area) (c : Canvas) : SameSize c (drawList s a c) := by
  unfold drawList
  dsimp only
  split
  · exact (sameSize_drawPanel _ _ _).trans (sameSize_drawList _ _ _)
  · exact (sameSize_drawPanel _ _ _).trans (sameSize_drawSelected _ _ _ _ _)

theorem sameSize_drawSide (s : State) (top bottom : Area) (c : Canvas) :
    SameSize c (drawSide s top bottom c) := by
  unfold drawSide
  split
  · exact (sameSize_drawItems _ _ _ _ _).trans (sameSize_drawItems _ _ _ _ _)
  · exact (((sameSize_drawPanel _ _ _).trans (sameSize_drawRows _ _ _ _)).trans
      (sameSize_drawPanel _ _ _)).trans
      (sameSize_drawRows _ _ _ _)

theorem sameSize_drawPage (s : State) (a : Area) (c : Canvas) : SameSize c (drawPage s a c) := by
  have hheader (a : Area) (c : Canvas) : SameSize c (drawHeader s a c) :=
    (sameSize_restyle c _ _).trans (sameSize_drawRows _ _ _ _)
  exact (((hheader _ _).trans (sameSize_drawOffers s _ _)).trans (sameSize_drawSide s _ _ _)).trans
    (sameSize_drawRows _ _ _ _)

theorem sameSize_drawBody (r : Role) (d : Dialog) (a : Area) (c : Canvas) :
    SameSize c (drawBody r d a c) := by
  have hscroll (ls : List Line) (v : Scroll) : SameSize c (drawScroll ls v a c) := by
    unfold drawScroll
    dsimp only
    split
    · exact sameSize_drawRows _ _ _ _
    · exact (sameSize_drawRows _ _ _ _).trans (onlyAt_drawScrollbar (fun _ => trivial) _ _ _)
  cases d with
  | registerPkg x | updatePkg x => exact (sameSize_restyle c _ _).trans (sameSize_drawRows _ _ _ _)
  | details name text v | message title m v => exact hscroll _ _
  | _ => exact sameSize_drawRows _ _ _ _

theorem sameSize_drawDialog (r : Role) (onTop : Bool) (screen : Area) (d : Dialog) (f : Frame) :
    SameSize f.canvas (drawDialog r onTop screen d f).canvas := by
  have hclear : SameSize f.canvas (f.canvas.clear (dialogArea screen d)) :=
    onlyAt_editArea _ _ _ fun _ _ _ _ _ _ => trivial
  unfold drawDialog
  dsimp only
  split
  · exact hclear.trans (sameSize_drawPanel _ _ _)
  · exact ((hclear.trans (sameSize_drawPanel _ _ _)).trans (sameSize_drawBody r d _ _)).trans
      (sameSize_drawRows _ _ _ _)

theorem sameSize_foldl_drawDialog (r : Role) (screen : Area) (ds : List OpenDialog) (f : Frame) :
    SameSize f.canvas (ds.foldl (fun f d => drawDialog r false screen d.dialog f) f).canvas := by
  induction ds generalizing f with
  | nil => exact .refl _
  | cons d ds ih => exact (sameSize_drawDialog r false screen d.dialog f).trans (ih _)

end PackageMarket.Screen
