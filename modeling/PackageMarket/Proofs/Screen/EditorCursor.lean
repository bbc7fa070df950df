import PackageMarket.Proofs.Form.Paste
import PackageMarket.Proofs.Screen.Dialog
import PackageMarket.Proofs.Session.Run

set_option autoImplicit false

/-!
The cursor of an editor, which its text is scrolled to. The offsets are exact and the cell of the
cursor is exact, but the text is scrolled by words, so that the two part where a line or a column is
too far down or right.
-/

namespace PackageMarket

open Screen

namespace Screen

def editorScroll (a : Area) (e : TextField) : Nat × Nat :=
  ((editorOffset a e).1.toUInt16.toNat, (editorOffset a e).2.toUInt16.toNat)

def editorRow (a : Area) (e : TextField) (l : List Char) : Row :=
  truncate a.width.toNat (editorScroll a e).2 [⟨l, Theme.text⟩]

theorem drawEditor_eq (a : Area) (e : TextField) (c : Canvas) :
    drawEditor e a c =
      drawRows (e.lines.map (editorRow a e)) (editorScroll a e).1 a
        (c.restyle (c.clip a) (.bg Theme.dark)) := by
  have hlines : e.lines.map (editorRow a e) =
      (e.lines.map fun l => ([⟨l, Theme.text⟩] : Line)).map
        (truncate a.width.toNat (editorScroll a e).2) := by
    rw [List.map_map]
    rfl
  rw [hlines]
  rfl

/-- The cell of the cursor is one of the area, and shows the line and the
column of the text's cursor. -/
structure InView (a : Area) (e : TextField) : Prop where
  has : a.Has (editorCursor a e).1 (editorCursor a e).2
  line : (editorScroll a e).1 + ((editorCursor a e).2.toNat - a.y.toNat) = e.cursorPosition.1
  column : (editorScroll a e).2 + ((editorCursor a e).1.toNat - a.x.toNat) = e.cursorPosition.2

section

variable {a : Area} (ha : a.OnGrid) (hwidth : 0 < a.width.toNat) (hheight : 0 < a.height.toNat)
    (e : TextField)

theorem toNat_pred_max {n : UInt16} (h : 0 < n.toNat) : (max n 1).toNat.pred = n.toNat - 1 := by
  have hone : (1 : UInt16).toNat = 1 := rfl
  rw [toNat_max, hone, Nat.max_eq_left h, Nat.pred_eq_sub_one]

include hwidth hheight

theorem editorOffset_eq :
    editorOffset a e =
      (e.cursorPosition.1 - (a.height.toNat - 1), e.cursorPosition.2 - (a.width.toNat - 1)) := by
  rw [← toNat_pred_max hwidth, ← toNat_pred_max hheight]
  rfl

theorem editorScroll_eq :
    editorScroll a e =
      ((e.cursorPosition.1 - (a.height.toNat - 1)) % 65536,
        (e.cursorPosition.2 - (a.width.toNat - 1)) % 65536) := by
  rw [editorScroll, editorOffset_eq hwidth hheight]
  rfl

include ha

theorem toNat_editorCursor :
    (editorCursor a e).1.toNat = a.x.toNat + min e.cursorPosition.2 (a.width.toNat - 1) ∧
      (editorCursor a e).2.toNat = a.y.toNat + min e.cursorPosition.1 (a.height.toNat - 1) := by
  have hoffset := editorOffset_eq hwidth hheight e
  have hcursor : editorCursor a e =
      (a.x + (e.cursorPosition.2 - (editorOffset a e).2).toUInt16,
        a.y + (e.cursorPosition.1 - (editorOffset a e).1).toUInt16) := rfl
  have hright := ha.right
  have hbottom := ha.bottom
  simp only [hcursor, hoffset, UInt16.toNat_add, toNat_toUInt16]
  omega

theorem has_editorCursor : a.Has (editorCursor a e).1 (editorCursor a e).2 := by
  obtain ⟨hx, hy⟩ := toNat_editorCursor ha hwidth hheight e
  constructor <;> omega

theorem inView_iff :
    InView a e ↔
      e.cursorPosition.1 < 65535 + a.height.toNat ∧ e.cursorPosition.2 < 65535 + a.width.toNat := by
  obtain ⟨hx, hy⟩ := toNat_editorCursor ha hwidth hheight e
  have hscroll := editorScroll_eq hwidth hheight e
  constructor
  · rintro ⟨-, hline, hcolumn⟩
    rw [hscroll] at hline hcolumn
    dsimp only at hline hcolumn
    omega
  · rintro ⟨hline, hcolumn⟩
    refine ⟨has_editorCursor ha hwidth hheight e, ?_, ?_⟩
    · rw [hscroll]
      dsimp only
      omega
    · rw [hscroll]
      dsimp only
      omega

end

/-- Among the rows that are shown, the one of the cursor is that of the cursor's line. -/
theorem InView.exists_line {a : Area} {e : TextField} (h : InView a e) (he : e.Placed) :
    ∃ l : List Char, e.lines[e.cursorPosition.1]? = some l ∧
      ((e.lines.map (editorRow a e)).drop
          (editorScroll a e).1)[(editorCursor a e).2.toNat - a.y.toNat]? =
        some (editorRow a e l) := by
  obtain ⟨line, column, hat⟩ := he.exists_at
  have hline : e.cursorPosition.1 = line := hat.eq_count.1.symm
  obtain ⟨l, hl⟩ : ∃ l : List Char, e.lines[line]? = some l :=
    ⟨_, List.getElem?_eq_getElem hat.line_lt⟩
  refine ⟨l, by rw [hline, hl], ?_⟩
  rw [List.getElem?_drop, h.line, List.getElem?_map, hline, hl]
  rfl

theorem bodyCursor_of_editor? {d : Dialog} {e : TextField} (h : d.editor? = some e) (a : Area) :
    bodyCursor d a = some (editorCursor a e) := by
  cases d with
  | registerPkg x | updatePkg x =>
    cases h
    rfl
  | _ => cases h

end Screen

namespace State

/-- An editor that is drawn in any area has its cursor in it. The text is scrolled so that the
cursor shows its own line and column exactly if neither is farther from the beginning than a word
and the size of the area reach; the row of the cursor is then that of its line. So it is on every
screen for the editor of a dialog on top. -/
theorem editors_show_their_cursor_within_words {a : Area} (ha : a.OnGrid) :
    (∀ e : TextField, e.Placed → 0 < a.width.toNat → 0 < a.height.toNat →
      a.Has (editorCursor a e).1 (editorCursor a e).2 ∧
        (InView a e ↔
          e.cursorPosition.1 < 65535 + a.height.toNat ∧
          e.cursorPosition.2 < 65535 + a.width.toNat) ∧
        (∀ c : Canvas, drawEditor e a c =
          drawRows (e.lines.map (editorRow a e)) (editorScroll a e).1 a
            (c.restyle (c.clip a) (.bg Theme.dark))) ∧
        (InView a e → ∃ l : List Char, e.lines[e.cursorPosition.1]? = some l ∧
          ((e.lines.map (editorRow a e)).drop
              (editorScroll a e).1)[(editorCursor a e).2.toNat - a.y.toNat]? =
            some (editorRow a e l))) ∧
    ∀ (s : State) (top : OpenDialog) (e : TextField) (i : Area),
      s.dialogs.head? = some top → top.dialog.editor? = some e →
      dialogInside a top.dialog = some i →
      (s.draw a).cursor = some (editorCursor (dialogBody i) e) ∧
        (dialogBody i).Has (editorCursor (dialogBody i) e).1 (editorCursor (dialogBody i) e).2 ∧
        (InView (dialogBody i) e ↔
          e.cursorPosition.1 < 65535 + (dialogBody i).height.toNat ∧
            e.cursorPosition.2 < 65535 + (dialogBody i).width.toNat) := by
  refine ⟨fun e he hwidth hheight =>
    ⟨has_editorCursor ha hwidth hheight e, inView_iff ha hwidth hheight e,
    drawEditor_eq a e, fun hview => hview.exists_line he⟩, fun s top e i htop he hi => ?_⟩
  obtain ⟨hwithin, hwidth, hheight, -⟩ := body_of_dialogInside ha hi
  have hgrid := ha.within hwithin
  refine ⟨?_, has_editorCursor hgrid (by omega) (by omega) e,
    inView_iff hgrid (by omega) (by omega) e⟩
  rw [cursor_draw_of_inside htop hi, bodyCursor_of_editor? he]

end State

namespace Session

def pasteDraft (text : List Char) : List Event :=
  [.input (.key (.press .tab)), .input (.key (.press (.char 'n'))), .input (.paste text)]

def draftWith (text : List Char) : TextField :=
  (Dialog.draftOf .registerPkg Dialog.registerTemplate).editor.insertText text

theorem run_pasteDraft (text : List Char) :
    ∃ ts : List Turn, run (State.fresh .default "00:00:00") (pasteDraft text) = .ok ts ∧
      (last (State.fresh .default "00:00:00") ts).dialogs =
        [⟨0, .registerPkg ⟨.registerPkg, draftWith text⟩⟩] :=
  ⟨[_, _, _], rfl, rfl⟩

theorem dialogInside_draft (d : Draft) :
    dialogInside ⟨0, 0, 80, 24⟩ (.registerPkg d) = some ⟨11, 3, 58, 18⟩ := by
  have hinside : (popup ⟨0, 0, 80, 24⟩ 75 80 60 20).inside = ⟨11, 3, 58, 18⟩ := by decide
  simp only [dialogInside, dialogArea, hinside]
  decide

theorem cursorPosition_draftWith {text : List Char} (h : Text.Narrow text) :
    (draftWith text).cursorPosition = (0, text.length) :=
  TextField.cursorPosition_insertText _ h rfl

theorem cursor_of_pasteDraft {text : List Char} (h : Text.Narrow text) {s : State}
    (hs : s.dialogs = [⟨0, .registerPkg ⟨.registerPkg, draftWith text⟩⟩]) :
    (s.draw ⟨0, 0, 80, 24⟩).cursor = some ((11 + min text.length 57).toUInt16, 3) := by
  obtain ⟨hx, hy⟩ :=
    toNat_editorCursor (a := dialogBody ⟨11, 3, 58, 18⟩) (by decide) (by decide) (by decide)
    (draftWith text)
  have hleft : (dialogBody ⟨11, 3, 58, 18⟩).x.toNat = 11 := rfl
  have hwidth : (dialogBody ⟨11, 3, 58, 18⟩).width.toNat = 58 := rfl
  rw [cursorPosition_draftWith h] at hx hy
  rw [State.cursor_draw_of_inside (congrArg List.head? hs) (dialogInside_draft _)]
  refine congrArg some (Prod.ext ?_ ?_)
  · rw [← UInt16.toNat_inj, toNat_toUInt16_of_lt (by omega), ← hleft]
    rwa [hwidth] at hx
  · rw [← UInt16.toNat_inj]
    exact hy

/-- The second of two lines in an area of one row; and a letter before the text of a new package, on
a terminal of the usual size. -/
theorem editors_show_their_cursor_within_words_of_a_letter :
    let row : Area := ⟨0, 0, 2, 1⟩
    let e : TextField := ⟨"json", "JSON", ['\n', 'x', 'y', 'z'], 4, true⟩
    let a : Area := ⟨0, 0, 80, 24⟩
    let s := State.fresh .default "00:00:00"
    row.OnGrid ∧ e.Placed ∧ e.cursorPosition = (1, 3) ∧ editorScroll row e = (1, 2) ∧
      editorCursor row e = (1, 0) ∧
      InView row e ∧ a.OnGrid ∧
      ∃ (ts : List Turn) (d : Draft),
        run s (pasteDraft ['x']) = .ok ts ∧ (last s ts).dialogs = [⟨0, .registerPkg d⟩] ∧
          ((last s ts).draw a).cursor = some (12, 3) ∧
            InView (dialogBody ⟨11, 3, 58, 18⟩) d.editor := by
  intro row e a s
  have hrow : row.OnGrid := by decide
  have ha : a.OnGrid := by decide
  have hplaced : e.Placed := rfl
  have hnarrow : Text.Narrow ['x'] := by simp [Text.Narrow]
  have hposition : e.cursorPosition = (1, 3) := by decide
  obtain ⟨-, hview, -⟩ :=
    (State.editors_show_their_cursor_within_words hrow).1 e hplaced (by decide) (by decide)
  obtain ⟨ts, hts, hdialogs⟩ := run_pasteDraft ['x']
  have hcolumn : (draftWith ['x']).cursorPosition = (0, 1) := cursorPosition_draftWith hnarrow
  obtain ⟨-, -, hdraft⟩ := (State.editors_show_their_cursor_within_words ha).2 (last s ts) _ _ _
    (congrArg List.head? hdialogs) rfl (dialogInside_draft _)
  exact ⟨hrow, hplaced, hposition, by decide, by decide, hview.mpr (by rw [hposition]; decide), ha,
    ts, _, hts, hdialogs, cursor_of_pasteDraft hnarrow hdialogs,
    hdraft.mpr (by rw [hcolumn]; decide)⟩

/-- A word is too short to scroll a line of this length: the text is shown from its first column on,
and the cursor stands in the last column of the area nevertheless. -/
theorem cursor_behind_long_line_shows_another_column :
    let a : Area := ⟨0, 0, 80, 24⟩
    let s := State.fresh .default "00:00:00"
    ∃ (ts : List Turn) (d : Draft) (i : Area),
      run s (pasteDraft (List.replicate 65593 'a')) = .ok ts ∧
        (last s ts).dialogs = [⟨0, .registerPkg d⟩] ∧
        dialogInside a (.registerPkg d) = some i ∧ d.editor.cursorPosition = (0, 65593) ∧
        editorScroll (dialogBody i) d.editor = (0, 0) ∧ ((last s ts).draw a).cursor = some (68, 3) ∧
        ¬InView (dialogBody i) d.editor := by
  intro a s
  have hnarrow := Text.narrow_replicate 65593
  have hlength : (List.replicate 65593 'a').length = 65593 := List.length_replicate
  have hposition := cursorPosition_draftWith hnarrow
  obtain ⟨ts, hts, hdialogs⟩ := run_pasteDraft (List.replicate 65593 'a')
  have hcursor := cursor_of_pasteDraft hnarrow hdialogs
  have hscroll := editorScroll_eq (a := dialogBody ⟨11, 3, 58, 18⟩) (by decide) (by decide)
    (draftWith (List.replicate 65593 'a'))
  have hview := inView_iff (a := dialogBody ⟨11, 3, 58, 18⟩) (by decide) (by decide) (by decide)
    (draftWith (List.replicate 65593 'a'))
  rw [hlength] at hposition hcursor
  rw [hposition] at hscroll hview
  exact ⟨ts, _, _, hts, hdialogs, dialogInside_draft _, hposition, hscroll, hcursor,
    fun h => absurd (hview.mp h) (by decide)⟩

end Session

end PackageMarket
