import PackageMarket.Proofs.Form.Paste
import PackageMarket.Proofs.Screen.Dialog
import PackageMarket.Proofs.Session.Fields

set_option autoImplicit false

/-!
The cursor of a form. Its column is a sum of words, kept on the area only afterwards, so that it is
the column of the text's cursor as long as the exact sum is a word, and too far on the left behind
that.
-/

namespace PackageMarket

open Screen

namespace Screen

variable {a : Area} {f : Form} {g : TextField} {x y : UInt16}

/-- The column of the cursor: behind the mark, the labels, and the text before the cursor. -/
def formColumn (a : Area) (f : Form) (g : TextField) : Nat :=
  a.x.toNat + 2 + labelWidth f + g.cursorPosition.2

def formWord (a : Area) (f : Form) (g : TextField) : UInt16 :=
  a.x + 2 + (labelWidth f).toUInt16 + g.cursorPosition.2.toUInt16

def formRow (a : Area) (f : Form) : Nat := a.y.toNat + 2 * f.focus + 1

theorem toNat_formWord (a : Area) (f : Form) (g : TextField) :
    (formWord a f g).toNat = formColumn a f g % 65536 := by
  have htwo : (2 : UInt16).toNat = 2 := rfl
  simp only [formWord, formColumn, UInt16.toNat_add, toNat_toUInt16, htwo]
  omega

/-- The cell is one of the area, in the row of the field, and in the column of the text's cursor or
in the last one if that is farther left. -/
structure Marks (a : Area) (f : Form) (g : TextField) (x y : UInt16) : Prop where
  has : a.Has x y
  column : x.toNat = min (formColumn a f g) (a.x.toNat + a.width.toNat - 1)
  row : y.toNat = formRow a f

/-- What is known of the cell where the cursor of a form is drawn: it is the right
one with nothing lost on the way exactly if the exact sum is a word; behind that it
is the right one only by chance. -/
structure MarksWithinWords (a : Area) (f : Form) (g : TextField) (x y : UInt16) : Prop where
  exact_iff : Marks a f g x y ∧ (formWord a f g).toNat = formColumn a f g ↔ formColumn a f g < 65536
  marks_iff : Marks a f g x y ↔
    formColumn a f g < 65536 ∨ a.x.toNat + a.width.toNat - 1 ≤ formColumn a f g % 65536

section

variable (ha : a.OnGrid) (hg : f.focused? = some g)
    (hrows : a.y.toNat + 2 * f.fields.length ≤ 65535)

include ha hg hrows

theorem formCursor_eq :
    formCursor a f =
      if formRow a f < a.y.toNat + a.height.toNat then
        some (min (formWord a f g) (minus a.right 1), (formRow a f).toUInt16)
      else none := by
  have hfocus : f.focus < f.fields.length := (List.getElem?_eq_some_iff.mp hg).1
  have hone : (1 : UInt16).toNat = 1 := rfl
  have hrow : formRow a f < 65536 := by
    unfold formRow
    omega
  have hy : a.y + (2 * f.focus + 2).toUInt16 - 1 = (formRow a f).toUInt16 := by
    rw [← UInt16.toNat_inj, toNat_toUInt16_of_lt hrow, UInt16.toNat_sub, UInt16.toNat_add,
      toNat_toUInt16, hone]
    unfold formRow
    omega
  have hbottom : (formRow a f).toUInt16 < a.bottom ↔ formRow a f < a.y.toNat + a.height.toNat := by
    rw [UInt16.lt_iff_toNat_lt, ha.toNat_bottom, toNat_toUInt16_of_lt hrow]
  simp only [formCursor, hg, hy, hbottom]
  rfl

theorem toNat_of_formCursor (h : formCursor a f = some (x, y)) :
    x.toNat = min (formColumn a f g % 65536) (a.x.toNat + a.width.toNat - 1) ∧
    y.toNat = formRow a f ∧
      formRow a f < a.y.toNat + a.height.toNat := by
  have hone : (1 : UInt16).toNat = 1 := rfl
  have hbottom := ha.bottom
  rw [formCursor_eq ha hg hrows] at h
  split at h
  · rename_i hrow
    cases h
    rw [toNat_min, toNat_formWord, toNat_minus, ha.toNat_right, hone,
      toNat_toUInt16_of_lt (by omega)]
    exact ⟨rfl, rfl, hrow⟩
  · cases h

theorem marksWithinWords (hwidth : 0 < a.width.toNat) (h : formCursor a f = some (x, y)) :
    MarksWithinWords a f g x y := by
  obtain ⟨hx, hy, hrow⟩ := toNat_of_formCursor ha hg hrows h
  have hright := ha.right
  have hleft : a.x.toNat ≤ formColumn a f g := by
    unfold formColumn
    omega
  have htop : a.y.toNat ≤ formRow a f := by
    unfold formRow
    omega
  have hmarks : Marks a f g x y ↔
      formColumn a f g < 65536 ∨ a.x.toNat + a.width.toNat - 1 ≤ formColumn a f g % 65536 := by
    constructor
    · rintro ⟨-, hcolumn, -⟩
      omega
    · intro hfits
      exact ⟨⟨by omega, by omega, by omega, by omega⟩, by omega, hy⟩
  refine ⟨?_, hmarks⟩
  rw [hmarks, toNat_formWord]
  omega

end

end Screen

namespace Session

def IsShort (d : Dialog) : Prop := ∀ f : Form, d.form? = some f → f.fields.length ≤ 2

theorem FormEdit.length_fields {edit : Form → Form} (h : FormEdit edit) (f : Form) :
    (edit f).fields.length = f.fields.length := by
  cases h with
  | next | prev =>
    simp only [Form.focusNext, Form.focusPrev]
    split <;> rfl
  | field _ => exact List.length_modify ..
  | check rules => rfl

theorem Edit.isShort {edit : Dialog → Dialog} (h : Edit edit) {d : Dialog} (hd : IsShort d) :
    IsShort (edit d) := by
  cases h with
  | form he =>
    cases d with
    | selfIssueCash f | feeAgreement f =>
      rintro _ ⟨⟩
      rw [he.length_fields]
      exact hd f rfl
    | _ => exact hd
  | editor he => cases d <;> exact hd
  | scroll code => cases d <;> exact hd

theorem lasting_isShort : Lasting IsShort where
  opening h := by
    cases h with
    | cash _ | fee _ =>
      rintro _ ⟨⟩
      decide
    | _ => exact fun _ hf => nomatch hf
  message _ _ := fun _ hf => nomatch hf
  edit he hd := he.isShort hd

theorem isShort_of_run {s : State} {ts : List Turn} (h : Run s ts) (hs : s.dialogs = []) :
    ∀ r ∈ states s ts, ∀ d ∈ r.dialogs, IsShort d.dialog :=
  h.forall_dialogs lasting_isShort (hs ▸ List.forall_mem_nil _)

theorem bodyCursor_of_form? {d : Dialog} {f : Form} (h : d.form? = some f) (a : Area) :
    bodyCursor d a = formCursor a f := by
  cases d with
  | selfIssueCash g | feeAgreement g =>
    cases h
    rfl
  | _ => cases h

theorem marksWithinWords_of_draw {s : State} {top : OpenDialog} {f : Form} {screen : Area}
    {x y : UInt16} (hscreen : screen.OnGrid) (htop : s.dialogs.head? = some top)
    (hf : top.dialog.form? = some f)
    (hsound : f.Sound) (hshort : f.fields.length ≤ 2) (h : (s.draw screen).cursor = some (x, y)) :
    ∃ (i : Area) (g : TextField), dialogInside screen top.dialog = some i ∧ f.focused? = some g ∧
      MarksWithinWords (dialogBody i) f g x y := by
  rw [s.cursor_draw, htop, Option.bind_some, dialogCursor] at h
  obtain ⟨i, hi, hcursor⟩ := Option.bind_eq_some_iff.mp h
  rw [bodyCursor_of_form? hf] at hcursor
  obtain ⟨g, hg⟩ : ∃ g : TextField, f.focused? = some g :=
    ⟨_, List.getElem?_eq_getElem hsound.focused⟩
  obtain ⟨hwithin, hwidth, hheight, hbelow⟩ := body_of_dialogInside hscreen hi
  have hbottom := hscreen.bottom
  have hrows : (dialogBody i).y.toNat + 2 * f.fields.length ≤ 65535 := by omega
  exact ⟨i, g, hi, hg, marksWithinWords (hscreen.within hwithin) hg hrows (by omega) hcursor⟩

/-- A form that is drawn in any area has a cursor if the row of its field in focus is one of the
area. It stands in that row, in the column of the text's cursor or in the last one if that is
farther left, with nothing lost on the way, exactly if the column by exact sums is a word. So does
the cursor of the terminal whenever a dialog with a form is on top, whatever the events before. -/
theorem form_cursors_mark_the_text_within_words {a : Area} (ha : a.OnGrid) :
    (∀ (f : Form) (g : TextField), f.focused? = some g → 0 < a.width.toNat →
      a.y.toNat + 2 * f.fields.length ≤ 65535 →
      ((formCursor a f).isSome ↔ formRow a f < a.y.toNat + a.height.toNat) ∧
        ∀ x y : UInt16, formCursor a f = some (x, y) → MarksWithinWords a f g x y) ∧
    ∀ (now : Clock.Moment) (settings : Settings) (s : State) (es : List Event),
      State.initial now settings = some s →
      ∃ ts : List Turn, run s es = .ok ts ∧
        ∀ r ∈ states s ts, ∀ (top : OpenDialog) (f : Form) (x y : UInt16),
          r.dialogs.head? = some top → top.dialog.form? = some f → (r.draw a).cursor = some (x, y) →
          ∃ (i : Area) (g : TextField), dialogInside a top.dialog = some i ∧ f.focused? = some g ∧
            MarksWithinWords (dialogBody i) f g x y := by
  refine ⟨fun f g hg hwidth hrows => ⟨?_, fun x y => marksWithinWords ha hg hrows hwidth⟩,
    fun now settings s es h => ?_⟩
  · rw [formCursor_eq ha hg hrows]
    split <;> simp [*]
  · obtain ⟨ts, hts, -⟩ := run_ok (shows_of_initial h).1 es
    obtain ⟨clock, -, rfl⟩ := s.initial_eq_some_iff.mp h
    refine ⟨ts, hts, fun r hr top f x y htop hf hcursor => ?_⟩
    have hmem : top ∈ r.dialogs := List.mem_of_head? htop
    have hsound := (run_of_eq_ok hts).allSound (List.forall_mem_nil _) r hr top hmem
    have hshort := isShort_of_run (run_of_eq_ok hts) rfl r hr top hmem
    exact marksWithinWords_of_draw ha htop hf (sound_of_form? hsound hf) (hshort f hf) hcursor

def cashFormWith (text : List Char) : Form := Dialog.cashForm.editFocused (·.insertText text)

def pasteAmount (text : List Char) : List Event :=
  [.input (.key (.press (.char 'i'))), .input (.paste text)]

theorem run_pasteAmount (text : List Char) :
    ∃ ts : List Turn, run (State.fresh .default "00:00:00") (pasteAmount text) = .ok ts ∧
      (last (State.fresh .default "00:00:00") ts).dialogs =
        [⟨0, .selfIssueCash (cashFormWith text)⟩] :=
  ⟨[_, _], rfl, rfl⟩

theorem dialogInside_cash (f : Form) :
    dialogInside ⟨0, 0, 80, 24⟩ (.selfIssueCash f) = some ⟨16, 6, 48, 12⟩ := by
  have hinside : (popup ⟨0, 0, 80, 24⟩ 50 40 50 14).inside = ⟨16, 6, 48, 12⟩ := by decide
  simp only [dialogInside, dialogArea, hinside]
  decide

theorem formColumn_cashFormWith {text : List Char} (h : Text.Narrow text) (a : Area) :
    ∃ g : TextField, (cashFormWith text).focused? = some g ∧
      formColumn a (cashFormWith text) g = a.x.toNat + 12 + text.length := by
  refine ⟨(TextField.line "amount" "Amount").insertText text, rfl, ?_⟩
  have hlabels : (cashFormWith text).fields.map (·.label.length) =
      ["Amount".length, "Currency".length] := rfl
  have hwidth : labelWidth (cashFormWith text) = 10 := by
    rw [labelWidth, hlabels]
    decide
  rw [formColumn, hwidth, TextField.cursorPosition_insertText _ h rfl]

theorem formCursor_cashFormWith {text : List Char} (h : Text.Narrow text) :
    formCursor (dialogBody ⟨16, 6, 48, 12⟩) (cashFormWith text) =
      some ((min ((28 + text.length) % 65536) 63).toUInt16, 7) := by
  obtain ⟨g, hg, hcolumn⟩ := formColumn_cashFormWith h (dialogBody ⟨16, 6, 48, 12⟩)
  have hlength : (cashFormWith text).fields.length = 2 := rfl
  have hrow : formRow (dialogBody ⟨16, 6, 48, 12⟩) (cashFormWith text) = 7 := rfl
  have hleft : (dialogBody ⟨16, 6, 48, 12⟩).x.toNat = 16 := rfl
  have hright : (minus (dialogBody ⟨16, 6, 48, 12⟩).right 1).toNat = 63 := by decide
  rw [formCursor_eq (by decide) hg (by rw [hlength]; decide), hrow, if_pos (by decide)]
  refine congrArg some (Prod.ext ?_ rfl)
  rw [← UInt16.toNat_inj, toNat_min, toNat_formWord, hright, hcolumn, hleft,
    toNat_toUInt16_of_lt (by omega)]

theorem cursor_of_pasteAmount {text : List Char} (h : Text.Narrow text) {s : State}
    (hs : s.dialogs = [⟨0, .selfIssueCash (cashFormWith text)⟩]) :
    (s.draw ⟨0, 0, 80, 24⟩).cursor = some ((min ((28 + text.length) % 65536) 63).toUInt16, 7) := by
  rw [State.cursor_draw_of_inside (congrArg List.head? hs) (dialogInside_cash _)]
  exact formCursor_cashFormWith h

/-- Two digits, on a terminal of the usual size. -/
theorem form_cursors_mark_the_text_within_words_of_two_digits :
    let a : Area := ⟨0, 0, 80, 24⟩
    let s := State.fresh .default "00:00:00"
    a.OnGrid ∧ State.initial (fun _ => ['0', '0']) .default = some s ∧
      ∃ (ts : List Turn) (i : Area) (f : Form) (g : TextField),
        run s (pasteAmount ['4', '2']) = .ok ts ∧ ((last s ts).draw a).cursor = some (30, 7) ∧
          f.focused? = some g ∧ formColumn (dialogBody i) f g = 30 ∧
            Marks (dialogBody i) f g 30 7 := by
  intro a s
  have ha : a.OnGrid := by decide
  have hinitial := State.initial_default
  have hnarrow : Text.Narrow ['4', '2'] := by simp [Text.Narrow]
  obtain ⟨ts, hts, hdialogs⟩ := run_pasteAmount ['4', '2']
  have hcursor : ((last s ts).draw a).cursor = some (30, 7) :=
    cursor_of_pasteAmount hnarrow hdialogs
  obtain ⟨us, hus, hall⟩ :=
    (form_cursors_mark_the_text_within_words ha).2 _ _ s (pasteAmount ['4', '2']) hinitial
  obtain rfl : ts = us := Except.ok.inj (hts.symm.trans hus)
  have htop : (last s ts).dialogs.head? = some ⟨0, .selfIssueCash (cashFormWith ['4', '2'])⟩ :=
    congrArg List.head? hdialogs
  obtain ⟨i, g, hi, hg, hmarks⟩ := hall _ (last_mem_states s ts) _ _ _ _ htop rfl hcursor
  obtain rfl : (⟨16, 6, 48, 12⟩ : Area) = i := Option.some.inj ((dialogInside_cash _).symm.trans hi)
  obtain ⟨g', hg', hcolumn⟩ := formColumn_cashFormWith hnarrow (dialogBody ⟨16, 6, 48, 12⟩)
  obtain rfl : g = g' := Option.some.inj (hg.symm.trans hg')
  exact ⟨ha, hinitial, ts, _, _, g, hts, hcursor, hg, hcolumn,
    (hmarks.exact_iff.mpr (hcolumn ▸ by decide)).1⟩

/-- Behind as many letters as there are words, the cursor is drawn where the text begins,
and not in the last column. -/
theorem cursor_behind_long_text_is_at_its_beginning :
    let s := State.fresh .default "00:00:00"
    ∃ (ts : List Turn) (f : Form) (g : TextField) (i : Area),
      run s (pasteAmount (List.replicate 65536 'a')) = .ok ts ∧
        (last s ts).dialogs = [⟨0, .selfIssueCash f⟩] ∧ f.focused? = some g ∧
        dialogInside ⟨0, 0, 80, 24⟩ (.selfIssueCash f) = some i ∧
        ((last s ts).draw ⟨0, 0, 80, 24⟩).cursor = some (28, 7) ∧
        min (formColumn (dialogBody i) f g)
          ((dialogBody i).x.toNat + (dialogBody i).width.toNat - 1) = 63 ∧
        ¬Marks (dialogBody i) f g 28 7 := by
  intro s
  have hnarrow := Text.narrow_replicate 65536
  have hlength : (List.replicate 65536 'a').length = 65536 := List.length_replicate
  obtain ⟨ts, hts, hdialogs⟩ := run_pasteAmount (List.replicate 65536 'a')
  have hcursor := cursor_of_pasteAmount hnarrow hdialogs
  obtain ⟨g, hg, hcolumn⟩ := formColumn_cashFormWith hnarrow (dialogBody ⟨16, 6, 48, 12⟩)
  rw [hlength] at hcursor hcolumn
  have hlast :
      min (formColumn (dialogBody ⟨16, 6, 48, 12⟩) (cashFormWith (List.replicate 65536 'a')) g)
      ((dialogBody ⟨16, 6, 48, 12⟩).x.toNat + (dialogBody ⟨16, 6, 48, 12⟩).width.toNat - 1) =
        63 := by
    rw [hcolumn]
    decide
  refine ⟨ts, _, g, _, hts, hdialogs, hg, dialogInside_cash _, hcursor, hlast, fun hmarks => ?_⟩
  have hwrong : (28 : UInt16).toNat = 63 := hmarks.column.trans hlast
  exact absurd hwrong (by decide)

end Session

end PackageMarket
