import PackageMarket.Proofs.Form.TextField
import PackageMarket.Proofs.Text.Lines

set_option autoImplicit false

namespace PackageMarket.TextField

open Text

def lines (f : TextField) : List (List Char) := splitOn '\n' f.text

def lineLength (f : TextField) (line : Nat) : Nat := (f.lines.getD line []).length

/-- The cursor is so many characters into a line: behind the bytes of the lines above, each with its
line break, and of these characters. -/
structure At (f : TextField) (line column : Nat) : Prop where
  line_lt : line < f.lines.length
  column_le : column ≤ f.lineLength line
  cursor : f.cursor =
    (utf8 (ended '\n' (f.lines.take line) ++ (f.lines.getD line []).take column)).length

theorem lastLine_ended (ps : List (List Char)) {q : List Char} (h : '\n' ∉ q) :
    lastLine (ended '\n' ps ++ q) = q := by
  have hq : ∀ c ∈ q.reverse, (c != '\n') = true := fun c hc => by
    simpa using ne_of_mem_of_not_mem (List.mem_reverse.mp hc) h
  have hps : (ended '\n' ps).reverse.takeWhile (· != '\n') = [] := by
    rcases List.eq_nil_or_concat ps with rfl | ⟨ps, p, rfl⟩
    · rfl
    · rw [List.concat_eq_append, ended_concat, List.reverse_append]
      rfl
  rw [lastLine, List.reverse_append, List.takeWhile_append_of_pos hq, hps, List.append_nil,
    List.reverse_reverse]

theorem linesAbove_ended (ps : List (List Char)) {q : List Char} (h : '\n' ∉ q) :
    linesAbove (ended '\n' ps ++ q) = ended '\n' ps := by
  have hall := linesAbove_append_lastLine (ended '\n' ps ++ q)
  rw [lastLine_ended ps h] at hall
  exact List.append_cancel_right hall

theorem firstLine_begun {q : List Char} (h : '\n' ∉ q) (ps : List (List Char)) :
    firstLine (q ++ begun '\n' ps) = q := by
  have hq : ∀ c ∈ q, (c != '\n') = true := fun c hc => by
    simpa using ne_of_mem_of_not_mem hc h
  have hps : (begun '\n' ps).takeWhile (· != '\n') = [] := by
    cases ps with
    | nil => rfl
    | cons p ps => rw [begun_cons]; rfl
  rw [firstLine, List.takeWhile_append_of_pos hq, hps, List.append_nil]

theorem linesBelow_begun {q : List Char} (h : '\n' ∉ q) (ps : List (List Char)) :
    linesBelow (q ++ begun '\n' ps) = begun '\n' ps := by
  have hall := firstLine_append_linesBelow (q ++ begun '\n' ps)
  rw [firstLine_begun h ps] at hall
  exact List.append_cancel_left hall

def onLine (f : TextField) (above : List (List Char)) (l : List Char) (below : List (List Char))
    (column : Nat) : TextField :=
  f.between (ended '\n' above ++ l.take column) (l.drop column ++ begun '\n' below)

def Unbroken (ls : List (List Char)) : Prop := ∀ l ∈ ls, '\n' ∉ l

variable (f : TextField) {above below : List (List Char)} {k l : List Char} {line column : Nat}

theorem unbroken_lines : Unbroken f.lines := fun _ hl => not_mem_of_mem_splitOn hl

namespace Unbroken

theorem init (h : Unbroken (above ++ l :: below)) : Unbroken above :=
  fun p hp => h p (List.mem_append_left _ hp)

theorem take (h : Unbroken (above ++ l :: below)) (n : Nat) : '\n' ∉ l.take n :=
  fun hmem => h l (by simp) (List.mem_of_mem_take hmem)

theorem drop (h : Unbroken (above ++ l :: below)) (n : Nat) : '\n' ∉ l.drop n :=
  fun hmem => h l (by simp) (List.mem_of_mem_drop hmem)

theorem next (h : Unbroken (above ++ k :: l :: below)) : Unbroken (above ++ [k] ++ l :: below) := by
  simpa using h

end Unbroken

theorem text_onLine :
    (f.onLine above l below column).text = joinWith ['\n'] (above ++ l :: below) := by
  rw [joinWith_around, onLine, text_between, List.append_assoc, ← List.append_assoc (l.take column),
    List.take_append_drop, List.append_assoc]

theorem lines_onLine (h : Unbroken (above ++ l :: below)) :
    (f.onLine above l below column).lines = above ++ l :: below := by
  rw [lines, text_onLine, splitOn_joinWith (by simp) h]

theorem at_onLine (h : Unbroken (above ++ l :: below)) (hcolumn : column ≤ l.length) :
    (f.onLine above l below column).At above.length column := by
  have hlines : (f.onLine above l below column).lines = above ++ l :: below := f.lines_onLine h
  have hline : (f.onLine above l below column).lines.getD above.length [] = l := by simp [hlines]
  refine ⟨by simp [hlines], by rwa [lineLength, hline], ?_⟩
  rw [hline, hlines, List.take_left, length_utf8]
  rfl

theorem eq_between_of {f : TextField} {a b : List Char} (htext : f.text = a ++ b)
    (hcursor : f.cursor = size a) : f = f.between a b := by
  rw [between, ← htext, ← hcursor]

theorem At.exists_onLine {f : TextField} (h : f.At line column) :
    ∃ (above : List (List Char)) (l : List Char) (below : List (List Char)),
      Unbroken (above ++ l :: below) ∧ above.length = line ∧ column ≤ l.length ∧
        f = f.onLine above l below column := by
  obtain ⟨hlt, hle, hcursor⟩ := h
  have hline : f.lines.getD line [] = f.lines[line] := by
    rw [List.getD_eq_getElem?_getD, List.getElem?_eq_getElem hlt, Option.getD_some]
  rw [lineLength, hline] at hle
  rw [hline, length_utf8] at hcursor
  have hlines : f.lines = f.lines.take line ++ f.lines[line] :: f.lines.drop (line + 1) := by
    rw [← List.drop_eq_getElem_cons hlt, List.take_append_drop]
  refine ⟨_, _, _, hlines ▸ f.unbroken_lines, List.length_take_of_le (Nat.le_of_lt hlt), hle, ?_⟩
  refine eq_between_of ?_ hcursor
  calc f.text = joinWith ['\n'] f.lines := (joinWith_splitOn '\n' f.text).symm
    _ = joinWith ['\n'] (f.lines.take line ++ f.lines[line] :: f.lines.drop (line + 1)) := by
      rw [← hlines]
    _ = _ := (f.text_onLine).symm

theorem Placed.exists_onLine {f : TextField} (h : f.Placed) :
    ∃ (above : List (List Char)) (l : List Char) (below : List (List Char)) (column : Nat),
      Unbroken (above ++ l :: below) ∧ column ≤ l.length ∧ f = f.onLine above l below column := by
  obtain ⟨above, q, hbefore, habove, hq⟩ := exists_ended_append '\n' f.before
  obtain ⟨r, below, hsplit⟩ := exists_splitOn_eq_cons '\n' f.after
  have hpieces (p : List Char) (hp : p ∈ r :: below) :
      '\n' ∉ p := not_mem_of_mem_splitOn (hsplit ▸ hp)
  have hafter : f.after = r ++ begun '\n' below := by
    rw [← joinWith_cons, ← hsplit, joinWith_splitOn]
  obtain ⟨hr, hbelow⟩ := List.forall_mem_cons.mp hpieces
  refine ⟨above, q ++ r, below, q.length, ?_, by simp, ?_⟩
  · simp only [Unbroken, List.forall_mem_append, List.forall_mem_cons]
    exact ⟨habove, by simp [hq, hr], hbelow⟩
  rw [onLine, List.take_left, List.drop_left, ← hbefore, ← hafter]
  exact h.eq_between

section Moves

variable (h : Unbroken (above ++ l :: below))

include h

theorem moveHome_onLine : (f.onLine above l below column).moveHome = f.onLine above l below 0 := by
  rw [onLine, moveHome_between, linesAbove_ended _ (h.take column),
    lastLine_ended _ (h.take column), ← List.append_assoc, List.take_append_drop, onLine]
  simp

theorem moveEnd_onLine :
    (f.onLine above l below column).moveEnd = f.onLine above l below l.length := by
  rw [onLine, moveEnd_between, firstLine_begun (h.drop column), linesBelow_begun (h.drop column),
    List.append_assoc, List.take_append_drop, onLine]
  simp

theorem moveUp_onLine_first : (f.onLine [] l below column).moveUp = f.onLine [] l below column :=
  f.moveUp_between_of_nil _ _ (linesAbove_ended [] (h.take column))

theorem moveDown_onLine_last : (f.onLine above l [] column).moveDown = f.onLine above l [] column :=
  f.moveDown_between_of_nil _ _ (linesBelow_begun (h.drop column) [])

end Moves

theorem moveUp_onLine (h : Unbroken (above ++ k :: l :: below)) (hcolumn : column ≤ l.length) :
    (f.onLine (above ++ [k]) l below column).moveUp =
      f.onLine above k (l :: below) (min column k.length) := by
  have hk : '\n' ∉ k := h k (by simp)
  have hl : '\n' ∉ l.take column := h.next.take column
  have habove : linesAbove (ended '\n' (above ++ [k]) ++ l.take column) =
      ended '\n' above ++ k ++ ['\n'] := by
    rw [linesAbove_ended _ hl, ended_concat]
  have hlength : (l.take column).length = column := List.length_take_of_le hcolumn
  rw [onLine, f.moveUp_between _ habove, lastLine_ended _ hl, linesAbove_ended _ hk,
    lastLine_ended _ hk, hlength, onLine, begun_cons]
  rw [← List.append_assoc (l.take column), List.take_append_drop, ← List.take_eq_take_min,
    ← List.drop_eq_drop_min]

theorem moveDown_onLine (h : Unbroken (above ++ l :: k :: below)) (hcolumn : column ≤ l.length) :
    (f.onLine above l (k :: below) column).moveDown =
      f.onLine (above ++ [l]) k below (min column k.length) := by
  have hk : '\n' ∉ k := h k (by simp)
  have hbelow : linesBelow (l.drop column ++ begun '\n' (k :: below)) =
      '\n' :: (k ++ begun '\n' below) := by
    rw [linesBelow_begun (h.drop column), begun_cons]
  have hlength : (l.take column).length = column := List.length_take_of_le hcolumn
  rw [onLine, f.moveDown_between _ hbelow, lastLine_ended _ (h.take column),
    firstLine_begun (h.drop column), firstLine_begun hk, linesBelow_begun hk, hlength, onLine,
    ended_concat]
  rw [List.append_assoc (ended '\n' above), List.take_append_drop, ← List.take_eq_take_min,
    ← List.drop_eq_drop_min]

theorem lineLength_of_lines {f : TextField} (h : f.lines = above ++ l :: below) :
    f.lineLength above.length = l.length := by
  simp [lineLength, h]

theorem exists_below {f : TextField} (h : f.lines = above ++ l :: below)
    (hnext : above.length + 1 < f.lines.length) :
    ∃ (k : List Char) (ks : List (List Char)), below = k :: ks := by
  rw [h, List.length_append, List.length_cons] at hnext
  exact List.exists_cons_of_length_pos (by omega)

theorem Placed.exists_at {f : TextField} (h : f.Placed) :
    ∃ line column : Nat, f.At line column := by
  obtain ⟨above, l, below, column, hlines, hcolumn, hf⟩ := h.exists_onLine
  rw [hf]
  exact ⟨above.length, column, f.at_onLine hlines hcolumn⟩

namespace At

variable {f : TextField}

/-- The line and the column can be told from what is before the cursor. -/
theorem eq_count (h : f.At line column) :
    line = f.before.count '\n' ∧ column = (lastLine f.before).length := by
  obtain ⟨above, l, below, hlines, rfl, hcolumn, hf⟩ := h.exists_onLine
  have hbefore : f.before = ended '\n' above ++ l.take column := by
    rw [hf]
    exact f.before_between _ _
  rw [hbefore, lastLine_ended _ (hlines.take column), List.count_append, count_ended hlines.init,
    List.count_eq_zero.mpr (hlines.take column), List.length_take_of_le hcolumn]
  exact ⟨rfl, rfl⟩

theorem moveUp_first (h : f.At 0 column) : f.moveUp = f := by
  obtain ⟨above, l, below, hlines, habove, -, hf⟩ := h.exists_onLine
  obtain rfl := List.length_eq_zero_iff.mp habove
  rw [hf]
  exact f.moveUp_onLine_first hlines

theorem moveUp (h : f.At (line + 1) column) :
    f.moveUp.At line (min column (f.lineLength line)) := by
  obtain ⟨above, l, below, hlines, habove, hcolumn, hf⟩ := h.exists_onLine
  rcases List.eq_nil_or_concat above with rfl | ⟨above, k, rfl⟩
  · cases habove
  · rw [List.concat_eq_append] at hlines habove hf
    obtain rfl : above.length = line := by simpa using habove
    have hk : (f.onLine (above ++ [k]) l below column).lines = above ++ k :: l :: below := by
      simp [f.lines_onLine hlines]
    have hnext : Unbroken (above ++ k :: l :: below) := by simpa using hlines
    rw [hf, lineLength_of_lines hk, f.moveUp_onLine hnext hcolumn]
    exact f.at_onLine hnext (Nat.min_le_right column k.length)

theorem moveDown_last (h : f.At line column) (hlast : line + 1 = f.lines.length) :
    f.moveDown = f := by
  obtain ⟨above, l, below, hlines, rfl, -, hf⟩ := h.exists_onLine
  rw [hf, f.lines_onLine hlines, List.length_append, List.length_cons] at hlast
  obtain rfl : below = [] := List.length_eq_zero_iff.mp (by omega)
  rw [hf]
  exact f.moveDown_onLine_last hlines

theorem moveDown (h : f.At line column) (hnext : line + 1 < f.lines.length) :
    f.moveDown.At (line + 1) (min column (f.lineLength (line + 1))) := by
  obtain ⟨above, l, below, hlines, rfl, hcolumn, hf⟩ := h.exists_onLine
  rw [hf] at hnext ⊢
  obtain ⟨k, below, rfl⟩ := exists_below (f.lines_onLine hlines) hnext
  have hat := f.at_onLine hlines.next (Nat.min_le_right column k.length)
  have hlength : (above ++ [l]).length = above.length + 1 := by simp
  rw [hlength] at hat
  have hk : (f.onLine above l (k :: below) column).lineLength (above.length + 1) = k.length := by
    simp [lineLength, f.lines_onLine hlines]
  rwa [hk, f.moveDown_onLine hlines hcolumn]

theorem moveHome (h : f.At line column) : f.moveHome.At line 0 := by
  obtain ⟨above, l, below, hlines, rfl, -, hf⟩ := h.exists_onLine
  rw [hf, f.moveHome_onLine hlines]
  exact f.at_onLine hlines (Nat.zero_le _)

theorem moveEnd (h : f.At line column) : f.moveEnd.At line (f.lineLength line) := by
  obtain ⟨above, l, below, hlines, rfl, -, hf⟩ := h.exists_onLine
  rw [hf, lineLength_of_lines (f.lines_onLine hlines), f.moveEnd_onLine hlines]
  exact f.at_onLine hlines (Nat.le_refl _)

theorem moveUp_moveDown (h : f.At line column) (hnext : line + 1 < f.lines.length)
    (hlong : column ≤ f.lineLength (line + 1)) : f.moveDown.moveUp = f := by
  obtain ⟨above, l, below, hlines, rfl, hcolumn, hf⟩ := h.exists_onLine
  rw [hf] at hnext hlong ⊢
  obtain ⟨k, below, rfl⟩ := exists_below (f.lines_onLine hlines) hnext
  have hk : column ≤ k.length := by simpa [lineLength, f.lines_onLine hlines] using hlong
  rw [f.moveDown_onLine hlines hcolumn, f.moveUp_onLine hlines (Nat.min_le_right column k.length),
    Nat.min_eq_left hk, Nat.min_eq_left hcolumn]

end At

/-- A cursor between two characters has one line and one column. Up and down keep the column
as far as the line that they lead to is long enough, and lead nowhere from the first and from
the last line; home and end stay on the line. Movements leave the text, and up takes back a
step down that lost no columns. -/
theorem movements_go_by_lines {f : TextField} (h : f.Placed) :
    ∃ line column : Nat,
      f.At line column ∧ (∀ i j : Nat, f.At i j → i = line ∧ j = column) ∧
      f.cursorPosition.1 = line ∧
      (line = 0 → f.moveUp = f) ∧
      (∀ i : Nat, line = i + 1 → f.moveUp.At i (min column (f.lineLength i))) ∧
      (line + 1 = f.lines.length → f.moveDown = f) ∧
      (line + 1 < f.lines.length →
        f.moveDown.At (line + 1) (min column (f.lineLength (line + 1)))) ∧
      f.moveHome.At line 0 ∧ f.moveEnd.At line (f.lineLength line) ∧
      (∀ g ∈ [f.moveUp, f.moveDown, f.moveHome, f.moveEnd], g = { f with cursor := g.cursor }) ∧
      (line + 1 < f.lines.length → column ≤ f.lineLength (line + 1) → f.moveDown.moveUp = f) := by
  obtain ⟨line, column, hat⟩ := h.exists_at
  refine ⟨line, column, hat, fun i j hij => ?_, hat.eq_count.1.symm, ?_, ?_, hat.moveDown_last,
    hat.moveDown, hat.moveHome, hat.moveEnd, ?_, hat.moveUp_moveDown⟩
  · exact ⟨hij.eq_count.1.trans hat.eq_count.1.symm, hij.eq_count.2.trans hat.eq_count.2.symm⟩
  · rintro rfl
    exact hat.moveUp_first
  · rintro i rfl
    exact hat.moveUp
  · simp only [List.forall_mem_cons]
    exact ⟨eq_of_moves f (e := .moveUp) rfl, eq_of_moves f (e := .moveDown) rfl,
      eq_of_moves f (e := .moveHome) rfl, eq_of_moves f (e := .moveEnd) rfl, List.forall_mem_nil _⟩

/-- An empty line between a short and a long one, characters of two and three
bytes, and a break at the end. -/
theorem movements_go_by_lines_of_wide :
    let f : TextField := ⟨"json", "JSON", ['é', '€', 'x', '\n', '\n', 'ü', 'y', '\n'], 5, true⟩
    f.Placed ∧ f.At 0 2 ∧ f.moveUp = f ∧ f.moveDown.At 1 0 ∧ f.moveEnd.At 0 3 := by
  intro f
  have h : f.Placed := rfl
  obtain ⟨line, column, hat, hone, -, hfirst, -, -, hdown, -, hend, -⟩ := movements_go_by_lines h
  have h02 : f.At 0 2 := ⟨by decide, by decide, by decide⟩
  obtain ⟨rfl, rfl⟩ := hone 0 2 h02
  exact ⟨h, h02, hfirst rfl, hdown (by decide), hend⟩

end PackageMarket.TextField
