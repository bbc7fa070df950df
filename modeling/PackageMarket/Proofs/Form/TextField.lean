import PackageMarket.Form.TextField
import PackageMarket.Proofs.Text.Position

set_option autoImplicit false

/-!
A field as two texts, the one before its cursor and the one after it. Every operation is one on
these texts, so the cursor stays between two characters.
-/

namespace PackageMarket.TextField

open Text

section Lines

variable (s : List Char)

/-- What `lastLine` leaves: the lines before, each with its line break. -/
def linesAbove : List Char := (s.reverse.dropWhile (· != '\n')).reverse

def linesBelow : List Char := s.dropWhile (· != '\n')

theorem linesAbove_append_lastLine : linesAbove s ++ lastLine s = s := by
  rw [linesAbove, lastLine, ← List.reverse_append, List.takeWhile_append_dropWhile,
    List.reverse_reverse]

theorem firstLine_append_linesBelow : firstLine s ++ linesBelow s = s :=
  List.takeWhile_append_dropWhile

theorem firstLine_eq_self {s : List Char} (h : linesBelow s = []) : firstLine s = s := by
  have hs := firstLine_append_linesBelow s
  rwa [h, List.append_nil] at hs

theorem exists_linesAbove {s : List Char} (h : linesAbove s ≠ []) :
    ∃ t : List Char, linesAbove s = t ++ ['\n'] := by
  have hne : s.reverse.dropWhile (· != '\n') ≠ [] := fun hnil => h (by rw [linesAbove, hnil]; rfl)
  obtain ⟨c, t, ht⟩ := List.exists_cons_of_ne_nil hne
  have hc := List.head_dropWhile_not (p := (· != '\n')) hne
  simp only [ht, List.head_cons, bne_eq_false_iff_eq] at hc
  exact ⟨t.reverse, by rw [linesAbove, ht, List.reverse_cons, hc]⟩

theorem exists_linesBelow {s : List Char} (h : linesBelow s ≠ []) :
    ∃ t : List Char, linesBelow s = '\n' :: t := by
  obtain ⟨c, t, ht⟩ := List.exists_cons_of_ne_nil h
  have hc := List.head_dropWhile_not (p := (· != '\n')) h
  unfold linesBelow at ht
  simp only [ht, List.head_cons, bne_eq_false_iff_eq] at hc
  exact ⟨t, by rw [linesBelow, ht, hc]⟩

/-- What deletion of a word leaves of the text before the cursor. -/
def wordsBefore : List Char :=
  ((s.reverse.dropWhile (· = ' ')).dropWhile fun c => c != ' ' && c != '\n').reverse

theorem exists_wordsBefore_append : ∃ w : List Char, wordsBefore s ++ w = s := by
  have h : (wordsBefore s).reverse <:+ s.reverse := by
    rw [wordsBefore, List.reverse_reverse]
    exact (List.dropWhile_suffix _).trans (List.dropWhile_suffix _)
  exact List.reverse_suffix.mp h

end Lines

def between (f : TextField) (a b : List Char) : TextField :=
  { f with text := a ++ b, cursor := size a }

/-- The cursor is between two characters. -/
def Placed (f : TextField) : Prop := AtBoundary f.cursor f.text

variable (f : TextField) (a b : List Char)

theorem placed_between : (f.between a b).Placed := atBoundary_size_append a b

theorem placed_of_cursor_eq_zero {f : TextField} (h : f.cursor = 0) : f.Placed := by
  rw [Placed, h]
  exact atBoundary_size_append [] f.text

theorem Placed.eq_between {f : TextField} (h : f.Placed) : f = f.between f.before f.after := by
  have htext : f.before ++ f.after = f.text := take_append_drop f.cursor f.text
  have hcursor : size f.before = f.cursor := h
  rw [between, htext, hcursor]

@[simp] theorem text_between : (f.between a b).text = a ++ b := rfl

@[simp] theorem cursor_between : (f.between a b).cursor = size a := rfl

@[simp] theorem before_between : (f.between a b).before = a := take_size_append a b

@[simp] theorem after_between : (f.between a b).after = b := drop_size_append a b

theorem between_of_append {a b c d : List Char} (h : a ++ b = c ++ d) :
    { f.between a b with cursor := size c } = f.between c d := by
  rw [between, between, h]

theorem cut_between (a b c : List Char) :
    (f.between (a ++ b) c).cut (size a) (size (a ++ b)) = f.between a c := by
  have htake : take (size a) (a ++ b ++ c) = a := by rw [List.append_assoc, take_size_append]
  rw [cut, text_between, htake, drop_size_append]
  rfl

theorem slice_eq {f : TextField} {a b c : List Char} (h : f.text = a ++ b ++ c) :
    f.slice (size a) (size (a ++ b)) = b := by
  have hsize : size (a ++ b) - size a = size b := by
    rw [size_append]
    omega
  rw [slice, h, hsize, List.append_assoc, drop_size_append, take_size_append]

theorem leftOfCursor_between : (f.between a b).leftOfCursor = size a.dropLast := by
  rw [leftOfCursor, before_between]

theorem rightOfCursor_between : (f.between a b).rightOfCursor = size (a ++ b.take 1) := by
  rw [rightOfCursor, after_between, cursor_between, size_append]

theorem lineStart_between : (f.between a b).lineStart = size (linesAbove a) := by
  have h := congrArg size (linesAbove_append_lastLine a)
  rw [size_append] at h
  rw [lineStart, before_between, cursor_between]
  omega

theorem lineEnd_between : (f.between a b).lineEnd = size (a ++ firstLine b) := by
  rw [lineEnd, after_between, cursor_between, size_append]

theorem column_between : (f.between a b).column = (lastLine a).length := by
  have hcursor : (f.between a b).cursor = size (linesAbove a ++ lastLine a) := by
    rw [linesAbove_append_lastLine]
    rfl
  rw [column, lineStart_between, hcursor, slice_eq (c := b)]
  rw [linesAbove_append_lastLine]
  rfl

theorem wordStart_between : (f.between a b).wordStart = size (wordsBefore a) := by
  rw [wordStart, before_between, wordsBefore, size_reverse]

theorem setText_eq (s : List Char) : f.setText s = f.between s [] := by
  rw [setText, between, List.append_nil]

theorem insertChar_between (c : Char) :
    (f.between a b).insertChar c =
      if c = '\n' && !f.multiline then f.between a b else f.between (a ++ [c]) b := by
  have hcursor : size a + c.utf8Size = size (a ++ [c]) := by simp [size]
  have hmultiline : (f.between a b).multiline = f.multiline := rfl
  rw [insertChar, before_between, after_between, cursor_between, hcursor, hmultiline,
    between, between, List.append_assoc]
  rfl

def accepted (s : List Char) : List Char :=
  if f.multiline then normalize s else (normalize s).filter (· != '\n')

theorem insertText_between (s : List Char) :
    (f.between a b).insertText s = f.between (a ++ f.accepted s) b := by
  have haccepted : (f.between a b).accepted s = f.accepted s := rfl
  rw [insertText, before_between, after_between, cursor_between, ← accepted, haccepted,
    ← size_append]
  rfl

theorem deleteBack_between : (f.between a b).deleteBack = f.between a.dropLast b := by
  rw [deleteBack, leftOfCursor_between, cursor_between]
  rcases List.eq_nil_or_concat a with rfl | ⟨a, c, rfl⟩
  · rfl
  · rw [List.concat_eq_append, if_pos (size_pos.mpr (by simp)), List.dropLast_concat, cut_between]

theorem deleteForward_between : (f.between a b).deleteForward = f.between a (b.drop 1) := by
  rw [deleteForward, rightOfCursor_between, cursor_between, text_between]
  cases b with
  | nil => simp
  | cons c b =>
    have hcut := f.cut_between a [c] b
    rw [cut, text_between, List.append_assoc, List.singleton_append] at hcut
    rw [if_pos (size_lt_size_append.mpr (by simp))]
    exact hcut

theorem moveLeft_between :
    (f.between a b).moveLeft = f.between a.dropLast (a.getLast?.toList ++ b) := by
  rw [moveLeft, leftOfCursor_between]
  rcases List.eq_nil_or_concat a with rfl | ⟨a, c, rfl⟩
  · rfl
  · rw [List.concat_eq_append, cursor_between, if_pos (size_pos.mpr (by simp)),
      List.dropLast_concat, between_of_append]
    simp

theorem moveRight_between : (f.between a b).moveRight = f.between (a ++ b.take 1) (b.drop 1) := by
  rw [moveRight, rightOfCursor_between]
  cases b with
  | nil => simp
  | cons c b =>
    have hlt : (f.between a (c :: b)).cursor < size (f.between a (c :: b)).text :=
      size_lt_size_append.mpr (List.cons_ne_nil c b)
    rw [if_pos hlt, between_of_append]
    simp

theorem moveHome_between :
    (f.between a b).moveHome = f.between (linesAbove a) (lastLine a ++ b) := by
  rw [moveHome, lineStart_between, between_of_append]
  rw [← List.append_assoc, linesAbove_append_lastLine]

theorem moveEnd_between :
    (f.between a b).moveEnd = f.between (a ++ firstLine b) (linesBelow b) := by
  rw [moveEnd, lineEnd_between, between_of_append]
  rw [List.append_assoc, firstLine_append_linesBelow]

theorem deleteWordBack_between : (f.between a b).deleteWordBack = f.between (wordsBefore a) b := by
  rw [deleteWordBack, wordStart_between, cursor_between]
  obtain ⟨w, hw⟩ := exists_wordsBefore_append a
  split
  · rename_i ha
    obtain rfl := size_eq_zero.mp ha
    rfl
  · have hcut := f.cut_between (wordsBefore a) w b
    rwa [hw] at hcut

def lineAboveStop : Nat := f.lineStart - 1

def lineAboveStart : Nat := f.lineAboveStop - size (lastLine (take f.lineAboveStop f.text))

def lineBelowStart : Nat := f.lineEnd + 1

def lineBelowStop : Nat := f.lineBelowStart + size (firstLine (drop f.lineBelowStart f.text))

theorem inLine_between {f : TextField} {a b c : List Char} (h : f.text = a ++ b ++ c)
    (column : Nat) : f.inLine (size a) (size (a ++ b)) column = size (a ++ b.take column) := by
  rw [inLine, slice_eq h, size_append]

section Above

variable {a} {t : List Char} (h : linesAbove a = t ++ ['\n'])

include h

theorem append_of_linesAbove : a ++ b = t ++ '\n' :: (lastLine a ++ b) := by
  calc a ++ b = linesAbove a ++ lastLine a ++ b := by rw [linesAbove_append_lastLine]
    _ = t ++ '\n' :: (lastLine a ++ b) := by simp [h]

theorem text_of_linesAbove :
    (f.between a b).text = linesAbove t ++ lastLine t ++ '\n' :: (lastLine a ++ b) := by
  rw [linesAbove_append_lastLine]
  exact append_of_linesAbove b h

theorem lineAboveStop_between : (f.between a b).lineAboveStop = size t := by
  rw [lineAboveStop, lineStart_between, h, size_append]
  rfl

theorem lineAboveStart_between : (f.between a b).lineAboveStart = size (linesAbove t) := by
  have hsize := congrArg size (linesAbove_append_lastLine t)
  rw [size_append] at hsize
  rw [lineAboveStart, f.lineAboveStop_between b h, text_between, append_of_linesAbove b h,
    take_size_append]
  omega

theorem moveUp_between :
    (f.between a b).moveUp =
      f.between (linesAbove t ++ (lastLine t).take (lastLine a).length)
        ((lastLine t).drop (lastLine a).length ++ '\n' :: (lastLine a ++ b)) := by
  have hmove : (f.between a b).moveUp = { f.between a b with
      cursor := (f.between a b).inLine (f.between a b).lineAboveStart (f.between a b).lineAboveStop
        (f.between a b).column } := by
    rw [moveUp, lineStart_between, h, if_neg (by simp [size_eq_zero])]
    rw [lineAboveStart, lineAboveStop, lineStart_between, h]
  have hline := inLine_between (f.text_of_linesAbove b h) (lastLine a).length
  rw [linesAbove_append_lastLine] at hline
  rw [hmove, lineAboveStart_between f b h, lineAboveStop_between f b h, column_between, hline,
    between_of_append]
  rw [List.append_assoc, ← List.append_assoc (List.take _ _), List.take_append_drop,
    ← List.append_assoc, linesAbove_append_lastLine, append_of_linesAbove b h]

end Above

theorem moveUp_between_of_nil (h : linesAbove a = []) : (f.between a b).moveUp = f.between a b := by
  rw [moveUp, lineStart_between, h]
  rfl

theorem lineBelowStart_between :
    (f.between a b).lineBelowStart = size (a ++ firstLine b ++ ['\n']) := by
  rw [lineBelowStart, lineEnd_between, size_append _ ['\n']]
  rfl

section Below

variable {b} {t : List Char} (h : linesBelow b = '\n' :: t)

include h

theorem append_of_linesBelow : a ++ b = a ++ firstLine b ++ ['\n'] ++ t := by
  calc a ++ b = a ++ (firstLine b ++ linesBelow b) := by rw [firstLine_append_linesBelow]
    _ = a ++ firstLine b ++ ['\n'] ++ t := by simp [h]

theorem text_of_linesBelow :
    (f.between a b).text = a ++ firstLine b ++ ['\n'] ++ firstLine t ++ linesBelow t := by
  rw [List.append_assoc _ (firstLine t), firstLine_append_linesBelow]
  exact append_of_linesBelow a h

theorem lineBelowStop_between :
    (f.between a b).lineBelowStop = size (a ++ firstLine b ++ ['\n'] ++ firstLine t) := by
  rw [lineBelowStop, f.lineBelowStart_between a b, text_between, append_of_linesBelow a h,
    drop_size_append, ← size_append]

theorem lineEnd_ne_of_linesBelow : (f.between a b).lineEnd ≠ size (f.between a b).text := by
  have hlt : size (a ++ firstLine b) < size (a ++ firstLine b ++ ('\n' :: t)) :=
    size_lt_size_append.mpr (List.cons_ne_nil _ _)
  rw [lineEnd_between, text_between, append_of_linesBelow a h]
  simp only [List.append_assoc, List.singleton_append] at hlt ⊢
  omega

theorem moveDown_between :
    (f.between a b).moveDown =
      f.between (a ++ firstLine b ++ ['\n'] ++ (firstLine t).take (lastLine a).length)
        ((firstLine t).drop (lastLine a).length ++ linesBelow t) := by
  have hmove : (f.between a b).moveDown = { f.between a b with
      cursor := (f.between a b).inLine (f.between a b).lineBelowStart (f.between a b).lineBelowStop
        (f.between a b).column } := by
    rw [moveDown, if_neg (f.lineEnd_ne_of_linesBelow a h)]
    rfl
  have hline := inLine_between (f.text_of_linesBelow a h) (lastLine a).length
  rw [hmove, lineBelowStart_between f a b, lineBelowStop_between f a h, column_between, hline,
    between_of_append]
  rw [List.append_assoc, ← List.append_assoc (List.take _ _), List.take_append_drop,
    firstLine_append_linesBelow, append_of_linesBelow a h]

end Below

theorem moveDown_between_of_nil (h : linesBelow b = []) :
    (f.between a b).moveDown = f.between a b := by
  rw [moveDown, lineEnd_between, firstLine_eq_self h]
  exact if_pos rfl

inductive Range (f : TextField) : Nat → Nat → Prop where
  | before : Range f 0 f.cursor
  | after : Range f f.cursor (size f.text)
  | left : Range f f.leftOfCursor f.cursor
  | right : Range f f.cursor f.rightOfCursor
  | lineBefore : Range f f.lineStart f.cursor
  | lineAfter : Range f f.cursor f.lineEnd
  | lineAbove : f.lineStart ≠ 0 → Range f f.lineAboveStart f.lineAboveStop
  | lineBelow : f.lineEnd ≠ size f.text → Range f f.lineBelowStart f.lineBelowStop
  | word : Range f f.wordStart f.cursor

/-- A range that begins and ends between two characters. -/
structure Cuttable (s : List Char) (start stop : Nat) : Prop where
  le : start ≤ stop
  start : AtBoundary start s
  stop : AtBoundary stop s

theorem cuttable_append (a b c : List Char) : Cuttable (a ++ b ++ c) (size a) (size (a ++ b)) := by
  refine ⟨?_, ?_, atBoundary_size_append _ c⟩
  · rw [size_append]
    exact Nat.le_add_right _ _
  · rw [List.append_assoc]
    exact atBoundary_size_append a _

theorem Range.cuttable {f : TextField} {start stop : Nat} (h : f.Placed) (hr : f.Range start stop) :
    Cuttable f.text start stop := by
  rw [h.eq_between] at hr ⊢
  generalize f.before = a at hr ⊢
  generalize f.after = b at hr ⊢
  cases hr with
  | before => exact cuttable_append [] a b
  | after =>
    have hcut := cuttable_append a b []
    rwa [List.append_nil] at hcut
  | left =>
    rw [leftOfCursor_between]
    rcases List.eq_nil_or_concat a with rfl | ⟨a, c, rfl⟩
    · exact cuttable_append [] [] b
    · rw [List.concat_eq_append, List.dropLast_concat]
      exact cuttable_append a [c] b
  | right =>
    rw [rightOfCursor_between]
    have hcut := cuttable_append a (b.take 1) (b.drop 1)
    rwa [List.append_assoc, List.take_append_drop] at hcut
  | lineBefore =>
    rw [lineStart_between]
    have hcut := cuttable_append (linesAbove a) (lastLine a) b
    rwa [linesAbove_append_lastLine] at hcut
  | lineAfter =>
    rw [lineEnd_between]
    have hcut := cuttable_append a (firstLine b) (linesBelow b)
    rwa [List.append_assoc, firstLine_append_linesBelow] at hcut
  | lineAbove hne =>
    rw [lineStart_between, ne_eq, size_eq_zero] at hne
    obtain ⟨t, ht⟩ := exists_linesAbove hne
    have hcut := cuttable_append (linesAbove t) (lastLine t) ('\n' :: (lastLine a ++ b))
    rw [← text_of_linesAbove f b ht, linesAbove_append_lastLine] at hcut
    rwa [lineAboveStart_between f b ht, lineAboveStop_between f b ht]
  | lineBelow hne =>
    have hbelow : linesBelow b ≠ [] := fun hnil => hne (by
      rw [lineEnd_between, firstLine_eq_self hnil]
      rfl)
    obtain ⟨t, ht⟩ := exists_linesBelow hbelow
    have hcut := cuttable_append (a ++ firstLine b ++ ['\n']) (firstLine t) (linesBelow t)
    rw [← text_of_linesBelow f a ht] at hcut
    rwa [lineBelowStart_between f a b, lineBelowStop_between f a ht]
  | word =>
    rw [wordStart_between]
    obtain ⟨w, hw⟩ := exists_wordsBefore_append a
    have hcut := cuttable_append (wordsBefore a) w b
    rwa [hw] at hcut

def wordStartInBytes (bytes : List UInt8) : Nat :=
  ((bytes.reverse.dropWhile (· = 32)).dropWhile fun x => x != 32 && x != 10).length

theorem wordStart_eq : f.wordStart = wordStartInBytes (utf8 f.before) := by
  -- No byte of a longer character is a space or a line break, so whole characters are passed over.
  have hspace (c : Char) (x : UInt8) (hx : x ∈ String.utf8EncodeChar c) :
      decide (x = 32) = decide (c = ' ') := by
    rw [decide_eq_decide]
    exact byte_eq_iff (d := ' ') (by decide) hx
  have hword (c : Char) (x : UInt8) (hx : x ∈ String.utf8EncodeChar c) :
      (x != 32 && x != 10) = (c != ' ' && c != '\n') := by
    have hbreak : decide (x = 10) = decide (c = '\n') := by
      rw [decide_eq_decide]
      exact byte_eq_iff (d := '\n') (by decide) hx
    simp only [bne, BEq.beq, hspace c x hx, hbreak]
  rw [wordStartInBytes, dropWhile_reverse_utf8 hspace, dropWhile_reverse_utf8 hword,
    List.reverse_reverse, List.length_reverse, length_utf8, size_reverse]
  rfl

inductive Edit where
  | insertChar (c : Char)
  | insertText (s : List Char)
  | setText (s : List Char)
  | deleteBack
  | deleteForward
  | deleteWordBack
  | moveLeft
  | moveRight
  | moveHome
  | moveEnd
  | moveUp
  | moveDown
  deriving DecidableEq, Repr

def apply (f : TextField) : Edit → TextField
  | .insertChar c => f.insertChar c
  | .insertText s => f.insertText s
  | .setText s => f.setText s
  | .deleteBack => f.deleteBack
  | .deleteForward => f.deleteForward
  | .deleteWordBack => f.deleteWordBack
  | .moveLeft => f.moveLeft
  | .moveRight => f.moveRight
  | .moveHome => f.moveHome
  | .moveEnd => f.moveEnd
  | .moveUp => f.moveUp
  | .moveDown => f.moveDown

theorem exists_apply_eq (e : Edit) :
    ∃ (text : List Char) (cursor : Nat), f.apply e = { f with text, cursor } := by
  cases e with
  | insertChar c => simp only [apply, insertChar]; split <;> exact ⟨_, _, rfl⟩
  | deleteBack => simp only [apply, deleteBack]; split <;> exact ⟨_, _, rfl⟩
  | deleteForward => simp only [apply, deleteForward]; split <;> exact ⟨_, _, rfl⟩
  | deleteWordBack => simp only [apply, deleteWordBack]; split <;> exact ⟨_, _, rfl⟩
  | moveLeft => simp only [apply, moveLeft]; split <;> exact ⟨_, _, rfl⟩
  | moveRight => simp only [apply, moveRight]; split <;> exact ⟨_, _, rfl⟩
  | moveUp => simp only [apply, moveUp]; split <;> exact ⟨_, _, rfl⟩
  | moveDown => simp only [apply, moveDown]; split <;> exact ⟨_, _, rfl⟩
  | insertText s | setText s | moveHome | moveEnd => exact ⟨_, _, rfl⟩

theorem exists_apply_between (e : Edit) :
    ∃ c d : List Char, (f.between a b).apply e = f.between c d := by
  cases e with
  | insertChar c =>
    rw [apply, insertChar_between]
    split <;> exact ⟨_, _, rfl⟩
  | insertText s => exact ⟨_, _, f.insertText_between a b s⟩
  | setText s => exact ⟨_, _, (f.between a b).setText_eq s⟩
  | deleteBack => exact ⟨_, _, f.deleteBack_between a b⟩
  | deleteForward => exact ⟨_, _, f.deleteForward_between a b⟩
  | deleteWordBack => exact ⟨_, _, f.deleteWordBack_between a b⟩
  | moveLeft => exact ⟨_, _, f.moveLeft_between a b⟩
  | moveRight => exact ⟨_, _, f.moveRight_between a b⟩
  | moveHome => exact ⟨_, _, f.moveHome_between a b⟩
  | moveEnd => exact ⟨_, _, f.moveEnd_between a b⟩
  | moveUp =>
    by_cases h : linesAbove a = []
    · exact ⟨_, _, f.moveUp_between_of_nil a b h⟩
    · obtain ⟨t, ht⟩ := exists_linesAbove h
      exact ⟨_, _, f.moveUp_between b ht⟩
  | moveDown =>
    by_cases h : linesBelow b = []
    · exact ⟨_, _, f.moveDown_between_of_nil a b h⟩
    · obtain ⟨t, ht⟩ := exists_linesBelow h
      exact ⟨_, _, f.moveDown_between a ht⟩

theorem Placed.apply {f : TextField} (h : f.Placed) (e : Edit) : (f.apply e).Placed := by
  obtain ⟨a, b, hab⟩ := f.exists_apply_between f.before f.after e
  rw [h.eq_between, hab]
  exact placed_between f a b

theorem Placed.foldl {f : TextField} (h : f.Placed) (es : List Edit) :
    (es.foldl TextField.apply f).Placed := by
  induction es generalizing f with
  | nil => exact h
  | cons e es ih => exact ih (h.apply e)

structure OneLine (f : TextField) : Prop where
  multiline : f.multiline = false
  unbroken : '\n' ∉ f.text

def Edit.moves : Edit → Bool
  | .moveLeft | .moveRight | .moveHome | .moveEnd | .moveUp | .moveDown => true
  | _ => false

theorem eq_of_moves {e : Edit} (h : e.moves) :
    f.apply e = { f with cursor := (f.apply e).cursor } := by
  cases e with
  | moveLeft => simp only [apply, moveLeft]; split <;> rfl
  | moveRight => simp only [apply, moveRight]; split <;> rfl
  | moveHome | moveEnd => rfl
  | moveUp => simp only [apply, moveUp]; split <;> rfl
  | moveDown => simp only [apply, moveDown]; split <;> rfl
  | _ => cases h

/-- Only `setText` puts a line break into a field of one line. -/
theorem OneLine.apply {f : TextField} (h : f.OneLine) (hf : f.Placed) {e : Edit}
    (he : ∀ s : List Char, e ≠ .setText s) : (f.apply e).OneLine := by
  obtain ⟨text, cursor, happly⟩ := f.exists_apply_eq e
  refine ⟨happly ▸ h.multiline, fun hmem => h.unbroken ?_⟩
  -- Movements leave the text. The others take characters out of it, or put in what has no line
  -- break.
  by_cases hmoves : e.moves
  · rwa [eq_of_moves f hmoves] at hmem
  have htext : f.text = f.before ++ f.after := (take_append_drop f.cursor f.text).symm
  have hmultiline := h.multiline
  rw [htext]
  rw [hf.eq_between] at hmem
  generalize f.before = a at hmem ⊢
  generalize f.after = b at hmem ⊢
  cases e with
  | insertChar c =>
    rw [TextField.apply, insertChar_between, hmultiline] at hmem
    split at hmem
    · exact hmem
    · rename_i hc
      have hne : '\n' ≠ c := fun heq => hc (by simp [← heq])
      simpa [hne] using hmem
  | insertText s =>
    rw [TextField.apply, insertText_between, accepted, hmultiline] at hmem
    simp_all
  | deleteBack =>
    rw [TextField.apply, deleteBack_between, text_between, List.mem_append] at hmem
    exact List.mem_append.mpr (hmem.imp_left fun hc => List.dropLast_subset a hc)
  | deleteForward =>
    rw [TextField.apply, deleteForward_between, text_between, List.mem_append] at hmem
    exact List.mem_append.mpr (hmem.imp_right List.mem_of_mem_drop)
  | deleteWordBack =>
    rw [TextField.apply, deleteWordBack_between, text_between, List.mem_append] at hmem
    obtain ⟨w, hw⟩ := exists_wordsBefore_append a
    exact List.mem_append.mpr (hmem.imp_left fun hc => hw ▸ List.mem_append_left w hc)
  | setText s => exact absurd rfl (he s)
  | _ => exact absurd rfl hmoves

end PackageMarket.TextField
