import PackageMarket.Proofs.Form.Lines
import PackageMarket.Proofs.Form.TextField

set_option autoImplicit false

namespace PackageMarket.TextField

open Text

/-- One scan from left to right: a carriage return becomes a line feed, together with the line feed
behind it if there is one. -/
def lineFeeds : List Char → List Char
  | '\r' :: '\n' :: s => '\n' :: lineFeeds s
  | '\r' :: s => '\n' :: lineFeeds s
  | c :: s => c :: lineFeeds s
  | [] => []

theorem lineFeeds_return {s : List Char} (h : '\n' ∉ s) :
    lineFeeds ('\r' :: s) = '\n' :: lineFeeds s := by
  rw [lineFeeds]
  rintro t rfl
  exact h List.mem_cons_self

theorem lineFeeds_cons {c : Char} (h : c ≠ '\r') (s : List Char) :
    lineFeeds (c :: s) = c :: lineFeeds s := by
  rw [lineFeeds]
  · exact fun t hc _ => h hc
  · exact h

theorem return_not_mem_lineFeeds (s : List Char) : '\r' ∉ lineFeeds s := by
  fun_induction lineFeeds s with
  | case1 s ih => simp [ih]
  | case2 s _ ih => simp [ih]
  | case3 c s _ hc ih => simp [ih, Ne.symm hc]
  | case4 => simp

/-- The first replacement leaves a carriage return where no line feed is behind
it, and the second takes it. -/
theorem normalize_eq (s : List Char) : normalize s = lineFeeds s := by
  rw [normalize]
  fun_induction lineFeeds s with
  | case1 s ih => simp [joinBreaks, ih]
  | case2 s h ih =>
    have hjoin : joinBreaks ('\r' :: s) = '\r' :: joinBreaks s := by
      rw [joinBreaks]
      exact fun t _ ht => h t ht
    simp [hjoin, ih]
  | case3 c s h hc ih =>
    have hjoin : joinBreaks (c :: s) = c :: joinBreaks s := by
      rw [joinBreaks]
      exact fun t ht _ => hc ht
    have hne : c ≠ '\r' := hc
    simp [hjoin, ih, hne]
  | case4 => rfl

def withBreaks (lineBreak : List Char) (s : List Char) : List Char :=
  s.flatMap fun c => if c = '\n' then lineBreak else [c]

def conventions : List (List Char) := [['\n'], ['\r', '\n'], ['\r']]

theorem withBreaks_cons (e : List Char) (c : Char) (s : List Char) :
    withBreaks e (c :: s) = (if c = '\n' then e else [c]) ++ withBreaks e s := rfl

theorem lineFeed_not_mem_withBreaks (s : List Char) : '\n' ∉ withBreaks ['\r'] s := by
  induction s with
  | nil => exact List.not_mem_nil
  | cons c s ih =>
    rw [withBreaks_cons]
    split
    · simp [ih]
    · rename_i hc
      simp [ih, Ne.symm hc]

theorem lineFeeds_withBreaks {e : List Char} (he : e ∈ conventions) {s : List Char} (h : '\r' ∉ s) :
    lineFeeds (withBreaks e s) = s := by
  induction s with
  | nil => rfl
  | cons c s ih =>
    simp only [List.mem_cons, not_or] at h
    have ih := ih h.2
    rw [withBreaks_cons]
    split
    · rename_i hc
      simp only [conventions, List.mem_cons, List.not_mem_nil, or_false] at he
      rcases he with rfl | rfl | rfl
      · rw [hc, List.singleton_append, lineFeeds_cons (by decide), ih]
      · rw [hc, List.cons_append, List.singleton_append, lineFeeds, ih]
      · rw [hc, List.singleton_append, lineFeeds_return (lineFeed_not_mem_withBreaks s), ih]
    · rw [List.singleton_append, lineFeeds_cons (Ne.symm h.1), ih]

def typed (f : TextField) (s : List Char) : List Char :=
  if f.multiline then s else s.filter (· != '\n')

variable (f : TextField)

theorem accepted_eq (s : List Char) : f.accepted s = f.typed (lineFeeds s) := by
  rw [accepted, typed, normalize_eq]

theorem foldl_insertChar_between (a b s : List Char) :
    s.foldl insertChar (f.between a b) = f.between (a ++ f.typed s) b := by
  induction s generalizing a with
  | nil => simp [typed]
  | cons c s ih =>
    rw [List.foldl_cons, insertChar_between]
    by_cases hc : c = '\n' ∧ f.multiline = false
    · rw [if_pos (by simp [hc.1, hc.2]), ih]
      simp [typed, hc.1, hc.2]
    · rw [if_neg (by simpa using hc), ih, List.append_assoc]
      cases hm : f.multiline with
      | true => simp [typed, hm]
      | false =>
        have hne : c ≠ '\n' := fun heq => hc ⟨heq, hm⟩
        simp [typed, hm, hne]

variable {f}

theorem Placed.insertText {f : TextField} (h : f.Placed) (s : List Char) :
    f.insertText s = f.between (f.before ++ f.typed (lineFeeds s)) f.after := by
  have hinsert := f.insertText_between f.before f.after s
  rwa [← h.eq_between, accepted_eq] at hinsert

theorem return_not_mem_typed (s : List Char) : '\r' ∉ f.typed (lineFeeds s) := by
  intro hmem
  rw [typed] at hmem
  split at hmem
  · exact return_not_mem_lineFeeds s hmem
  · exact return_not_mem_lineFeeds s (List.mem_filter.mp hmem).1

/-- A text is pasted as if the characters that a scan makes of it were typed one by one: it goes in
at the cursor, without the line breaks if the field has one line, and the cursor is behind it. No
carriage return goes in, and which convention a text keeps for its line breaks does not matter. -/
theorem paste_is_typing {f : TextField} (h : f.Placed) (s : List Char) :
    f.insertText s = (lineFeeds s).foldl insertChar f ∧
    (∃ t : List Char,
      t = (if f.multiline then lineFeeds s else (lineFeeds s).filter (· != '\n')) ∧ '\r' ∉ t ∧
      f.insertText s =
        { f with text := f.before ++ t ++ f.after, cursor := (utf8 (f.before ++ t)).length }) ∧
    (∀ u : List Char, lineFeeds u = lineFeeds s → f.insertText u = f.insertText s) ∧
    ∀ t : List Char, '\r' ∉ t → ∀ e ∈ conventions, ∀ e' ∈ conventions,
      f.insertText (withBreaks e t) = f.insertText (withBreaks e' t) := by
  refine ⟨?_, ⟨f.typed (lineFeeds s), rfl, return_not_mem_typed s, ?_⟩, fun u hu => ?_,
    fun t ht e he e' he' => ?_⟩
  · have hfold := f.foldl_insertChar_between f.before f.after (lineFeeds s)
    rw [← h.eq_between] at hfold
    rw [hfold, h.insertText]
  · rw [h.insertText, length_utf8]
    rfl
  · rw [h.insertText, h.insertText, hu]
  · rw [h.insertText, h.insertText, lineFeeds_withBreaks he ht, lineFeeds_withBreaks he' ht]

/-- Breaks of every kind next to each other, in a field of several lines
and in a field of one line. -/
theorem paste_is_typing_of_mixed :
    let f : TextField := ⟨"json", "JSON", ['é', 'x'], 2, true⟩
    let s : List Char := ['\r', '\r', '\n', 'ü', '\n', '\r']
    f.Placed ∧
    f.insertText s = { f with text := ['é', '\n', '\n', 'ü', '\n', '\n', 'x'], cursor := 8 } ∧
    ['\n', '\n', 'ü', '\n', '\n'].foldl insertChar f = f.insertText s ∧
    { f with multiline := false }.insertText s =
      { f with text := ['é', 'ü', 'x'], cursor := 4, multiline := false } := by
  intro f s
  have h : f.Placed := rfl
  obtain ⟨hfold, ⟨t, rfl, -, hpaste⟩, -⟩ := paste_is_typing h s
  obtain ⟨-, ⟨u, rfl, -, hline⟩, -⟩ := paste_is_typing (f := { f with multiline := false }) h s
  exact ⟨h, hpaste, hfold.symm, hline⟩

end PackageMarket.TextField

namespace PackageMarket

namespace Text

def Narrow (s : List Char) : Prop := ∀ c ∈ s, c.toNat ≤ 0xA0 ∧ c ≠ '\n' ∧ c ≠ '\r'

theorem measure_narrow {c : Char} (hc : c.toNat ≤ 0xA0) (hbreak : c ≠ '\n') :
    measure c .plain = (1, .plain) := by
  simp [measure, hc, hbreak, Follow.plain, Follow.of]

theorem width_of_narrow {s : List Char} (h : Narrow s) : width s = s.length := by
  have hmeasured :
      s.foldr (fun c (x : Int × Follow) => (x.1 + (measure c x.2).1, (measure c x.2).2))
      (0, .plain) = ((s.length : Int), .plain) := by
    induction s with
    | nil => rfl
    | cons c s ih =>
      obtain ⟨⟨hc, hbreak, -⟩, hs⟩ := List.forall_mem_cons.mp h
      rw [List.foldr_cons, ih hs, measure_narrow hc hbreak]
      rfl
  have hwidth :
      width s = (s.foldr (fun c (x : Int × Follow) => (x.1 + (measure c x.2).1, (measure c x.2).2))
      (0, .plain)).1.toNat := rfl
  rw [hwidth, hmeasured]
  exact Int.toNat_natCast _

theorem narrow_replicate (n : Nat) : Narrow (List.replicate n 'a') := by
  intro c hc
  rw [List.eq_of_mem_replicate hc]
  decide

end Text

namespace TextField

open Text

variable (f : TextField) (a b : List Char)

theorem cursorPosition_between :
    (f.between a b).cursorPosition = (a.count '\n', width (lastLine a)) := by
  have hcursor : (f.between a b).cursor = size (linesAbove a ++ lastLine a) := by
    rw [linesAbove_append_lastLine]
    rfl
  rw [cursorPosition, before_between, lineStart_between, hcursor, slice_eq (c := b)]
  rw [linesAbove_append_lastLine]
  rfl

variable {s : List Char} (hs : Narrow s)

include hs

theorem lineFeed_not_mem_of_narrow : '\n' ∉ s := fun h => (hs _ h).2.1 rfl

theorem lineFeeds_of_narrow : lineFeeds s = s := by
  induction s with
  | nil => rfl
  | cons c s ih =>
    obtain ⟨hc, hs⟩ := List.forall_mem_cons.mp hs
    rw [lineFeeds_cons hc.2.2, ih hs]

theorem accepted_of_narrow : f.accepted s = s := by
  rw [accepted_eq, lineFeeds_of_narrow hs, typed]
  split
  · rfl
  · exact List.filter_eq_self.mpr fun c hc => bne_iff_ne.mpr (hs c hc).2.1

theorem cursorPosition_insertText (h : f.cursor = 0) :
    (f.insertText s).cursorPosition = (0, s.length) := by
  have hbreaks := lineFeed_not_mem_of_narrow hs
  have hbefore : f.before = [] := by
    rw [before, h]
    exact take_size_append [] f.text
  have hinsert : f.insertText s = f.between s f.after := by
    have hbetween := f.insertText_between f.before f.after s
    rwa [← (placed_of_cursor_eq_zero h).eq_between, hbefore, f.accepted_of_narrow hs] at hbetween
  rw [hinsert, cursorPosition_between, List.count_eq_zero.mpr hbreaks]
  exact congrArg (Prod.mk 0)
    ((congrArg width (lastLine_ended [] hbreaks)).trans (width_of_narrow hs))

end TextField

end PackageMarket
