import Mathlib.Data.List.DropRight
import PackageMarket.Proofs.Form.TextField

set_option autoImplicit false

namespace PackageMarket

namespace Text

/-- The longest end of a text with a condition on its characters. -/
structure LongestEnd (p : Char → Prop) (t s : List Char) : Prop where
  suffix : t <:+ s
  all : ∀ c ∈ t, p c
  longest : ∀ u : List Char, u <:+ s → (∀ c ∈ u, p c) → u <:+ t

theorem longestEnd_rtakeWhile {p : Char → Prop} {q : Char → Bool} (h : ∀ c : Char, q c = true ↔ p c)
    (s : List Char) : LongestEnd p (s.rtakeWhile q) s := by
  refine ⟨List.rtakeWhile_suffix q s, fun c hc => (h c).mp (List.mem_rtakeWhile_imp hc), ?_⟩
  rintro u ⟨v, rfl⟩ hu
  have hreverse : ∀ c ∈ u.reverse, q c = true :=
    fun c hc => (h c).mpr (hu c (List.mem_reverse.mp hc))
  refine ⟨(v.reverse.takeWhile q).reverse, ?_⟩
  rw [List.rtakeWhile, List.reverse_append, List.takeWhile_append_of_pos hreverse,
    List.reverse_append, List.reverse_reverse]

theorem LongestEnd.not_of_concat {p : Char → Prop} {t w : List Char} {c : Char}
    (h : LongestEnd p w (t ++ [c] ++ w)) : ¬p c := by
  intro hc
  have hlonger := h.longest (c :: w) ⟨t, by simp⟩ (List.forall_mem_cons.mpr ⟨hc, h.all⟩)
  have hlength := hlonger.length_le
  rw [List.length_cons] at hlength
  omega

/-- Goes back from a position as long as the byte before it keeps a
condition, to the beginning at most. -/
def goBack (p : Option UInt8 → Bool) (bytes : List UInt8) : Nat → Nat
  | 0 => 0
  | n + 1 => if p bytes[n]? then goBack p bytes n else n + 1

variable (p q : Option UInt8 → Bool) {bytes : List UInt8} {n : Nat}

theorem goBack_eq (h : n ≤ bytes.length) :
    goBack p bytes n = ((bytes.take n).reverse.dropWhile fun x => p (some x)).length := by
  induction n with
  | zero => rfl
  | succ n ih =>
    have hbyte : bytes[n]? = some bytes[n] := List.getElem?_eq_getElem h
    have htake : (bytes.take (n + 1)).reverse = bytes[n] :: (bytes.take n).reverse := by
      rw [List.take_succ_eq_append_getElem h, List.reverse_concat]
    rw [goBack, hbyte, htake, List.dropWhile_cons]
    split
    · exact ih (Nat.le_of_succ_le h)
    · rw [List.length_cons, List.length_reverse, List.length_take_of_le (Nat.le_of_succ_le h)]

theorem goBack_le (h : n ≤ bytes.length) : goBack p bytes n ≤ n := by
  have hle : ((bytes.take n).reverse.dropWhile fun x => p (some x)).length ≤
      (bytes.take n).reverse.length :=
    (List.dropWhile_suffix _).length_le
  rw [List.length_reverse, List.length_take_of_le h] at hle
  rwa [goBack_eq p h]

theorem take_goBack (h : n ≤ bytes.length) :
    bytes.take (goBack p bytes n) = (bytes.take n).rdropWhile fun x => p (some x) := by
  have hlength : goBack p bytes n = ((bytes.take n).rdropWhile fun x => p (some x)).length := by
    rw [goBack_eq p h, List.rdropWhile, List.length_reverse]
  have htake : bytes.take (goBack p bytes n) = (bytes.take n).take (goBack p bytes n) := by
    rw [List.take_take, Nat.min_eq_left (goBack_le p h)]
  rw [htake, hlength]
  exact (List.prefix_iff_eq_take.mp (List.rdropWhile_prefix _ _)).symm

theorem goBack_goBack (h : n ≤ bytes.length) :
    goBack q bytes (goBack p bytes n) =
      (((bytes.take n).reverse.dropWhile fun x => p (some x)).dropWhile fun x =>
        q (some x)).length := by
  rw [goBack_eq q (Nat.le_trans (goBack_le p h) h), take_goBack p h, List.rdropWhile,
    List.reverse_reverse]

end Text

namespace TextField

open Text

def isSpaceByte (x : Option UInt8) : Bool := x = some 32

def inWordByte (x : Option UInt8) : Bool := !(x = some 32 || x = some 10)

variable (f : TextField)

theorem utf8_text (h : f.Placed) :
    f.cursor ≤ (utf8 f.text).length ∧ (utf8 f.text).take f.cursor = utf8 f.before := by
  have hcursor : f.cursor = (utf8 f.before).length := by
    rw [length_utf8]
    exact h.symm
  have hbytes : utf8 f.text = utf8 f.before ++ utf8 f.after := by
    rw [← take_append_drop f.cursor f.text]
    exact List.flatMap_append
  rw [hbytes, hcursor, List.take_left, List.length_append]
  exact ⟨Nat.le_add_right _ _, rfl⟩

theorem goBack_eq_wordStart (h : f.Placed) :
    goBack inWordByte (utf8 f.text) (goBack isSpaceByte (utf8 f.text) f.cursor) = f.wordStart := by
  obtain ⟨hle, htake⟩ := f.utf8_text h
  have hspace : (fun x : UInt8 => isSpaceByte (some x)) = fun x => decide (x = 32) := by
    funext x
    simp [isSpaceByte]
  have hword : (fun x : UInt8 => inWordByte (some x)) = fun x => x != 32 && x != 10 := by
    funext x
    simp [inWordByte, bne, BEq.beq]
  rw [goBack_goBack _ _ hle, htake, hspace, hword, wordStart_eq]
  rfl

def isSpace (c : Char) : Bool := c = ' '

theorem isSpace_iff (c : Char) : isSpace c = true ↔ c = ' ' := decide_eq_true_iff

def inWord (c : Char) : Bool := c != ' ' && c != '\n'

theorem inWord_iff (c : Char) : inWord c = true ↔ c ≠ ' ' ∧ c ≠ '\n' := by
  simp [inWord]

theorem wordsBefore_eq (s : List Char) :
    wordsBefore s = (s.rdropWhile isSpace).rdropWhile inWord := by
  simp only [wordsBefore, List.rdropWhile, List.reverse_reverse]
  rfl

theorem exists_word (s : List Char) :
    ∃ word spaces : List Char,
      s = wordsBefore s ++ word ++ spaces ∧ LongestEnd (· = ' ') spaces s ∧
        LongestEnd (fun c => c ≠ ' ' ∧ c ≠ '\n') word (wordsBefore s ++ word) := by
  have hword : wordsBefore s ++ (s.rdropWhile isSpace).rtakeWhile inWord =
      s.rdropWhile isSpace := by
    rw [wordsBefore_eq, List.rdropWhile_append_rtakeWhile]
  refine ⟨(s.rdropWhile isSpace).rtakeWhile inWord, s.rtakeWhile isSpace, ?_, ?_, ?_⟩
  · rw [hword, List.rdropWhile_append_rtakeWhile]
  · exact longestEnd_rtakeWhile isSpace_iff s
  · rw [hword]
    exact longestEnd_rtakeWhile inWord_iff _

/-- Deletion of a word takes the longest run of spaces before the cursor and the longest run
of other characters before these, no line break among them; the rest of the text stays, and
the cursor is where the two runs began. It finds that place by going back over bytes, and the
place is between two characters. -/
theorem deletion_takes_one_word {f : TextField} (h : f.Placed) :
    ∃ kept word spaces : List Char,
      f.before = kept ++ word ++ spaces ∧
      LongestEnd (· = ' ') spaces f.before ∧
      LongestEnd (fun c => c ≠ ' ' ∧ c ≠ '\n') word (kept ++ word) ∧
      f.deleteWordBack = { f with text := kept ++ f.after, cursor := (utf8 kept).length } ∧
      (kept = [] ∨ ∃ t : List Char, kept = t ++ [' '] ∨ kept = t ++ ['\n']) ∧
      f.deleteWordBack.text.count '\n' = f.text.count '\n' ∧
      Cuttable f.text (utf8 kept).length f.cursor ∧ f.deleteWordBack.Placed ∧
      goBack inWordByte (utf8 f.text) (goBack isSpaceByte (utf8 f.text) f.cursor) =
        (utf8 kept).length := by
  obtain ⟨word, spaces, hbefore, hspaces, hword⟩ := exists_word f.before
  have hdelete : f.deleteWordBack = f.between (wordsBefore f.before) f.after := by
    have hbetween := f.deleteWordBack_between f.before f.after
    rwa [← h.eq_between] at hbetween
  have hstart : f.wordStart = (utf8 (wordsBefore f.before)).length := by
    have hbetween := f.wordStart_between f.before f.after
    rwa [← h.eq_between, ← length_utf8] at hbetween
  refine ⟨wordsBefore f.before, word, spaces, hbefore, hspaces, hword, ?_, ?_, ?_, ?_, ?_, ?_⟩
  · rw [hdelete, length_utf8]
    rfl
  · rcases List.eq_nil_or_concat (wordsBefore f.before) with hnil | ⟨t, c, hconcat⟩
    · exact .inl hnil
    · rw [List.concat_eq_append] at hconcat
      rw [hconcat] at hword ⊢
      have hc : c = ' ' ∨ c = '\n' := by
        have hnot := hword.not_of_concat
        rwa [not_and_or, not_not, not_not] at hnot
      exact .inr ⟨t, hc.imp (fun heq => by rw [heq]) fun heq => by rw [heq]⟩
  · have hnone {t : List Char} (ht : ∀ c ∈ t, c ≠ '\n') : t.count '\n' = 0 :=
      List.count_eq_zero.mpr fun hmem => ht _ hmem rfl
    have hcount := congrArg (List.count '\n') hbefore
    rw [List.count_append, List.count_append, hnone fun c hc => (hword.all c hc).2,
      hnone fun c hc => hspaces.all c hc ▸ by decide] at hcount
    rw [hdelete, text_between, List.count_append, ← take_append_drop f.cursor f.text,
      List.count_append]
    exact congrArg (· + f.after.count '\n') hcount.symm
  · exact hstart ▸ Range.word.cuttable h
  · rw [hdelete]
    exact placed_between f _ _
  · rw [goBack_eq_wordStart f h, hstart]

/-- A word of characters of two and three bytes between a line break and two spaces. -/
theorem deletion_takes_one_word_of_wide :
    let f : TextField := ⟨"json", "JSON", ['a', '\n', 'é', '€', ' ', ' ', 'ü'], 9, true⟩
    f.Placed ∧ f.deleteWordBack = { f with text := ['a', '\n', 'ü'], cursor := 2 } ∧
      goBack inWordByte (utf8 f.text) (goBack isSpaceByte (utf8 f.text) f.cursor) = 2 := by
  intro f
  have h : f.Placed := rfl
  obtain ⟨kept, -, -, -, -, -, hdelete, -, -, -, -, hback⟩ := deletion_takes_one_word h
  have hcursor : (utf8 kept).length = 2 := (congrArg TextField.cursor hdelete).symm
  exact ⟨h, rfl, hback.trans hcursor⟩

end TextField

end PackageMarket
