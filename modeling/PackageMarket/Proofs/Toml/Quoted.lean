import PackageMarket.Toml.Document

set_option autoImplicit false

/-!
A string that was written is read again, whatever marks it was written between. What may stand
between marks is said once for all four kinds of them.
-/

namespace PackageMarket.Toml

open Text

def Reads {α : Type} {s : List Char} (x : Option (Read α s)) (a : α) (rest : List Char) : Prop :=
  ∃ h : rest.length < s.length, x = some ⟨a, rest, h⟩

/-- The escape of a character, and the character that is read from what follows its backslash. -/
def Escapes (e : List Char) (c : Char) : Prop :=
  ∀ rest : List Char, joined (e ++ rest) = none ∧ Reads (escaped (e ++ rest)) c rest

theorem hexValue_hexCapital : ∀ n < 16, hexValue? (hexCapital n) = some n := by decide

theorem hexNumber_unicodeEscape {n : Nat} (hn : n < 65536) (rest : List Char) :
    ∃ le, hexNumber 0 4 (hexCapital (n / 4096) :: hexCapital (n / 256 % 16) ::
      hexCapital (n / 16 % 16) :: hexCapital (n % 16) :: rest) = some (n, ⟨rest, le⟩) := by
  have h₁ := hexValue_hexCapital (n / 4096) (by omega)
  have h₂ := hexValue_hexCapital (n / 256 % 16) (by omega)
  have h₃ := hexValue_hexCapital (n / 16 % 16) (by omega)
  have h₄ := hexValue_hexCapital (n % 16) (by omega)
  have hsum : (((0 * 16 + n / 4096) * 16 + n / 256 % 16) * 16 + n / 16 % 16) * 16 + n % 16 = n := by
    omega
  simp only [hexNumber, h₁, h₂, h₃, h₄, hsum, bind, Option.bind]
  exact ⟨by simp only [List.length_cons]; omega, rfl⟩

theorem escapes_unicode {c : Char} (hc : isControl c) : Escapes (unicodeEscape c).tail c := by
  have hn : c.toNat < 65536 := by
    simp only [isControl, isShown, Bool.and_eq_true, Bool.not_eq_true', Bool.or_eq_false_iff,
      Bool.and_eq_false_iff, decide_eq_false_iff_not, bne_eq_false_iff_eq] at hc
    omega
  have hchar : character? c.toNat = some c := by
    rw [character?, if_pos (show c.toNat.isValidChar from c.valid), Char.ofNat_toNat]
  intro rest
  obtain ⟨le, hr⟩ := hexNumber_unicodeEscape hn rest
  refine ⟨rfl, ?_⟩
  simp only [unicodeEscape, List.tail_cons, List.cons_append, List.nil_append, escaped, if_true,
    decide_true, Bool.true_or, hr, hchar, bind, Option.bind]
  exact ⟨_, rfl⟩

theorem escape_cases (c : Char) :
    (escape c = [c] ∧ isShown c = true ∧ c ≠ '\\') ∨
      ∃ e : List Char, escape c = '\\' :: e ∧ Escapes e c := by
  unfold escape
  split
  · exact .inr ⟨_, rfl, fun rest => ⟨rfl, _, rfl⟩⟩
  · exact .inr ⟨_, rfl, fun rest => ⟨rfl, _, rfl⟩⟩
  · exact .inr ⟨_, rfl, fun rest => ⟨rfl, _, rfl⟩⟩
  · exact .inr ⟨_, rfl, fun rest => ⟨rfl, _, rfl⟩⟩
  · exact .inr ⟨_, rfl, fun rest => ⟨rfl, _, rfl⟩⟩
  · exact .inr ⟨_, rfl, fun rest => ⟨rfl, _, rfl⟩⟩
  · split
    · rename_i hc
      exact .inr ⟨_, rfl, escapes_unicode hc⟩
    · rename_i hbackslash _ _ hbreak _ _ hc
      refine .inl ⟨rfl, ?_, hbackslash⟩
      have hne : c ≠ '\n' := hbreak
      simpa [isControl, hne] using hc

/-- The text between marks of a kind, one or three of them, and the string that it stands for. Short
strings hold neither marks nor line breaks; long ones have no more than two marks side by side, and
`run` of them stand before the text. -/
inductive Inside (m : Mark) (isLong : Bool) : Nat → List Char → List Char → Prop where
  | nil {run : Nat} : Inside m isLong run [] []
  | mark {run : Nat} {b s : List Char} : isLong = true → run < 2 → Inside m isLong (run + 1) b s →
      Inside m isLong run (m.char :: b) (m.char :: s)
  | shown {run : Nat} {c : Char} {b s : List Char} : c ≠ m.char → isShown c = true →
      (m = .double → c ≠ '\\') → Inside m isLong 0 b s → Inside m isLong run (c :: b) (c :: s)
  | lineBreak {run : Nat} {b s : List Char} : isLong = true → Inside m isLong 0 b s →
      Inside m isLong run ('\n' :: b) ('\n' :: s)
  | escape {run : Nat} {c : Char} {e b s : List Char} : m = .double → Escapes e c →
      Inside m isLong 0 b s → Inside m isLong run ('\\' :: (e ++ b)) (c :: s)

theorem inside_escapeAll (isLong : Bool) {run : Nat} (s : List Char)
    (hrun : run ≤ if isLong then 2 else 0) :
    Inside .double isLong run (escapeAll isLong run s) s := by
  induction s generalizing run with
  | nil => exact .nil
  | cons c s ih =>
    have hzero := ih (Nat.zero_le (if isLong then 2 else 0))
    unfold escapeAll
    by_cases hquote : c = '"'
    · subst hquote
      rw [if_pos rfl]
      by_cases hlast : run = if isLong then 2 else 0
      · have hescape : Escapes ['"'] '"' := fun rest => ⟨rfl, _, rfl⟩
        rw [if_pos hlast]
        exact .escape rfl hescape hzero
      · rw [if_neg hlast]
        cases isLong with
        | false => exact absurd (Nat.le_zero.mp hrun) hlast
        | true =>
          exact .mark rfl (by simp at hrun hlast; omega) (ih (by simp at hrun hlast ⊢; omega))
    · rw [if_neg hquote]
      by_cases hbreak : c = '\n' ∧ isLong = true
      · obtain ⟨rfl, rfl⟩ := hbreak
        exact .lineBreak rfl hzero
      · rw [if_neg (by simpa using hbreak)]
        rcases escape_cases c with ⟨he, hshown, hne⟩ | ⟨e, he, hread⟩
        · rw [he]
          exact .shown hquote hshown (fun _ => hne) hzero
        · rw [he]
          exact .escape rfl hread hzero

theorem hasTriple_append {q : Char} {a s : List Char} (h : hasTriple q (a ++ s) = false) :
    hasTriple q s = false := by
  induction a with
  | nil => exact h
  | cons c a ih =>
    refine ih ?_
    rcases hs : a ++ s with _ | ⟨b, _ | ⟨d, t⟩⟩
    · rfl
    · rfl
    · simp only [List.cons_append, hs, hasTriple, Bool.or_eq_false_iff] at h
      exact h.2

theorem hasTriple_of_not_mem {q : Char} {s : List Char} (h : q ∉ s) : hasTriple q s = false := by
  fun_induction hasTriple q s with
  | case1 a b c s ih =>
    rw [List.mem_cons, not_or] at h
    have ha : a ≠ q := fun heq => h.1 heq.symm
    rw [ih h.2]
    simp [ha]
  | case2 => rfl

theorem run_lt_of_hasTriple {q : Char} {run : Nat} {s : List Char}
    (h : hasTriple q (List.replicate run q ++ q :: s) = false) : run < 2 := by
  refine Nat.lt_of_not_le fun hle => ?_
  obtain ⟨n, rfl⟩ : ∃ n : Nat, run = n + 2 := ⟨run - 2, by omega⟩
  have hlast : List.replicate (n + 2) q ++ q :: s = List.replicate n q ++ q :: q :: q :: s := by
    rw [← List.replicate_append_replicate, List.append_assoc]
    rfl
  rw [hlast] at h
  have htriple := hasTriple_append h
  simp [hasTriple] at htriple

theorem inside_single (isLong : Bool) {run : Nat} (s : List Char)
    (hshown : ∀ c ∈ s, isShown c = true ∨ isLong = true ∧ c = '\n')
    (hmark : isLong = false → '\'' ∉ s)
    (htriple : hasTriple '\'' (List.replicate run '\'' ++ s) = false) :
    Inside .single isLong run s s := by
  induction s generalizing run with
  | nil => exact .nil
  | cons c s ih =>
    have htail {n : Nat} (h : hasTriple '\'' (List.replicate n '\'' ++ s) = false) :
        Inside .single isLong n s s :=
      ih (fun d hd => hshown d (List.mem_cons_of_mem c hd))
        (fun hl hd => hmark hl (List.mem_cons_of_mem c hd)) h
    have hafter : hasTriple '\'' s = false := hasTriple_append (a := [c]) (hasTriple_append htriple)
    by_cases hc : c = '\''
    · subst hc
      have hlong : isLong = true :=
        eq_true_of_ne_false fun hl => hmark hl List.mem_cons_self
      have hnext : List.replicate run '\'' ++ '\'' :: s = List.replicate (run + 1) '\'' ++ s := by
        rw [List.replicate_succ', List.append_assoc]
        rfl
      exact .mark hlong (run_lt_of_hasTriple htriple) (htail (hnext ▸ htriple))
    · rcases hshown c List.mem_cons_self with hs | ⟨hl, rfl⟩
      · exact .shown hc hs (fun h => nomatch h) (htail hafter)
      · exact .lineBreak hl (htail hafter)

section Reading

variable {m : Mark} {b s rest : List Char}

theorem Mark.isShown_char (m : Mark) : isShown m.char = true := by cases m <;> rfl

theorem Mark.char_ne (m : Mark) : m.char ≠ '\\' ∧ m.char ≠ '\n' ∧ m.char ≠ '\r' := by
  cases m <;> decide

theorem shortRest_inside {run : Nat} (h : Inside m false run b s) (done : List Char) :
    Reads (shortRest m done (b ++ m.char :: rest)) (done.reverse ++ s) rest := by
  induction h generalizing done with
  | nil =>
    rw [List.nil_append, shortRest, if_pos rfl, List.append_nil]
    exact ⟨_, rfl⟩
  | mark hl | lineBreak hl => cases hl
  | shown hne hshown hback _ ih =>
    rename_i c _ _ _
    have hescape : ¬(c = '\\' && m = .double) = true := by
      simp only [Bool.and_eq_true, decide_eq_true_eq, not_and']
      exact hback
    obtain ⟨hlt, hread⟩ := ih (c :: done)
    rw [List.cons_append, shortRest, if_neg hne, if_neg hescape, if_pos hshown, hread]
    rw [List.reverse_cons, List.append_assoc]
    exact ⟨_, rfl⟩
  | escape hm he _ ih =>
    rename_i c e b s _
    subst hm
    obtain ⟨hlt, hescaped⟩ := (he (b ++ '"' :: rest)).2
    obtain ⟨hlt', hread⟩ := ih (c :: done)
    rw [List.cons_append, List.append_assoc, shortRest, if_neg (by decide), if_pos (by decide)]
    simp only [Mark.char] at hread ⊢
    simp only [hescaped, hread, List.reverse_cons, List.append_assoc]
    exact ⟨_, rfl⟩

theorem closing_eq_none {t : List Char} (h : ¬[m.char, m.char, m.char] <+: t) :
    closing m t = none := by
  unfold closing
  split
  · refine if_neg fun hmarks => h ?_
    simp only [Bool.and_eq_true, decide_eq_true_eq] at hmarks
    simp [hmarks]
  · rfl

theorem closing_marks {n : Nat} (hn : n ≤ 2) (hrest : rest.head? ≠ some m.char) :
    Reads (closing m (List.replicate n m.char ++ m.char :: m.char :: m.char :: rest))
      (List.replicate n m.char) rest := by
  have hnone (k : Nat) : (rest.take k).takeWhile (· = m.char) = [] := by
    rcases rest with _ | ⟨c, rest⟩
    · simp
    · cases k with
      | zero => rfl
      | succ k =>
        have hc : c ≠ m.char := by simpa using hrest
        simp [hc]
  -- Up to two marks behind the three that close are part of the string.
  obtain rfl | rfl | rfl : n = 0 ∨ n = 1 ∨ n = 2 := by omega
  all_goals
    simp only [List.replicate, List.cons_append, List.nil_append, closing, decide_true,
      Bool.and_self, if_true, List.take_succ_cons, List.take_zero, List.takeWhile_cons,
      List.takeWhile_nil, hnone]
    exact ⟨_, rfl⟩

theorem Inside.exists_marks {run : Nat} (h : Inside m true run b s) :
    ∃ n ≤ 2 - run, (b = List.replicate n m.char ∧ s = List.replicate n m.char) ∨
      ∃ (c : Char) (t : List Char), c ≠ m.char ∧ b = List.replicate n m.char ++ c :: t := by
  induction h with
  | nil => exact ⟨0, Nat.zero_le _, .inl ⟨rfl, rfl⟩⟩
  | mark _ hrun _ ih =>
    obtain ⟨n, hn, hmarks⟩ := ih
    refine ⟨n + 1, by omega, ?_⟩
    rcases hmarks with ⟨hb, hs⟩ | ⟨c, t, hc, hb⟩
    · exact .inl ⟨congrArg (m.char :: ·) hb, congrArg (m.char :: ·) hs⟩
    · exact .inr ⟨c, t, hc, congrArg (m.char :: ·) hb⟩
  | shown hne _ _ _ _ => exact ⟨0, Nat.zero_le _, .inr ⟨_, _, hne, rfl⟩⟩
  | lineBreak _ _ _ => exact ⟨0, Nat.zero_le _, .inr ⟨_, _, m.char_ne.2.1.symm, rfl⟩⟩
  | escape _ _ _ _ => exact ⟨0, Nat.zero_le _, .inr ⟨_, _, m.char_ne.1.symm, rfl⟩⟩

theorem longRest_of_closing {t : List Char} (h : Reads (closing m t) s rest) (done : List Char) :
    Reads (longRest m done t) (done.reverse ++ s) rest := by
  obtain ⟨hlt, hread⟩ := h
  rw [longRest.eq_def, hread]
  exact ⟨hlt, rfl⟩

/-- A string can be closed at once if nothing but marks is left of it. -/
theorem longRest_of_open {run : Nat} {done : List Char} (h : Inside m true run b s)
    (hrest : rest.head? ≠ some m.char)
    (hopen : closing m (b ++ m.char :: m.char :: m.char :: rest) = none →
      Reads (longRest m done (b ++ m.char :: m.char :: m.char :: rest)) (done.reverse ++ s) rest) :
    Reads (longRest m done (b ++ m.char :: m.char :: m.char :: rest)) (done.reverse ++ s) rest := by
  obtain ⟨n, hn, ⟨rfl, rfl⟩ | ⟨c, t, hc, rfl⟩⟩ := h.exists_marks
  · exact longRest_of_closing (closing_marks (by omega) hrest) done
  · refine hopen (closing_eq_none ?_)
    obtain rfl | rfl | rfl : n = 0 ∨ n = 1 ∨ n = 2 := by omega
    all_goals simp [hc.symm]

section Open

variable {done a t : List Char} {c : Char} (hopen : closing m (c :: t) = none)

include hopen

theorem longRest_shown (hback : m = .double → c ≠ '\\') (hshown : isShown c = true)
    (h : Reads (longRest m (c :: done) t) a rest) : Reads (longRest m done (c :: t)) a rest := by
  obtain ⟨hlt, hread⟩ := h
  have hescape : ¬(c = '\\' && m = .double) = true := by
    simp only [Bool.and_eq_true, decide_eq_true_eq, not_and']
    exact hback
  rw [longRest.eq_def, hopen]
  dsimp only
  rw [if_neg hescape, if_pos hshown, hread]
  exact ⟨_, rfl⟩

theorem longRest_lineBreak (hc : c = '\n') (h : Reads (longRest m ('\n' :: done) t) a rest) :
    Reads (longRest m done (c :: t)) a rest := by
  subst hc
  obtain ⟨hlt, hread⟩ := h
  rw [longRest.eq_def, hopen]
  dsimp only
  rw [if_neg (by simp), if_neg (by decide)]
  simp only [lineBreak, Read.one, hread]
  exact ⟨_, rfl⟩

theorem longRest_escape {x : Char} {u : List Char} (hm : m = .double) (hc : c = '\\')
    (hjoined : joined t = none) (hescaped : Reads (escaped t) x u)
    (h : Reads (longRest m (x :: done) u) a rest) : Reads (longRest m done (c :: t)) a rest := by
  subst hm hc
  obtain ⟨hlt, hescaped⟩ := hescaped
  obtain ⟨hlt', hread⟩ := h
  rw [longRest.eq_def, hopen]
  dsimp only
  rw [if_pos (by decide), hjoined, hescaped]
  simp only [hread]
  exact ⟨_, rfl⟩

end Open

theorem longRest_inside {run : Nat} (h : Inside m true run b s) (hrest : rest.head? ≠ some m.char)
    (done : List Char) :
    Reads (longRest m done (b ++ m.char :: m.char :: m.char :: rest)) (done.reverse ++ s) rest := by
  refine longRest_of_open h hrest fun hopen => ?_
  induction h generalizing done with
  | nil => exact longRest_of_closing (closing_marks (n := 0) (by omega) hrest) done
  | mark _ _ h ih =>
    have hread := longRest_of_open h hrest (ih (m.char :: done))
    rw [List.reverse_cons, List.append_assoc] at hread
    exact longRest_shown hopen (fun _ => m.char_ne.1) m.isShown_char hread
  | @shown _ c _ _ _ hshown hback h ih =>
    have hread := longRest_of_open h hrest (ih (c :: done))
    rw [List.reverse_cons, List.append_assoc] at hread
    exact longRest_shown hopen hback hshown hread
  | lineBreak _ h ih =>
    have hread := longRest_of_open h hrest (ih ('\n' :: done))
    rw [List.reverse_cons, List.append_assoc] at hread
    exact longRest_lineBreak hopen rfl hread
  | @escape _ c _ _ _ hm he h ih =>
    have hread := longRest_of_open h hrest (ih (c :: done))
    rw [List.reverse_cons, List.append_assoc] at hread
    rw [List.cons_append, List.append_assoc] at hopen ⊢
    exact longRest_escape hopen hm rfl (he _).1 (he _).2 hread

theorem stringRest_short (h : Inside m false 0 b s) (hrest : rest.head? ≠ some m.char) :
    Reads (stringRest m (b ++ m.char :: rest)) s rest := by
  have hread : Reads (shortRest m [] (b ++ m.char :: rest)) s rest := shortRest_inside h []
  rcases hb : b ++ m.char :: rest with _ | ⟨c, _ | ⟨d, t⟩⟩
  · rwa [hb] at hread
  · rwa [hb] at hread
  · -- Two marks at once would open a long string.
    have hopen : ¬(c = m.char && d = m.char) = true := by
      intro hmarks
      simp only [Bool.and_eq_true, decide_eq_true_eq] at hmarks
      obtain ⟨rfl, rfl⟩ := hmarks
      cases h with
      | nil =>
        obtain ⟨-, rfl⟩ := List.cons.inj hb
        exact hrest rfl
      | mark hl | lineBreak hl => cases hl
      | shown hne => exact hne (List.cons.inj hb).1
      | escape => exact m.char_ne.1 (List.cons.inj hb).1.symm
    rw [hb] at hread
    rwa [stringRest, if_neg hopen]

theorem lineBreak_eq_none {run : Nat} (h : Inside m true run b s) (hs : '\n' ∉ s) (t : List Char) :
    lineBreak (b ++ m.char :: t) = none := by
  have hmark (u : List Char) : lineBreak (m.char :: u) = none := by cases m <;> rfl
  cases h with
  | nil => exact hmark t
  | mark => exact hmark _
  | lineBreak => exact absurd List.mem_cons_self hs
  | escape => rfl
  | shown _ hshown =>
    rename_i c b s _ _ _
    have hbreak : c ≠ '\n' := fun hc => hs (hc ▸ List.mem_cons_self)
    have hreturn : c ≠ '\r' := by
      rintro rfl
      cases hshown
    exact lineBreak.eq_3 _ (fun _ heq => hbreak (List.cons.inj heq).1)
      (fun _ heq => hreturn (List.cons.inj heq).1)

theorem stringRest_long (h : Inside m true 0 b s) (hrest : rest.head? ≠ some m.char) :
    Reads (stringRest m (m.char :: m.char ::
      ((if s.contains '\n' then ['\n'] else []) ++ (b ++ m.char :: m.char :: m.char :: rest))))
        s rest := by
  obtain ⟨hlt, hread⟩ := longRest_inside h hrest []
  have hmarks : (m.char = m.char && m.char = m.char) = true := by simp
  rw [stringRest, if_pos hmarks]
  by_cases hs : '\n' ∈ s
  · rw [if_pos (by simpa using hs)]
    simp only [long, List.cons_append, List.nil_append, lineBreak, Read.one, hread, bind,
      Option.bind]
    exact ⟨_, rfl⟩
  · rw [if_neg (by simpa using hs)]
    simp only [long, List.nil_append, lineBreak_eq_none h hs, hread, bind, Option.bind]
    exact ⟨_, rfl⟩

end Reading

def between (m : Mark) (isLong : Bool) (b s : List Char) : List Char :=
  let mark := List.replicate (if isLong then 3 else 1) m.char
  mark ++ (if isLong && s.contains '\n' then ['\n'] else []) ++ b ++ mark

theorem fits_of_choose {s : List Char} {style : Style} (h : Style.choose s = style)
    (hsingle : style = .short .single ∨ style = .long .single) : style.fits s = true := by
  unfold Style.choose at h
  split at h
  · rename_i hfound
    exact h ▸ List.find?_some hfound
  · split at h
    all_goals
      subst h
      simp at hsingle

theorem isShown_or {c : Char} (h : (!isControl c) = true) : isShown c = true ∨ c = '\n' := by
  simp only [isControl, Bool.not_and, Bool.not_not, Bool.or_eq_true, Bool.not_eq_true',
    bne_eq_false_iff_eq] at h
  exact h

/-- Single marks are only chosen where nothing has to be escaped. -/
theorem exists_inside (s : List Char) :
    ∃ (m : Mark) (isLong : Bool) (b : List Char),
      Inside m isLong 0 b s ∧ quote s = between m isLong b s := by
  have hzero (isLong : Bool) : 0 ≤ if isLong then 2 else 0 := Nat.zero_le _
  unfold quote
  rcases h : Style.choose s with (_ | _) | (_ | _)
  · exact ⟨.double, false, _, inside_escapeAll false s (hzero false), rfl⟩
  · have hfits := fits_of_choose h (.inl rfl)
    simp only [Style.fits, List.all_eq_true, Bool.and_eq_true, bne_iff_ne] at hfits
    refine ⟨.single, false, s, inside_single false s (fun c hc => .inl ?_) (fun _ hc => ?_) ?_, rfl⟩
    · exact (isShown_or (hfits c hc).1.1).resolve_right (hfits c hc).2
    · exact (hfits _ hc).1.2 rfl
    · exact hasTriple_of_not_mem fun hc => (hfits _ hc).1.2 rfl
  · exact ⟨.double, true, _, inside_escapeAll true s (hzero true), rfl⟩
  · have hfits := fits_of_choose h (.inr rfl)
    simp only [Style.fits, List.all_eq_true, Bool.and_eq_true, Bool.not_eq_true'] at hfits
    refine ⟨.single, true, s, inside_single true s (fun c hc => ?_) (fun hl => nomatch hl) ?_, rfl⟩
    · exact (isShown_or (by simpa using hfits.1 c hc)).imp_right fun hbreak => ⟨rfl, hbreak⟩
    · exact hfits.2

theorem value_quote (depth : Nat) (s : List Char) {rest : List Char}
    (hrest : ∀ m : Mark, rest.head? ≠ some m.char) :
    Reads (value depth (quote s ++ rest)) (.string s) rest := by
  obtain ⟨m, isLong, b, hinside, hquote⟩ := exists_inside s
  have hread : ∃ t : List Char, quote s ++ rest = m.char :: t ∧ Reads (stringRest m t) s rest := by
    rw [hquote, between]
    cases isLong with
    | false => exact ⟨_, by simp, stringRest_short hinside (hrest m)⟩
    | true => exact ⟨_, by simp [List.replicate], stringRest_long hinside (hrest m)⟩
  obtain ⟨t, ht, hlt, hread⟩ := hread
  rw [ht, value.eq_def]
  cases m with
  | double =>
    simp only [Mark.char, if_true, hread, bind, Option.bind]
    exact ⟨_, rfl⟩
  | single =>
    simp only [Mark.char, Char.reduceEq, if_false, if_true, hread, bind, Option.bind]
    exact ⟨_, rfl⟩

end PackageMarket.Toml
