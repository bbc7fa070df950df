import Mathlib.Data.List.TakeWhile
import PackageMarket.Text.Basic

set_option autoImplicit false

namespace PackageMarket.Text

def AllBlank (s : List Char) : Prop := ∀ c ∈ s, isBlank c = true

instance (s : List Char) : Decidable (AllBlank s) :=
  decidable_of_iff (s.all isBlank) List.all_eq_true

/-- The second text is the first without the white space around it, and has none at its ends. -/
structure Trimmed (s t : List Char) : Prop where
  around : ∃ b e : List Char, AllBlank b ∧ AllBlank e ∧ s = b ++ t ++ e
  head : ∀ c ∈ t.head?, isBlank c = false
  last : ∀ c ∈ t.getLast?, isBlank c = false

variable {b e s t : List Char}

theorem allBlank_takeWhile (s : List Char) :
    AllBlank (s.takeWhile isBlank) := fun _ hc => List.mem_takeWhile_imp hc

theorem not_isBlank_head_dropWhile (s : List Char) :
    ∀ c ∈ (s.dropWhile isBlank).head?, isBlank c = false := by
  intro c hc
  have h := List.head?_dropWhile_not isBlank s
  rw [hc] at h
  exact h

theorem trimStart_append (hb : AllBlank b) (s : List Char) : trimStart (b ++ s) = trimStart s :=
  List.dropWhile_append_of_pos hb

theorem trimEnd_append (s : List Char) (he : AllBlank e) : trimEnd (s ++ e) = trimEnd s := by
  have hreverse : AllBlank e.reverse := fun c hc => he c (List.mem_reverse.mp hc)
  rw [trimEnd, trimEnd, List.reverse_append, List.dropWhile_append_of_pos hreverse]

theorem trimStart_eq_self (h : ∀ c ∈ t.head?, isBlank c = false) : trimStart t = t := by
  cases t with
  | nil => rfl
  | cons c t => exact List.dropWhile_cons_of_neg (by simp [h c rfl])

theorem trimEnd_eq_self (h : ∀ c ∈ t.getLast?, isBlank c = false) : trimEnd t = t := by
  rw [← List.head?_reverse] at h
  have hself := trimStart_eq_self h
  rw [trimStart] at hself
  rw [trimEnd, hself, List.reverse_reverse]

theorem Trimmed.trim_eq (h : Trimmed s t) : trim s = t := by
  obtain ⟨⟨b, e, hb, he, rfl⟩, hhead, hlast⟩ := h
  have hstart : trimStart (t ++ e) = t ++ e ∨ t = [] := by
    cases t with
    | nil => exact .inr rfl
    | cons c t => exact .inl (trimStart_eq_self hhead)
  rw [trim, List.append_assoc, trimStart_append hb]
  rcases hstart with hstart | rfl
  · rw [hstart, trimEnd_append t he, trimEnd_eq_self hlast]
  · rw [List.nil_append, trimStart, List.dropWhile_eq_nil_iff.mpr he]
    rfl

theorem trimmed_trim (s : List Char) : Trimmed s (trim s) := by
  have hstart : s = s.takeWhile isBlank ++ trimStart s :=
    (List.takeWhile_append_dropWhile (p := isBlank)).symm
  have hend : trimStart s = trim s ++ ((trimStart s).reverse.takeWhile isBlank).reverse := by
    rw [trim, trimEnd, ← List.reverse_append, List.takeWhile_append_dropWhile, List.reverse_reverse]
  constructor
  case around =>
    refine ⟨s.takeWhile isBlank, ((trimStart s).reverse.takeWhile isBlank).reverse,
      allBlank_takeWhile s, ?_, ?_⟩
    · exact fun c hc => allBlank_takeWhile _ c (List.mem_reverse.mp hc)
    · rw [List.append_assoc, ← hend]
      exact hstart
  case head =>
    -- What is left begins as it does before its end is looked at.
    intro c hc
    refine not_isBlank_head_dropWhile s c ?_
    rw [← trimStart, hend, List.head?_append, hc]
    rfl
  case last =>
    intro c hc
    rw [trim, trimEnd, List.getLast?_reverse] at hc
    exact not_isBlank_head_dropWhile _ c hc

theorem trim_eq_iff : trim s = t ↔ Trimmed s t := ⟨fun h => h ▸ trimmed_trim s, Trimmed.trim_eq⟩

theorem trim_around (hb : AllBlank b) (s : List Char) (he : AllBlank e) :
    trim (b ++ s ++ e) = trim s := by
  obtain ⟨⟨b', e', hb', he', hs⟩, hhead, hlast⟩ := trimmed_trim s
  refine Trimmed.trim_eq ⟨⟨b ++ b', e' ++ e, ?_, ?_, ?_⟩, hhead, hlast⟩
  · exact fun c hc => (List.mem_append.mp hc).elim (hb c) (hb' c)
  · exact fun c hc => (List.mem_append.mp hc).elim (he' c) (he c)
  · calc b ++ s ++ e = b ++ (b' ++ trim s ++ e') ++ e := by rw [← hs]
      _ = b ++ b' ++ trim s ++ (e' ++ e) := by simp only [List.append_assoc]

end PackageMarket.Text

namespace PackageMarket.Text

variable {sep : Char}

/-- The first piece goes on from what has been read of it, behind the pieces that are done. -/
theorem exists_splitOn_go (sep : Char) (s : List Char) :
    ∃ (p : List Char) (ps : List (List Char)), ∀ (piece : List Char) (done : List (List Char)),
      splitOn.go sep piece done s = done.reverse ++ (piece.reverse ++ p) :: ps := by
  induction s with
  | nil => exact ⟨[], [], fun piece done => by simp [splitOn.go]⟩
  | cons c s ih =>
    obtain ⟨p, ps, h⟩ := ih
    by_cases hc : c = sep
    · exact ⟨[], p :: ps, fun piece done => by simp [splitOn.go, hc, h]⟩
    · exact ⟨c :: p, ps, fun piece done => by simp [splitOn.go, hc, h]⟩

theorem exists_splitOn_eq_cons (sep : Char) (s : List Char) :
    ∃ (p : List Char) (ps : List (List Char)), splitOn sep s = p :: ps := by
  obtain ⟨p, ps, h⟩ := exists_splitOn_go sep s
  exact ⟨p, ps, h [] []⟩

theorem splitOn_cons_self (s : List Char) : splitOn sep (sep :: s) = [] :: splitOn sep s := by
  obtain ⟨p, ps, h⟩ := exists_splitOn_go sep s
  simp [splitOn, splitOn.go, h]

theorem splitOn_cons_of_ne {c : Char} {s p : List Char} {ps : List (List Char)} (hc : c ≠ sep)
    (hs : splitOn sep s = p :: ps) : splitOn sep (c :: s) = (c :: p) :: ps := by
  obtain ⟨q, qs, h⟩ := exists_splitOn_go sep s
  simp_all [splitOn, splitOn.go]

theorem joinWith_cons_ne_nil (s p : List Char) {ps : List (List Char)} (h : ps ≠ []) :
    joinWith s (p :: ps) = p ++ s ++ joinWith s ps := by
  obtain ⟨q, qs, rfl⟩ := List.exists_cons_of_ne_nil h
  rfl

theorem joinWith_splitOn (sep : Char) (s : List Char) : joinWith [sep] (splitOn sep s) = s := by
  induction s with
  | nil => rfl
  | cons c s ih =>
    obtain ⟨p, ps, hs⟩ := exists_splitOn_eq_cons sep s
    by_cases hc : c = sep
    · rw [hc, splitOn_cons_self, joinWith_cons_ne_nil _ _ (by simp [hs]), ih]
      rfl
    · rw [splitOn_cons_of_ne hc hs]
      rw [hs] at ih
      cases ps with
      | nil => simpa [joinWith] using ih
      | cons q qs => simpa [joinWith] using ih

theorem not_mem_of_mem_splitOn {s p : List Char} (h : p ∈ splitOn sep s) : sep ∉ p := by
  induction s generalizing p with
  | nil =>
    obtain rfl := List.mem_singleton.mp h
    exact List.not_mem_nil
  | cons c s ih =>
    obtain ⟨q, qs, hs⟩ := exists_splitOn_eq_cons sep s
    by_cases hc : c = sep
    · rw [hc, splitOn_cons_self] at h
      rcases List.mem_cons.mp h with rfl | h
      · exact List.not_mem_nil
      · exact ih h
    · rw [splitOn_cons_of_ne hc hs] at h
      rw [hs] at ih
      rcases List.mem_cons.mp h with rfl | h
      · simp [Ne.symm hc, ih List.mem_cons_self]
      · exact ih (List.mem_cons_of_mem q h)

theorem splitOn_of_not_mem {s : List Char} (h : sep ∉ s) : splitOn sep s = [s] := by
  induction s with
  | nil => rfl
  | cons c s ih =>
    simp only [List.mem_cons, not_or] at h
    exact splitOn_cons_of_ne (Ne.symm h.1) (ih h.2)

theorem splitOn_append {p : List Char} (h : sep ∉ p) (s : List Char) :
    splitOn sep (p ++ sep :: s) = p :: splitOn sep s := by
  induction p with
  | nil => exact splitOn_cons_self s
  | cons c p ih =>
    simp only [List.mem_cons, not_or] at h
    exact splitOn_cons_of_ne (Ne.symm h.1) (ih h.2)

theorem splitOn_joinWith {ps : List (List Char)} (hne : ps ≠ []) (h : ∀ p ∈ ps, sep ∉ p) :
    splitOn sep (joinWith [sep] ps) = ps := by
  induction ps with
  | nil => exact absurd rfl hne
  | cons p ps ih =>
    obtain ⟨hp, hps⟩ := List.forall_mem_cons.mp h
    cases ps with
    | nil => exact splitOn_of_not_mem hp
    | cons q qs =>
      rw [joinWith_cons_ne_nil _ _ (List.cons_ne_nil q qs), List.append_assoc,
        List.singleton_append, splitOn_append hp, ih (List.cons_ne_nil q qs) hps]

def ended (sep : Char) (ps : List (List Char)) : List Char := ps.flatMap (· ++ [sep])

def begun (sep : Char) (ps : List (List Char)) : List Char := ps.flatMap (sep :: ·)

theorem ended_cons (p : List Char) (ps : List (List Char)) :
    ended sep (p :: ps) = p ++ sep :: ended sep ps := by
  simp [ended]

theorem ended_concat (ps : List (List Char)) (p : List Char) :
    ended sep (ps ++ [p]) = ended sep ps ++ p ++ [sep] := by
  simp [ended]

theorem begun_cons (p : List Char) (ps : List (List Char)) :
    begun sep (p :: ps) = sep :: (p ++ begun sep ps) := by
  simp [begun]

theorem joinWith_cons (p : List Char) (ps : List (List Char)) :
    joinWith [sep] (p :: ps) = p ++ begun sep ps := by
  induction ps generalizing p with
  | nil => simp [joinWith, begun]
  | cons q qs ih =>
    rw [joinWith_cons_ne_nil _ _ (List.cons_ne_nil q qs), ih, begun_cons]
    simp

theorem joinWith_around (above : List (List Char)) (p : List Char) (below : List (List Char)) :
    joinWith [sep] (above ++ p :: below) = ended sep above ++ p ++ begun sep below := by
  induction above with
  | nil => exact joinWith_cons p below
  | cons q qs ih =>
    rw [List.cons_append, joinWith_cons_ne_nil _ _ (by simp), ih, ended_cons]
    simp

theorem count_ended {ps : List (List Char)} (h : ∀ p ∈ ps, sep ∉ p) :
    (ended sep ps).count sep = ps.length := by
  induction ps with
  | nil => rfl
  | cons p ps ih =>
    obtain ⟨hp, hps⟩ := List.forall_mem_cons.mp h
    rw [ended_cons, List.count_append, List.count_eq_zero.mpr hp, List.count_cons_self, ih hps,
      List.length_cons]
    omega

theorem exists_ended_append (sep : Char) (s : List Char) :
    ∃ (ps : List (List Char)) (q : List Char),
      s = ended sep ps ++ q ∧ (∀ p ∈ ps, sep ∉ p) ∧ sep ∉ q := by
  have hjoin := joinWith_splitOn sep s
  have hpieces (p : List Char) (hp : p ∈ splitOn sep s) : sep ∉ p := not_mem_of_mem_splitOn hp
  obtain ⟨ps, q, hsplit⟩ : ∃ (ps : List (List Char)) (q : List Char),
      splitOn sep s = ps ++ [q] := by
    obtain ⟨p, ps, hs⟩ := exists_splitOn_eq_cons sep s
    exact ⟨_, _, (List.dropLast_concat_getLast (by simp [hs])).symm⟩
  rw [hsplit] at hjoin hpieces
  rw [joinWith_around] at hjoin
  refine ⟨ps, q, by simpa [begun] using hjoin.symm, fun p hp => hpieces p (by simp [hp]), ?_⟩
  exact hpieces q (by simp)

end PackageMarket.Text
