import PackageMarket.Proofs.Json.Spelled

set_option autoImplicit false

/-!
What is read does not depend on what follows. A reader that has come to the end of what it reads
gives the same of any longer text; only a number must not go on there.
-/

namespace PackageMarket.Json

open Text

/-- Reads the same of every longer text. -/
def Stable {α : Type} (read : Reader α) : Prop :=
  ∀ ⦃s : List Char⦄ ⦃r : Read α s⦄ (more : List Char), read s = .ok r →
    Reads (read (s ++ more)) r.value (r.rest ++ more)

def Extends {α : Type} (read read' : Reader α) : Prop :=
  ∀ ⦃s : List Char⦄ ⦃r : Read α s⦄ ⦃more : List Char⦄, read s = .ok r →
    EndsNumber (r.rest ++ more) →
    Reads (read' (s ++ more)) r.value (r.rest ++ more)

/-- Reads the same of every longer text on which no number goes on. -/
def Local {α : Type} (read : Reader α) : Prop := Extends read read

theorem Stable.reads {α : Type} {read : Reader α} (h : Stable read) {s rest : List Char} {a : α}
    (ha : Reads (read s) a rest) (more : List Char) :
    Reads (read (s ++ more)) a (rest ++ more) := by
  obtain ⟨lt, ha⟩ := ha
  exact h more ha

theorem Extends.reads {α : Type} {read read' : Reader α} (h : Extends read read')
    {s rest more : List Char} {a : α} (ha : Reads (read s) a rest)
    (hmore : EndsNumber (rest ++ more)) :
    Reads (read' (s ++ more)) a (rest ++ more) := by
  obtain ⟨lt, ha⟩ := ha
  exact h ha hmore

theorem hexUnit_stable : Stable hexUnit := by
  intro s r more h
  unfold hexUnit at h
  split at h
  · split at h
    · rename_i ha hb hc hd
      cases h
      simp only [List.cons_append, hexUnit, ha, hb, hc, hd]
      exact ⟨_, rfl⟩
    · cases h
  · cases h

theorem lowSurrogate_stable : Stable lowSurrogate := by
  intro s r more h
  unfold lowSurrogate at h
  split at h
  · cases h
  split at h
  · cases h
  rename_i hback
  split at h
  · cases h
  split at h
  · cases h
  rename_i hmark
  obtain ⟨u, hunit, h⟩ := exists_of_bind_eq_ok h
  split at h
  · rename_i hlow
    cases h
    obtain ⟨lt, hunit⟩ := hexUnit_stable more hunit
    simp only [List.cons_append, lowSurrogate, hback, hmark, hunit, bind, Except.bind, hlow]
    exact ⟨_, rfl⟩
  · cases h

theorem codePoint_stable : Stable codePoint := by
  intro s r more h
  obtain ⟨u, hunit, h⟩ := exists_of_bind_eq_ok h
  obtain ⟨lt, hunit⟩ := hexUnit_stable more hunit
  split at h
  · cases h
  rename_i hlow
  unfold codePoint
  rw [hunit]
  dsimp only [bind, Except.bind]
  rw [if_neg hlow]
  split at h
  · rename_i hhigh
    obtain ⟨l, hsurrogate, h⟩ := exists_of_bind_eq_ok h
    obtain ⟨lt', hsurrogate⟩ := lowSurrogate_stable more hsurrogate
    rw [if_pos hhigh, hsurrogate, ← Except.ok.inj h]
    refine ⟨Nat.lt_trans lt' lt, ?_⟩
    simp only [Read.behind, Read.map, Read.widen]
  · rename_i hhigh
    cases h
    rw [if_neg hhigh]
    exact ⟨_, rfl⟩

theorem escaped_stable : Stable escaped := by
  intro s r more h
  unfold escaped at h
  split at h
  · cases h
  split at h
  · rename_i hmark
    obtain ⟨u, hpoint, h⟩ := exists_of_bind_eq_ok h
    cases h
    obtain ⟨lt, hpoint⟩ := codePoint_stable more hpoint
    simp only [List.cons_append, escaped, hmark, hpoint, bind, Except.bind, if_true]
    exact ⟨_, rfl⟩
  · rename_i hmark
    split at h
    · rename_i x hx
      cases h
      simp only [List.cons_append, escaped, hmark, hx, if_false]
      exact ⟨_, rfl⟩
    · cases h

theorem quotedAfter_stable (done : List Char) : Stable (quotedAfter done) := by
  intro s r more h
  fun_induction quotedAfter done s with
  | case1 | case3 | case4 | case6 | case7 => cases h
  | case2 =>
    cases h
    rw [List.cons_append, quotedAfter, if_pos rfl]
    exact ⟨_, rfl⟩
  | case5 =>
    rename_i u hu t ht _ ih
    cases h
    obtain ⟨lt, hu⟩ := escaped_stable more hu
    obtain ⟨lt', hmore⟩ := ih ht
    rw [List.cons_append, quotedAfter, if_neg (by decide), if_pos rfl, hu]
    simp only [hmore]
    exact ⟨_, rfl⟩
  | case8 done c s hquote hback hshown t ht ih =>
    cases h
    obtain ⟨lt, hmore⟩ := ih ht
    rw [List.cons_append, quotedAfter, if_neg hquote, if_neg hback, if_neg hshown, hmore]
    exact ⟨_, rfl⟩

theorem quoted_stable : Stable quoted := quotedAfter_stable []

theorem wordRest_append {w s : List Char} {r : Rest s} (h : wordRest w s = .ok r)
    (more : List Char) :
    ∃ u : Rest (s ++ more), wordRest w (s ++ more) = .ok u ∧ u.text = r.text ++ more := by
  induction w generalizing s with
  | nil =>
    cases h
    exact ⟨_, rfl, rfl⟩
  | cons c w ih =>
    cases s with
    | nil => cases h
    | cons d s =>
      unfold wordRest at h
      split at h
      · rename_i hc
        obtain ⟨u, hu, h⟩ := exists_of_bind_eq_ok h
        cases h
        obtain ⟨u', hu', htext⟩ := ih hu
        rw [List.cons_append, wordRest, if_pos hc, hu']
        exact ⟨_, rfl, htext⟩
      · cases h

theorem scalar_local : Local scalar := by
  intro s r more h hmore
  have hword {w s : List Char} {v : Value} {c : Char} {r : Read Value (c :: s)}
      (h : (wordRest w s >>= fun u => .ok (.upTo v c u)) = .ok r) :
      Reads (s := c :: (s ++ more)) (wordRest w (s ++ more) >>= fun u => .ok (.upTo v c u)) r.value
        (r.rest ++ more) := by
    obtain ⟨u, hu, h⟩ := exists_of_bind_eq_ok h
    cases h
    obtain ⟨u', hu', htext⟩ := wordRest_append hu more
    rw [hu']
    exact reads_of_eq_ok rfl htext
  unfold scalar at h
  split at h
  · cases h
  rw [List.cons_append]
  unfold scalar
  dsimp only at h ⊢
  split at h
  · rw [if_pos ‹_›]
    exact hword h
  rw [if_neg ‹_›]
  split at h
  · rw [if_pos ‹_›]
    exact hword h
  rw [if_neg ‹_›]
  split at h
  · rw [if_pos ‹_›]
    exact hword h
  rw [if_neg ‹_›]
  split at h
  · rw [if_pos ‹_›]
    obtain ⟨u, hnumber, h⟩ := exists_of_bind_eq_ok h
    cases h
    have hread := Number.read_append hnumber hmore
    rw [List.cons_append] at hread
    obtain ⟨lt, hread⟩ := hread
    rw [hread]
    exact ⟨_, rfl⟩
  rw [if_neg ‹_›]
  split at h
  · rw [if_pos ‹_›]
    obtain ⟨u, hquoted, h⟩ := exists_of_bind_eq_ok h
    cases h
    obtain ⟨lt, hquoted⟩ := quoted_stable more hquoted
    rw [hquoted]
    exact ⟨_, rfl⟩
  · cases h

theorem colon_stable : Stable colon := by
  intro s r more h
  exact colon_of_skipSpace (skipSpace_append (skipSpace_of_colon h) more)

section

variable {s t : List Char} {c : Char} {first : Bool}

theorem nextItem_done_append {lt : t.length < s.length} (h : nextItem first s = .ok (.done t lt))
    (more : List Char) : ∃ lt', nextItem first (s ++ more) = .ok (.done (t ++ more) lt') := by
  cases nextItem_cases h with
  | done hs => exact nextItem_done first (skipSpace_append hs more)

theorem nextItem_item_append {le : t.length ≤ s.length} (h : nextItem first s = .ok (.item t le))
    (more : List Char) : ∃ le', nextItem first (s ++ more) = .ok (.item (t ++ more) le') := by
  cases nextItem_cases h with
  | first hs hc => exact nextItem_first (skipSpace_append hs more) hc
  | later hs ht hc => exact nextItem_later (skipSpace_append hs more) (skipSpace_append ht more) hc

theorem nextMember_done_append {lt : t.length < s.length}
    (h : nextMember first s = .ok (.done t lt))
    (more : List Char) : ∃ lt', nextMember first (s ++ more) = .ok (.done (t ++ more) lt') := by
  cases nextMember_cases h with
  | done hs => exact nextMember_done first (skipSpace_append hs more)

theorem nextMember_item_append {le : t.length ≤ s.length}
    (h : nextMember first s = .ok (.item t le))
    (more : List Char) : ∃ le', nextMember first (s ++ more) = .ok (.item (t ++ more) le') := by
  cases nextMember_cases h with
  | first hs => exact nextMember_first (skipSpace_append hs more)
  | later hs ht => exact nextMember_later (skipSpace_append hs more) (skipSpace_append ht more)

theorem endsNumber_of_skipSpace (hs : skipSpace s = c :: t)
    (hc : Decimal.isDigit c = false ∧ c ≠ '.' ∧ c ≠ 'e' ∧ c ≠ 'E') (more : List Char) :
    EndsNumber (s ++ more) := by
  have htext : s = s.takeWhile isSpace ++ c :: t := by
    rw [← hs]
    exact List.takeWhile_append_dropWhile.symm
  have hblank : Blank (s.takeWhile isSpace) :=
    fun _ hd => List.all_eq_true.mp List.all_takeWhile _ hd
  rw [htext, List.append_assoc]
  exact endsNumber_blank hblank hc

theorem endsNumber_of_nextItem {n : Next s} (h : nextItem false s = .ok n) (more : List Char) :
    EndsNumber (s ++ more) := by
  cases nextItem_cases h with
  | done hs => exact endsNumber_of_skipSpace hs (by decide) more
  | later hs => exact endsNumber_of_skipSpace hs (by decide) more

theorem endsNumber_of_nextMember {n : Next s} (h : nextMember false s = .ok n) (more : List Char) :
    EndsNumber (s ++ more) := by
  cases nextMember_cases h with
  | done hs => exact endsNumber_of_skipSpace hs (by decide) more
  | later hs => exact endsNumber_of_skipSpace hs (by decide) more

end

theorem endsNumber_of_itemsFrom {α : Type} {item : Reader α} {s : List Char} {r : Read (List α) s}
    (h : itemsFrom item false s = .ok r) (more : List Char) : EndsNumber (s ++ more) := by
  cases hnext : nextItem false s with
  | error f =>
    rw [itemsFrom, hnext] at h
    cases h
  | ok n => exact endsNumber_of_nextItem hnext more

theorem endsNumber_of_membersFrom {item : Reader Value} {ms : List (String × Value)} {s : List Char}
    {r : Read (List (String × Value)) s} (h : membersFrom item false ms s = .ok r)
    (more : List Char) : EndsNumber (s ++ more) := by
  cases hnext : nextMember false s with
  | error f =>
    rw [membersFrom, hnext] at h
    cases h
  | ok n => exact endsNumber_of_nextMember hnext more

theorem itemsFrom_extends {α : Type} {item item' : Reader α} (hitem : Extends item item')
    {first : Bool} {s : List Char} {r : Read (List α) s} (more : List Char)
    (h : itemsFrom item first s = .ok r) :
    Reads (itemsFrom item' first (s ++ more)) r.value (r.rest ++ more) := by
  fun_induction itemsFrom item first s with
  | case1 | case3 | case4 => cases h
  | case2 first s t lt hnext =>
    cases h
    obtain ⟨lt', hnext⟩ := nextItem_done_append hnext more
    rw [itemsFrom, hnext]
    exact ⟨_, rfl⟩
  | case5 first s t le hnext u hu us hus ih =>
    cases h
    obtain ⟨le', hnext⟩ := nextItem_item_append hnext more
    obtain ⟨lt, hu'⟩ := hitem hu (endsNumber_of_itemsFrom hus more)
    obtain ⟨lt', hus'⟩ := ih hus
    rw [itemsFrom, hnext]
    simp only [hu', hus']
    exact ⟨_, rfl⟩

theorem membersFrom_extends {item item' : Reader Value} (hitem : Extends item item') {first : Bool}
    {ms : List (String × Value)} {s : List Char} {r : Read (List (String × Value)) s}
    (more : List Char) (h : membersFrom item first ms s = .ok r) :
    Reads (membersFrom item' first ms (s ++ more)) r.value (r.rest ++ more) := by
  fun_induction membersFrom item first ms s with
  | case1 | case3 | case4 | case5 | case6 => cases h
  | case2 first ms s t lt hnext =>
    cases h
    obtain ⟨lt', hnext⟩ := nextMember_done_append hnext more
    rw [membersFrom, hnext]
    exact ⟨_, rfl⟩
  | case7 first ms s t le hnext k hk u hu v hv us hus ih =>
    cases h
    obtain ⟨le', hnext⟩ := nextMember_item_append hnext more
    obtain ⟨lt, hk⟩ := quoted_stable more hk
    obtain ⟨ltColon, hu⟩ := colon_stable more hu
    obtain ⟨ltValue, hv⟩ := hitem hv (endsNumber_of_membersFrom hus more)
    obtain ⟨lt', hus⟩ := ih hus
    rw [membersFrom, hnext]
    simp only [hk, hu, hv, hus]
    exact ⟨_, rfl⟩

theorem value_extends {d e : Nat} (hde : d ≤ e) : Extends (value d) (value e) := by
  -- by induction on the brackets that are allowed; more of them make no difference
  induction d using Nat.strongRecOn generalizing e with
  | ind d ih =>
    intro s r more h hmore
    rcases hs : skipSpace s with _ | ⟨c, t⟩
    · obtain ⟨f, hf, -⟩ := value_fails_of_end (d := d) hs
      cases hf.symm.trans h
    have hinside {n : Nat} (hn : n + 1 ≤ e) (hd : n < d) :
        ∃ m, e = m + 1 ∧ Extends (value n) (value m) :=
      ⟨e - 1, by omega, ih n hd (by omega)⟩
    rw [value_eq hs] at h
    rw [value_eq (skipSpace_append hs more)]
    split at h
    · rw [if_pos ‹_›]
      cases d with
      | zero => cases h
      | succ d =>
        obtain ⟨m, rfl, hitem⟩ := hinside hde (Nat.lt_succ_self d)
        obtain ⟨u, hu, h⟩ := exists_of_bind_eq_ok h
        cases h
        obtain ⟨lt, hu⟩ := itemsFrom_extends hitem more hu
        simp only [items, hu, bind, Except.bind]
        exact ⟨_, rfl⟩
    rw [if_neg ‹_›]
    split at h
    · rw [if_pos ‹_›]
      cases d with
      | zero => cases h
      | succ d =>
        obtain ⟨m, rfl, hitem⟩ := hinside hde (Nat.lt_succ_self d)
        obtain ⟨u, hu, h⟩ := exists_of_bind_eq_ok h
        cases h
        obtain ⟨lt, hu⟩ := membersFrom_extends hitem more hu
        simp only [members, hu, bind, Except.bind]
        exact ⟨_, rfl⟩
    rw [if_neg ‹_›]
    obtain ⟨u, hu, h⟩ := exists_of_bind_eq_ok h
    cases h
    have hu' := scalar_local hu hmore
    rw [List.cons_append] at hu'
    obtain ⟨lt, hu'⟩ := hu'
    rw [hu']
    exact ⟨_, rfl⟩

end PackageMarket.Json
