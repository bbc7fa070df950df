import PackageMarket.Json.Reader
import PackageMarket.Proofs.Json.Literal

set_option autoImplicit false

namespace PackageMarket.Json

open Text

variable {s t u : List Char} {c d : Char} {first : Bool}

theorem skipSpace_append (hs : skipSpace s = c :: t) (more : List Char) :
    skipSpace (s ++ more) = c :: (t ++ more) := by
  have hdrop : s.dropWhile isSpace = c :: t := hs
  rw [skipSpace, List.dropWhile_append, hdrop]
  rfl

theorem isSpace_of_skipSpace (hs : skipSpace s = c :: t) : isSpace c = false := by
  have hhead := List.head?_dropWhile_not isSpace s
  rw [← skipSpace, hs] at hhead
  exact hhead

theorem skipSpace_self (hc : isSpace c = false) : skipSpace (c :: t) = c :: t :=
  List.dropWhile_cons_of_neg (by simp [hc])

theorem nextItem_done (first : Bool) (hs : skipSpace s = ']' :: t) :
    ∃ lt, nextItem first s = .ok (.done t lt) := by
  refine ⟨length_lt_of_skipSpace hs, ?_⟩
  unfold nextItem
  split
  · rename_i h
    cases hs.symm.trans h
  · rename_i h
    obtain ⟨rfl, rfl⟩ := List.cons.inj (hs.symm.trans h)
    exact if_pos rfl

theorem nextItem_first (hs : skipSpace s = c :: t) (hc : c ≠ ']') :
    ∃ le, nextItem true s = .ok (.item (c :: t) le) := by
  refine ⟨length_cons_le_of_skipSpace hs, ?_⟩
  unfold nextItem
  split
  · rename_i h
    cases hs.symm.trans h
  · rename_i h
    obtain ⟨rfl, rfl⟩ := List.cons.inj (hs.symm.trans h)
    exact if_neg hc

theorem nextItem_later (hs : skipSpace s = ',' :: t) (ht : skipSpace t = c :: u) (hc : c ≠ ']') :
    ∃ le, nextItem false s = .ok (.item (c :: u) le) := by
  have hle : (c :: u).length ≤ s.length :=
    Nat.le_trans (length_cons_le_of_skipSpace ht) (length_le_of_skipSpace hs)
  refine ⟨hle, ?_⟩
  unfold nextItem
  split
  · rename_i h
    cases hs.symm.trans h
  · rename_i h
    obtain ⟨rfl, rfl⟩ := List.cons.inj (hs.symm.trans h)
    dsimp only
    rw [if_neg (by decide), if_neg (by decide), if_pos rfl]
    split
    · rename_i h
      cases ht.symm.trans h
    · rename_i h
      obtain ⟨rfl, rfl⟩ := List.cons.inj (ht.symm.trans h)
      exact if_neg hc

/-- All that can come next in an array. -/
inductive NextItem : (first : Bool) → (s : List Char) → Next s → Prop where
  | done {first : Bool} {s t : List Char} {lt : t.length < s.length} : skipSpace s = ']' :: t →
      NextItem first s (.done t lt)
  | first {s t : List Char} {c : Char} {le : (c :: t).length ≤ s.length} :
      skipSpace s = c :: t → c ≠ ']' →
      NextItem true s (.item (c :: t) le)
  | later {s t u : List Char} {c : Char} {le : (c :: u).length ≤ s.length} :
      skipSpace s = ',' :: t → skipSpace t = c :: u → c ≠ ']' → NextItem false s (.item (c :: u) le)

theorem nextItem_cases {n : Next s} (h : nextItem first s = .ok n) : NextItem first s n := by
  unfold nextItem at h
  split at h
  · cases h
  · rename_i hs
    dsimp only at h
    split at h
    · rename_i hc
      subst hc
      cases h
      exact .done hs
    rename_i hc
    split at h
    · rename_i hfirst
      subst hfirst
      cases h
      exact .first hs hc
    rename_i hfirst
    obtain rfl := Bool.of_not_eq_true hfirst
    split at h
    · rename_i hcomma
      subst hcomma
      split at h
      · cases h
      · rename_i ht
        split at h
        · cases h
        · cases h
          exact .later hs ht ‹_›
    · cases h

theorem nextMember_done (first : Bool) (hs : skipSpace s = '\x7d' :: t) :
    ∃ lt, nextMember first s = .ok (.done t lt) := by
  refine ⟨length_lt_of_skipSpace hs, ?_⟩
  unfold nextMember
  split
  · rename_i h
    cases hs.symm.trans h
  · rename_i h
    obtain ⟨rfl, rfl⟩ := List.cons.inj (hs.symm.trans h)
    exact if_pos rfl

theorem nextMember_first (hs : skipSpace s = '"' :: t) :
    ∃ le, nextMember true s = .ok (.item t le) := by
  refine ⟨length_le_of_skipSpace hs, ?_⟩
  unfold nextMember
  split
  · rename_i h
    cases hs.symm.trans h
  · rename_i h
    obtain ⟨rfl, rfl⟩ := List.cons.inj (hs.symm.trans h)
    dsimp only
    rw [if_neg (by decide), if_pos rfl, if_pos rfl]

theorem nextMember_later (hs : skipSpace s = ',' :: t) (ht : skipSpace t = '"' :: u) :
    ∃ le, nextMember false s = .ok (.item u le) := by
  refine ⟨Nat.le_trans (length_le_of_skipSpace ht) (length_le_of_skipSpace hs), ?_⟩
  unfold nextMember
  split
  · rename_i h
    cases hs.symm.trans h
  · rename_i h
    obtain ⟨rfl, rfl⟩ := List.cons.inj (hs.symm.trans h)
    dsimp only
    rw [if_neg (by decide), if_neg (by decide), if_pos rfl]
    split
    · rename_i h
      cases ht.symm.trans h
    · rename_i h
      obtain ⟨rfl, rfl⟩ := List.cons.inj (ht.symm.trans h)
      exact if_pos rfl

inductive NextMember : (first : Bool) → (s : List Char) → Next s → Prop where
  | done {first : Bool} {s t : List Char} {lt : t.length < s.length} : skipSpace s = '\x7d' :: t →
      NextMember first s (.done t lt)
  | first {s t : List Char} {le : t.length ≤ s.length} : skipSpace s = '"' :: t →
      NextMember true s (.item t le)
  | later {s t u : List Char} {le : u.length ≤ s.length} : skipSpace s = ',' :: t →
      skipSpace t = '"' :: u → NextMember false s (.item u le)

theorem nextMember_cases {n : Next s} (h : nextMember first s = .ok n) : NextMember first s n := by
  unfold nextMember at h
  split at h
  · cases h
  · rename_i hs
    dsimp only at h
    split at h
    · rename_i hc
      subst hc
      cases h
      exact .done hs
    split at h
    · rename_i hfirst
      subst hfirst
      split at h
      · rename_i hc
        subst hc
        cases h
        exact .first hs
      · cases h
    rename_i hfirst
    obtain rfl := Bool.of_not_eq_true hfirst
    split at h
    · rename_i hcomma
      subst hcomma
      split at h
      · cases h
      · rename_i ht
        split at h
        · rename_i hc
          subst hc
          cases h
          exact .later hs ht
        split at h
        · cases h
        · cases h
    · cases h

theorem colon_of_skipSpace (hs : skipSpace s = ':' :: t) : Reads (colon s) () t := by
  refine ⟨length_lt_of_skipSpace hs, ?_⟩
  unfold colon
  split
  · rename_i h
    cases hs.symm.trans h
  · rename_i h
    obtain ⟨rfl, rfl⟩ := List.cons.inj (hs.symm.trans h)
    exact if_pos rfl

theorem skipSpace_of_colon {r : Read Unit s} (h : colon s = .ok r) :
    skipSpace s = ':' :: r.rest := by
  unfold colon at h
  split at h
  · cases h
  · rename_i hs
    split at h
    · rename_i hc
      subst hc
      cases h
      exact hs
    · cases h

theorem whole_eq_ok {α : Type} {read : Reader α} {s : List Char} {a : α} :
    whole read s = .ok a ↔ ∃ rest, Reads (read s) a rest ∧ skipSpace rest = [] := by
  constructor
  · intro h
    obtain ⟨r, hr, h⟩ := exists_of_bind_eq_ok h
    split at h
    · cases h
      exact ⟨r.rest, ⟨r.shorter, hr⟩, ‹_›⟩
    · cases h
  · rintro ⟨rest, ⟨lt, hr⟩, hrest⟩
    simp only [whole, hr, bind, Except.bind]
    split
    · rfl
    · rename_i hcons
      cases hrest.symm.trans hcons

end PackageMarket.Json
