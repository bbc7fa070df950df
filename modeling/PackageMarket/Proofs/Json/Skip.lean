import PackageMarket.Proofs.Json.Local

set_option autoImplicit false

/-!
Passing over a value step by step: at a value, behind a bracket that opens, behind a value. No step
depends on what comes later in the text.
-/

namespace PackageMarket.Json

open Text

def Bracket.opening : Bracket → Char
  | .square => '['
  | .curly => '\x7b'

def Bracket.closing : Bracket → Char
  | .square => ']'
  | .curly => '\x7d'

/-- What comes before a value within brackets: in an object, its name. -/
inductive Due : Bracket → List Char → List Char → Prop where
  | item {s : List Char} : Due .square s s
  | member {s t : List Char} : Reads (skipName s) () t → Due .curly s t

/-- What passing over leaves of a text. -/
inductive Skips : Phase → List Bracket → List Char → List Char → Prop where
  | opening {b : Bracket} {stack : List Bracket} {s t rest : List Char} :
      skipSpace s = b.opening :: t → Skips .opened (b :: stack) t rest → Skips .start stack s rest
  | scalar {stack : List Bracket} {s t u rest : List Char} {c : Char} :
      skipSpace s = c :: t → c ≠ '[' →
      c ≠ '\x7b' → Reads (skipScalar (c :: t)) () u → Skips .behind stack u rest →
        Skips .start stack s rest
  | done {phase : Phase} {s : List Char} : phase ≠ .start → Skips phase [] s s
  | closing {phase : Phase} {b : Bracket} {stack : List Bracket} {s t rest : List Char} :
      phase ≠ .start →
      skipSpace s = b.closing :: t → Skips .behind stack t rest → Skips phase (b :: stack) s rest
  | first {b : Bracket} {stack : List Bracket} {s t u rest : List Char} {c : Char} :
      skipSpace s = c :: t → c ≠ b.closing → Due b (c :: t) u → Skips .start (b :: stack) u rest →
        Skips .opened (b :: stack) s rest
  | later {b : Bracket} {stack : List Bracket} {s t u rest : List Char} :
      skipSpace s = ',' :: t → Due b t u →
      Skips .start (b :: stack) u rest → Skips .behind (b :: stack) s rest

section

variable {phase : Phase} {b : Bracket} {stack : List Bracket} {s t rest more : List Char}

theorem skips_of_skipFrom {r : { r : List Char // r.length + phase.need ≤ s.length }}
    (h : skipFrom phase stack s = .ok r) : Skips phase stack s r.1 := by
  -- the cases that fail first; those that succeed match the steps one by one
  fun_induction skipFrom phase stack s with
  | case1 | case2 | case4 | case5 | case8 | case9 | case13 | case17 | case18 | case22 | case25 =>
    cases h
  | case11 | case14 =>
    rename_i hf _
    simp only [hf] at h
    cases h
  | case20 | case23 =>
    rename_i hf _ _ _ _
    simp only [hf] at h
    cases h
  | case3 stack s c t hs _ hc u hu ih =>
    cases h
    simp only [Bool.or_eq_true, decide_eq_true_eq] at hc
    rcases hc with rfl | rfl
    · exact .opening (b := .square) hs (ih hu)
    · exact .opening (b := .curly) hs (ih hu)
  | case6 stack s c t hs _ hc u hu v hv ih =>
    cases h
    simp only [Bool.or_eq_true, decide_eq_true_eq, not_or] at hc
    exact .scalar hs hc.1 hc.2 (reads_of_eq_ok hu rfl) (ih hv)
  | case7 | case16 =>
    cases h
    exact .done nofun
  | case10 s b stack t u hu hs _ ih | case19 s b stack t u hu hs _ ih =>
    cases h
    exact .closing (b := b) nofun (by cases b <;> exact hs) (ih hu)
  | case12 s stack c t hs _ u hc hu ih =>
    simp only [hu] at h
    cases h
    exact .first hs hc .item (ih hu)
  | case15 s stack c t hs _ k hk u hc hu ih =>
    simp only [hu] at h
    cases h
    exact .first hs hc (.member (reads_of_eq_ok hk rfl)) (ih hu)
  | case21 s stack t u hu hs _ _ ih =>
    simp only [hu] at h
    cases h
    exact .later hs .item (ih hu)
  | case24 s stack t k hk u hu hs _ _ ih =>
    simp only [hu] at h
    cases h
    exact .later hs (.member (reads_of_eq_ok hk rfl)) (ih hu)

theorem skipFrom_of_skips (h : Skips phase stack s rest) :
    ∃ r, skipFrom phase stack s = .ok r ∧ r.1 = rest := by
  -- by induction on the steps: each fixes what stands behind the blanks, and so the branch that is
  -- taken
  induction h with
  | @opening b stack s t rest hs _ ih =>
    obtain ⟨r, ih, rfl⟩ := ih
    unfold skipFrom
    dsimp only
    split
    · rename_i h
      cases hs.symm.trans h
    · rename_i h
      obtain ⟨rfl, rfl⟩ := List.cons.inj (hs.symm.trans h)
      cases b <;> simp [ih, Bracket.opening]
  | @scalar stack s t u rest c hs hlist hobject hu _ ih =>
    obtain ⟨lt, hu⟩ := hu
    obtain ⟨r, ih, rfl⟩ := ih
    unfold skipFrom
    dsimp only
    split
    · rename_i h
      cases hs.symm.trans h
    · rename_i h
      obtain ⟨rfl, rfl⟩ := List.cons.inj (hs.symm.trans h)
      simp [ih, hlist, hobject, hu]
  | @done phase s hphase =>
    cases phase with
    | start => exact absurd rfl hphase
    | opened | behind =>
      unfold skipFrom
      exact ⟨_, rfl, rfl⟩
  | @closing phase b stack s t rest hphase hs _ ih =>
    obtain ⟨r, ih, rfl⟩ := ih
    cases phase with
    | start => exact absurd rfl hphase
    | opened | behind =>
      unfold skipFrom
      dsimp only
      split
      · rename_i h
        cases hs.symm.trans h
      · rename_i h
        obtain ⟨rfl, rfl⟩ := List.cons.inj (hs.symm.trans h)
        cases b <;> simp [ih, Bracket.closing]
  | @first b stack s t u rest c hs hc hdue _ ih =>
    obtain ⟨r, ih, rfl⟩ := ih
    unfold skipFrom
    dsimp only
    split
    · rename_i h
      cases hs.symm.trans h
    · rename_i h
      obtain ⟨rfl, rfl⟩ := List.cons.inj (hs.symm.trans h)
      cases hdue with
      | item => simp [ih, show c ≠ ']' from hc]
      | member hname =>
        obtain ⟨lt, hname⟩ := hname
        simp [ih, hname, show c ≠ '\x7d' from hc]
  | @later b stack s t u rest hs hdue _ ih =>
    obtain ⟨r, ih, rfl⟩ := ih
    unfold skipFrom
    dsimp only
    split
    · rename_i h
      cases hs.symm.trans h
    · rename_i h
      obtain ⟨rfl, rfl⟩ := List.cons.inj (hs.symm.trans h)
      cases hdue with
      | item => simp [ih]
      | member hname =>
        obtain ⟨lt, hname⟩ := hname
        simp [ih, hname]

theorem skipValue_iff : Reads (skipValue s) () rest ↔ Skips .start [] s rest := by
  constructor
  · rintro ⟨lt, h⟩
    obtain ⟨r, hr, h⟩ := exists_of_bind_eq_ok h
    cases h
    exact skips_of_skipFrom hr
  · intro h
    obtain ⟨r, hr, rfl⟩ := skipFrom_of_skips h
    rw [skipValue, hr]
    exact ⟨r.2, rfl⟩

theorem skipEscaped_stable : Stable skipEscaped := by
  intro s r more h
  unfold skipEscaped at h
  split at h
  · cases h
  split at h
  · rename_i hmark
    obtain ⟨u, hunit, h⟩ := exists_of_bind_eq_ok h
    cases h
    obtain ⟨lt, hunit⟩ := hexUnit_stable more hunit
    simp only [List.cons_append, skipEscaped, hmark, hunit, bind, Except.bind, if_true]
    exact ⟨_, rfl⟩
  · rename_i hmark
    split at h
    · rename_i x hx
      cases h
      simp only [List.cons_append, skipEscaped, hmark, hx, if_false]
      exact ⟨_, rfl⟩
    · cases h

theorem skipQuoted_stable : Stable skipQuoted := by
  intro s r more h
  fun_induction skipQuoted s with
  | case1 | case3 | case4 | case6 | case7 => cases h
  | case2 =>
    cases h
    rw [List.cons_append, skipQuoted, if_pos rfl]
    exact ⟨_, rfl⟩
  | case5 =>
    rename_i u hu t ht _ ih
    cases h
    obtain ⟨lt, hu⟩ := skipEscaped_stable more hu
    obtain ⟨lt', hmore⟩ := ih ht
    rw [List.cons_append, skipQuoted, if_neg (by decide), if_pos rfl, hu]
    simp only [hmore]
    exact ⟨_, rfl⟩
  | case8 c s hquote hback hshown t ht ih =>
    cases h
    obtain ⟨lt, hmore⟩ := ih ht
    rw [List.cons_append, skipQuoted, if_neg hquote, if_neg hback, if_neg hshown, hmore]
    exact ⟨_, rfl⟩

theorem skipName_iff : Reads (skipName s) () rest ↔
    ∃ t u, skipSpace s = '"' :: t ∧ Reads (skipQuoted t) () u ∧ skipSpace u = ':' :: rest := by
  constructor
  · rintro ⟨lt, h⟩
    unfold skipName at h
    split at h
    · cases h
    · rename_i hs
      split at h
      · rename_i hc
        subst hc
        obtain ⟨k, hk, h⟩ := exists_of_bind_eq_ok h
        obtain ⟨u, hu, h⟩ := exists_of_bind_eq_ok h
        cases h
        exact ⟨_, _, hs, reads_of_eq_ok hk rfl, skipSpace_of_colon hu⟩
      · cases h
  · rintro ⟨t, u, hs, ⟨lt, hk⟩, hu⟩
    obtain ⟨ltColon, hcolon⟩ := colon_of_skipSpace hu
    unfold skipName
    split
    · rename_i h
      cases hs.symm.trans h
    · rename_i h
      obtain ⟨rfl, rfl⟩ := List.cons.inj (hs.symm.trans h)
      simp only [if_true, hk, hcolon, bind, Except.bind]
      exact ⟨_, rfl⟩

theorem skipName_append (h : Reads (skipName s) () rest) (more : List Char) :
    Reads (skipName (s ++ more)) () (rest ++ more) := by
  obtain ⟨t, u, hs, hk, hu⟩ := skipName_iff.mp h
  exact skipName_iff.mpr ⟨t ++ more, u ++ more, skipSpace_append hs more,
    skipQuoted_stable.reads hk more, skipSpace_append hu more⟩

theorem Due.append (h : Due b s t) (more : List Char) : Due b (s ++ more) (t ++ more) := by
  cases h with
  | item => exact .item
  | member hname => exact .member (skipName_append hname more)

theorem skipScalar_local : Local skipScalar := by
  intro s r more h hmore
  unfold skipScalar at h
  split at h
  · cases h
  rw [List.cons_append]
  unfold skipScalar
  dsimp only
  split at h
  · rw [if_pos ‹_›]
    obtain ⟨u, hliteral, h⟩ := exists_of_bind_eq_ok h
    cases h
    have hread := Literal.read_append .invalidNumber hliteral hmore
    rw [List.cons_append] at hread
    obtain ⟨lt, hread⟩ := hread
    rw [hread]
    exact ⟨_, rfl⟩
  rw [if_neg ‹_›]
  split at h
  · rw [if_pos ‹_›]
    obtain ⟨u, hquoted, h⟩ := exists_of_bind_eq_ok h
    cases h
    obtain ⟨lt, hquoted⟩ := skipQuoted_stable more hquoted
    rw [hquoted]
    exact ⟨_, rfl⟩
  rw [if_neg ‹_›]
  obtain ⟨u, hscalar, h⟩ := exists_of_bind_eq_ok h
  cases h
  have hread := scalar_local hscalar hmore
  rw [List.cons_append] at hread
  obtain ⟨lt, hread⟩ := hread
  rw [hread]
  exact ⟨_, rfl⟩

theorem Skips.endsNumber_within (h : Skips .behind (b :: stack) s rest) (more : List Char) :
    EndsNumber (s ++ more) := by
  cases h with
  | closing _ hs =>
    refine endsNumber_of_skipSpace hs ?_ more
    cases b <;> decide
  | later hs => exact endsNumber_of_skipSpace hs (by decide) more

theorem Skips.endsNumber (h : Skips .behind stack s rest) (hmore : EndsNumber (rest ++ more)) :
    EndsNumber (s ++ more) := by
  cases stack with
  | nil =>
    cases h with
    | done => exact hmore
  | cons b stack => exact h.endsNumber_within more

theorem Skips.append (h : Skips phase stack s rest) (hmore : EndsNumber (rest ++ more)) :
    Skips phase stack (s ++ more) (rest ++ more) := by
  induction h with
  | opening hs _ ih => exact .opening (skipSpace_append hs more) (ih hmore)
  | scalar hs hlist hobject hu hbehind ih =>
    have hread := skipScalar_local.reads hu (hbehind.endsNumber hmore)
    exact .scalar (skipSpace_append hs more) hlist hobject hread (ih hmore)
  | done hphase => exact .done hphase
  | closing hphase hs _ ih => exact .closing hphase (skipSpace_append hs more) (ih hmore)
  | first hs hc hdue _ ih =>
    exact .first (skipSpace_append hs more) hc (hdue.append more) (ih hmore)
  | later hs hdue _ ih => exact .later (skipSpace_append hs more) (hdue.append more) (ih hmore)

theorem Skips.start_of_skipSpace (h : Skips .start stack s rest) (hst : skipSpace s = skipSpace t) :
    Skips .start stack t rest := by
  cases h with
  | opening hs hopened => exact .opening (hst.symm.trans hs) hopened
  | scalar hs hlist hobject hu hbehind => exact .scalar (hst.symm.trans hs) hlist hobject hu hbehind
  | done hphase | closing hphase => exact absurd rfl hphase

theorem skipQuoted_escape (hs : Reads (skipEscaped s) () t) (ht : Reads (skipQuoted t) () rest) :
    Reads (skipQuoted ('\\' :: s)) () rest := by
  obtain ⟨lt, hs⟩ := hs
  obtain ⟨lt', ht⟩ := ht
  rw [skipQuoted, if_neg (by decide), if_pos rfl, hs]
  simp only [ht]
  exact ⟨_, rfl⟩

theorem skipEscaped_unit {n : Nat} (h : Reads (hexUnit s) n t) :
    Reads (skipEscaped ('u' :: s)) () t := by
  obtain ⟨lt, h⟩ := h
  simp only [skipEscaped, if_true, h, bind, Except.bind]
  exact ⟨_, rfl⟩

theorem lowSurrogate_text {r : Read Nat s} (h : lowSurrogate s = .ok r) :
    ∃ t, s = '\\' :: 'u' :: t ∧ Reads (hexUnit t) r.value r.rest := by
  unfold lowSurrogate at h
  split at h
  · cases h
  split at h
  · cases h
  rename_i hback
  split at h
  · cases h
  split at h
  · cases h
  rename_i hmark
  obtain ⟨u, hunit, h⟩ := exists_of_bind_eq_ok h
  split at h
  · cases h
    simp only [bne_iff_ne, ne_eq, Decidable.not_not] at hback hmark
    exact ⟨_, by rw [hback, hmark], u.shorter, hunit⟩
  · cases h

theorem skipQuoted_of_escaped {r : Read Char s} (h : escaped s = .ok r)
    (hrest : Reads (skipQuoted r.rest) () rest) :
    Reads (skipQuoted ('\\' :: s)) () rest := by
  unfold escaped at h
  split at h
  · cases h
  split at h
  · rename_i hmark
    subst hmark
    obtain ⟨p, hpoint, h⟩ := exists_of_bind_eq_ok h
    cases h
    obtain ⟨u, hunit, hpoint⟩ := exists_of_bind_eq_ok hpoint
    have hfirst := skipEscaped_unit ⟨u.shorter, hunit⟩
    split at hpoint
    · cases hpoint
    split at hpoint
    · obtain ⟨l, hlow, hpoint⟩ := exists_of_bind_eq_ok hpoint
      obtain ⟨t, htext, hsecond⟩ := lowSurrogate_text hlow
      have hp : p.rest = l.rest := congrArg Read.rest (Except.ok.inj hpoint).symm
      refine skipQuoted_escape hfirst ?_
      rw [htext]
      refine skipQuoted_escape (skipEscaped_unit hsecond) ?_
      rwa [← hp]
    · cases hpoint
      exact skipQuoted_escape hfirst hrest
  · rename_i hmark
    split at h
    · rename_i x hx
      cases h
      refine skipQuoted_escape ?_ hrest
      simp only [skipEscaped, hmark, if_false, hx]
      exact ⟨_, rfl⟩
    · cases h

theorem skipQuoted_of_quotedAfter {done : List Char} {r : Read (List Char) s}
    (h : quotedAfter done s = .ok r) :
    Reads (skipQuoted s) () r.rest := by
  fun_induction quotedAfter done s with
  | case1 | case3 | case4 | case6 | case7 => cases h
  | case2 =>
    cases h
    rw [skipQuoted, if_pos rfl]
    exact ⟨_, rfl⟩
  | case5 =>
    rename_i u hu t ht _ ih
    cases h
    exact skipQuoted_of_escaped hu (ih ht)
  | case8 done c s hquote hback hshown t ht ih =>
    cases h
    obtain ⟨lt, hskip⟩ := ih ht
    rw [skipQuoted, if_neg hquote, if_neg hback, if_neg hshown, hskip]
    exact ⟨_, rfl⟩

theorem skipScalar_of_scalar {c : Char} {r : Read Value (c :: t)} (h : scalar (c :: t) = .ok r)
    (hend : EndsNumber r.rest) : Reads (skipScalar (c :: t)) () r.rest := by
  unfold skipScalar
  dsimp only
  by_cases hnumber : (c = '-' || Decimal.isDigit c) = true
  · rw [scalar_number hnumber] at h
    obtain ⟨u, hu, h⟩ := exists_of_bind_eq_ok h
    cases h
    obtain ⟨l, hl, hu⟩ := exists_of_bind_eq_ok hu
    split at hu
    · cases hu
    · cases hu
      have hend : EndsNumber (l.rest ++ []) := by rwa [List.append_nil]
      have hread := Literal.read_append .invalidNumber hl hend
      rw [List.append_nil, List.append_nil] at hread
      obtain ⟨lt, hread⟩ := hread
      rw [if_pos hnumber, hread]
      exact ⟨_, rfl⟩
    · cases hu
  rw [if_neg hnumber]
  by_cases hquote : c = '"'
  · subst hquote
    rw [scalar_quote] at h
    obtain ⟨u, hu, h⟩ := exists_of_bind_eq_ok h
    cases h
    obtain ⟨lt, hskip⟩ := skipQuoted_of_quotedAfter hu
    rw [if_pos rfl, hskip]
    exact ⟨_, rfl⟩
  · rw [if_neg hquote, h]
    exact ⟨_, rfl⟩

theorem skipName_of_quoted {k : Read (List Char) s} {c : Read Unit k.rest} (hk : quoted s = .ok k)
    (hc : colon k.rest = .ok c) {u : List Char} (hu : skipSpace u = '"' :: s) :
    Reads (skipName u) () c.rest :=
  skipName_iff.mpr ⟨s, k.rest, hu, skipQuoted_of_quotedAfter hk, skipSpace_of_colon hc⟩

def Passes (read : Reader Value) : Prop :=
  ∀ ⦃s : List Char⦄ ⦃r : Read Value s⦄ ⦃stack : List Bracket⦄ ⦃rest : List Char⦄, read s = .ok r →
    EndsNumber r.rest →
    Skips .behind stack r.rest rest → Skips .start stack s rest

theorem Passes.within {read : Reader Value} (h : Passes read) {r : Read Value s}
    (hr : read s = .ok r) (hbehind : Skips .behind (b :: stack) r.rest rest) :
    Skips .start (b :: stack) s rest := by
  have hend := hbehind.endsNumber_within []
  rw [List.append_nil] at hend
  exact h hr hend hbehind

/-- Behind an opening bracket, or behind a value within brackets. -/
def phaseOf (first : Bool) : Phase := if first then .opened else .behind

theorem phaseOf_ne_start (first : Bool) : phaseOf first ≠ .start := by
  cases first <;> simp [phaseOf]

theorem skips_of_items {item : Reader Value} (hitem : Passes item) {first : Bool}
    {r : Read (List Value) s} (h : itemsFrom item first s = .ok r)
    (hbehind : Skips .behind stack r.rest rest) :
    Skips (phaseOf first) (.square :: stack) s rest := by
  fun_induction itemsFrom item first s with
  | case1 | case3 | case4 => cases h
  | case2 first s t lt hnext =>
    cases h
    cases nextItem_cases hnext with
    | done hs => exact .closing (phaseOf_ne_start first) hs hbehind
  | case5 first s t le hnext u hu us hus ih =>
    cases h
    have hstart := hitem.within hu (ih hus hbehind)
    cases nextItem_cases hnext with
    | first hs hc => exact .first hs hc .item hstart
    | later hs ht =>
      exact .later hs .item
        (hstart.start_of_skipSpace (by rw [ht, skipSpace_self (isSpace_of_skipSpace ht)]))

theorem skips_of_members {item : Reader Value} (hitem : Passes item) {first : Bool}
    {ms : List (String × Value)} {r : Read (List (String × Value)) s}
    (h : membersFrom item first ms s = .ok r) (hbehind : Skips .behind stack r.rest rest) :
    Skips (phaseOf first) (.curly :: stack) s rest := by
  fun_induction membersFrom item first ms s with
  | case1 | case3 | case4 | case5 | case6 => cases h
  | case2 first ms s t lt hnext =>
    cases h
    cases nextMember_cases hnext with
    | done hs => exact .closing (phaseOf_ne_start first) hs hbehind
  | case7 first ms s t le hnext k hk u hu v hv us hus ih =>
    cases h
    have hstart := hitem.within hv (ih hus hbehind)
    cases nextMember_cases hnext with
    | first hs =>
      exact .first hs (by decide) (.member (skipName_of_quoted hk hu (skipSpace_self (by decide))))
        hstart
    | later hs ht => exact .later hs (.member (skipName_of_quoted hk hu ht)) hstart

theorem passes_value (d : Nat) : Passes (value d) := by
  induction d using Nat.strongRecOn with
  | ind d ih =>
    intro s r stack rest h hend hbehind
    rcases hs : skipSpace s with _ | ⟨c, t⟩
    · obtain ⟨f, hf, -⟩ := value_fails_of_end (d := d) hs
      cases hf.symm.trans h
    rw [value_eq hs] at h
    split at h
    · rename_i hc
      subst hc
      cases d with
      | zero => cases h
      | succ d =>
        obtain ⟨u, hu, h⟩ := exists_of_bind_eq_ok h
        cases h
        exact .opening (b := .square) hs (skips_of_items (ih d (Nat.lt_succ_self d)) hu hbehind)
    split at h
    · rename_i hc
      subst hc
      cases d with
      | zero => cases h
      | succ d =>
        obtain ⟨u, hu, h⟩ := exists_of_bind_eq_ok h
        cases h
        exact .opening (b := .curly) hs (skips_of_members (ih d (Nat.lt_succ_self d)) hu hbehind)
    obtain ⟨u, hu, h⟩ := exists_of_bind_eq_ok h
    cases h
    exact .scalar hs ‹_› ‹_› (skipScalar_of_scalar hu hend) hbehind

theorem skipValue_of_value {d : Nat} {v : Value} (h : Reads (value d s) v rest)
    (hend : EndsNumber rest) : Reads (skipValue s) () rest := by
  obtain ⟨lt, h⟩ := h
  exact skipValue_iff.mpr (passes_value d h hend (.done nofun))

end

end PackageMarket.Json
