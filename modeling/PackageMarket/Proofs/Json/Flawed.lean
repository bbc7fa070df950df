import PackageMarket.Proofs.Json.Number
import PackageMarket.Proofs.Json.Syntax

set_option autoImplicit false

/-!
Texts that are refused: those that break off within brackets or a string, that open too many
brackets, that hold a number beyond all floats or half of a surrogate pair. The flaw may lie at any
depth, behind what is read without fault.
-/

namespace PackageMarket.Json

open Text

def Fails {α : Type} (k : Cause) (x : Except Fault α) : Prop :=
  ∃ f : Fault, x = .error f ∧ f.cause = k

namespace Fails

variable {α β : Type} {k : Cause}

theorem error {f : Fault} (h : f.cause = k) : Fails k (.error f : Except Fault α) := ⟨f, rfl, h⟩

theorem bind {x : Except Fault α} (h : Fails k x) (g : α → Except Fault β) : Fails k (x >>= g) := by
  obtain ⟨f, rfl, hf⟩ := h
  exact ⟨f, rfl, hf⟩

end Fails

/-- Half of a surrogate pair, after `\u`. -/
inductive HalfPair : List Char → Cause → Prop where
  | low {s : List Char} {r : Read Nat s} : hexUnit s = .ok r → isLowSurrogate r.value = true →
      HalfPair s .loneSurrogate
  | alone {s t : List Char} {r : Read Nat s} {c : Char} : hexUnit s = .ok r →
      isHighSurrogate r.value = true → r.rest = c :: t → c ≠ '\\' → HalfPair s .endOfHexEscape
  | escape {s t : List Char} {r : Read Nat s} {c : Char} : hexUnit s = .ok r →
      isHighSurrogate r.value = true → r.rest = '\\' :: c :: t → c ≠ 'u' →
        HalfPair s .endOfHexEscape
  | high {s t : List Char} {r : Read Nat s} {u : Read Nat t} : hexUnit s = .ok r →
      isHighSurrogate r.value = true → r.rest = '\\' :: 'u' :: t → hexUnit t = .ok u →
      isLowSurrogate u.value = false → HalfPair s .loneSurrogate

/-- Where something is to be read, and the brackets that may still be opened there. -/
inductive Site where
  | value (depth : Nat)
  | items (depth : Nat) (first : Bool)
  | members (depth : Nat) (first : Bool)
  | string

/-- A text with a flaw, and the cause for which it is refused. -/
inductive Flawed : Site → List Char → Cause → Prop where
  | endInValue {d : Nat} {s : List Char} : skipSpace s = [] → Flawed (.value d) s .endInValue
  | tooDeep {s t : List Char} {c : Char} : c = '[' ∨ c = '\x7b' → skipSpace s = c :: t →
      Flawed (.value 0) s .tooDeep
  | list {d : Nat} {s t : List Char} {k : Cause} : skipSpace s = '[' :: t →
      Flawed (.items d true) t k → Flawed (.value (d + 1)) s k
  | object {d : Nat} {s t : List Char} {k : Cause} : skipSpace s = '\x7b' :: t →
      Flawed (.members d true) t k → Flawed (.value (d + 1)) s k
  | string {d : Nat} {s t : List Char} {k : Cause} : skipSpace s = '"' :: t → Flawed .string t k →
      Flawed (.value d) s k
  | number {d : Nat} {s t : List Char} {c : Char} {r : Read Literal (c :: t)} :
      skipSpace s = c :: t → Literal.read .endInValue (c :: t) = .ok r → r.value.Huge →
        Flawed (.value d) s .numberOutOfRange
  | endInList {d : Nat} {first : Bool} {s : List Char} : skipSpace s = [] →
      Flawed (.items d first) s .endInList
  | endBeforeItem {d : Nat} {s t : List Char} : skipSpace s = ',' :: t → skipSpace t = [] →
      Flawed (.items d false) s .endInValue
  | item {d : Nat} {first : Bool} {s t : List Char} {le : t.length ≤ s.length} {k : Cause} :
      nextItem first s = .ok (.item t le) → Flawed (.value d) t k → Flawed (.items d first) s k
  | laterItem {d : Nat} {first : Bool} {s t : List Char} {le : t.length ≤ s.length}
      {v : Read Value t} {k : Cause} : nextItem first s = .ok (.item t le) → value d t = .ok v →
      Flawed (.items d false) v.rest k → Flawed (.items d first) s k
  | endInObject {d : Nat} {first : Bool} {s : List Char} : skipSpace s = [] →
      Flawed (.members d first) s .endInObject
  | endBeforeMember {d : Nat} {s t : List Char} : skipSpace s = ',' :: t → skipSpace t = [] →
      Flawed (.members d false) s .endInValue
  | endBeforeColon {d : Nat} {first : Bool} {s t : List Char} {le : t.length ≤ s.length}
      {n : Read (List Char) t} : nextMember first s = .ok (.item t le) → quoted t = .ok n →
      skipSpace n.rest = [] → Flawed (.members d first) s .endInObject
  | name {d : Nat} {first : Bool} {s t : List Char} {le : t.length ≤ s.length} {k : Cause} :
      nextMember first s = .ok (.item t le) → Flawed .string t k → Flawed (.members d first) s k
  | member {d : Nat} {first : Bool} {s t : List Char} {le : t.length ≤ s.length}
      {n : Read (List Char) t} {u : Read Unit n.rest} {k : Cause} :
      nextMember first s = .ok (.item t le) → quoted t = .ok n → colon n.rest = .ok u →
      Flawed (.value d) u.rest k → Flawed (.members d first) s k
  | laterMember {d : Nat} {first : Bool} {s t : List Char} {le : t.length ≤ s.length}
      {n : Read (List Char) t} {u : Read Unit n.rest} {v : Read Value u.rest} {k : Cause} :
      nextMember first s = .ok (.item t le) → quoted t = .ok n → colon n.rest = .ok u →
      value d u.rest = .ok v → Flawed (.members d false) v.rest k → Flawed (.members d first) s k
  | endInString : Flawed .string [] .endInString
  | char {s : List Char} {c : Char} {k : Cause} : c ≠ '"' → c ≠ '\\' → 0x20 ≤ c.toNat →
      Flawed .string s k → Flawed .string (c :: s) k
  | escape {s : List Char} {r : Read Char s} {k : Cause} : escaped s = .ok r →
      Flawed .string r.rest k → Flawed .string ('\\' :: s) k
  | surrogate {s : List Char} {k : Cause} : HalfPair s k → Flawed .string ('\\' :: 'u' :: s) k

section Escapes

variable {s : List Char} {k : Cause}

theorem isLowSurrogate_of_high {n : Nat} (h : isHighSurrogate n = true) :
    isLowSurrogate n = false := by
  simp only [isHighSurrogate, Bool.and_eq_true, decide_eq_true_eq] at h
  simp only [isLowSurrogate, Bool.and_eq_false_iff, decide_eq_false_iff_not]
  omega

theorem codePoint_fails_of_high {r : Read Nat s} (h : hexUnit s = .ok r)
    (hr : isHighSurrogate r.value = true) (hl : Fails k (lowSurrogate r.rest)) :
    Fails k (codePoint s) := by
  simp only [codePoint, h, bind, Except.bind, isLowSurrogate_of_high hr, hr, if_true]
  exact hl.bind _

theorem codePoint_fails (h : HalfPair s k) : Fails k (codePoint s) := by
  cases h with
  | low h hr =>
    simp only [codePoint, h, bind, Except.bind, hr, if_true]
    exact .error rfl
  | alone h hr hrest hc | escape h hr hrest hc =>
    refine codePoint_fails_of_high h hr ?_
    rw [hrest]
    simp only [lowSurrogate, bne_iff_ne.mpr hc, if_true]
    exact .error rfl
  | high h hr hrest hu hlow =>
    refine codePoint_fails_of_high h hr ?_
    rw [hrest]
    simp only [lowSurrogate, hu, hlow, bind, Except.bind]
    exact .error rfl

theorem escaped_fails (h : HalfPair s k) : Fails k (escaped ('u' :: s)) := by
  simp only [escaped, if_true]
  exact (codePoint_fails h).bind _

end Escapes

section Scalars

variable {s : List Char} {k : Cause}

theorem number_fails {r : Read Literal s} (h : Literal.read .endInValue s = .ok r)
    (hr : r.value.Huge) : Fails .numberOutOfRange (Number.read s) := by
  simp only [Number.read, h, bind, Except.bind]
  cases hu : r.value.unread with
  | some n => exact .error rfl
  | none =>
    rw [hr.value_eq_none hu]
    exact .error rfl

theorem begins_of_unsigned {atEnd : Cause} {negative : Bool} {r : Read Literal s}
    (h : Literal.unsigned atEnd negative s = .ok r) :
    ∃ (c : Char) (t : List Char), s = c :: t ∧ Decimal.isDigit c = true := by
  unfold Literal.unsigned at h
  split at h
  · cases h
  · exact ⟨_, _, rfl, rfl⟩
  · split at h
    · rename_i hd
      exact ⟨_, _, rfl, hd⟩
    · cases h

theorem begins_of_literal {atEnd : Cause} {r : Read Literal s} (h : Literal.read atEnd s = .ok r) :
    ∃ (c : Char) (t : List Char), s = c :: t ∧ (c = '-' || Decimal.isDigit c) = true := by
  unfold Literal.read at h
  split at h
  · exact ⟨_, _, rfl, rfl⟩
  · obtain ⟨c, t, hs, hd⟩ := begins_of_unsigned h
    exact ⟨c, t, hs, by rw [hd, Bool.or_true]⟩

theorem scalar_number {c : Char} (hc : (c = '-' || Decimal.isDigit c) = true) :
    scalar (c :: s) = Number.read (c :: s) >>= fun r => .ok (r.map .number) := by
  have hne {x : Char} (hx : (x = '-' || Decimal.isDigit x) = false) : c ≠ x := by
    rintro rfl
    rw [hx] at hc
    cases hc
  unfold scalar
  dsimp only
  rw [if_neg (hne (by decide)), if_neg (hne (by decide)), if_neg (hne (by decide)), if_pos hc]

theorem scalar_quote :
    scalar ('"' :: s) = quoted s >>= fun r =>
      .ok ((r.map fun cs => .string (String.ofList cs)).cons '"') := by
  unfold scalar
  dsimp only
  rw [if_neg (by decide), if_neg (by decide), if_neg (by decide), if_neg (by decide), if_pos rfl]

theorem scalar_fails_of_number {c : Char} (hc : (c = '-' || Decimal.isDigit c) = true)
    (h : Fails k (Number.read (c :: s))) : Fails k (scalar (c :: s)) := by
  rw [scalar_number hc]
  exact h.bind _

end Scalars

section Values

variable {d : Nat} {s t : List Char} {c : Char} {k : Cause}

theorem value_eq (h : skipSpace s = c :: t) :
    value d s =
      if c = '[' then
        match d with
        | 0 => .error (.inNext .tooDeep (c :: t))
        | d + 1 =>
          items (value d) t >>= fun r => .ok ((r.map .array).widen (length_le_of_skipSpace h))
      else if c = '\x7b' then
        match d with
        | 0 => .error (.inNext .tooDeep (c :: t))
        | d + 1 =>
          members (value d) t >>= fun r => .ok ((r.map .object).widen (length_le_of_skipSpace h))
      else scalar (c :: t) >>= fun r => .ok (r.widen (length_cons_le_of_skipSpace h)) := by
  unfold value
  split
  · rename_i h'
    cases h.symm.trans h'
  · rename_i c' t' h'
    obtain ⟨rfl, rfl⟩ := List.cons.inj (h.symm.trans h')
    rfl

theorem value_fails_of_end (h : skipSpace s = []) : Fails .endInValue (value d s) := by
  unfold value
  split
  · exact .error rfl
  · rename_i h'
    cases h.symm.trans h'

theorem value_fails_of_literal {r : Read Literal (c :: t)} (h : skipSpace s = c :: t)
    (hr : Literal.read .endInValue (c :: t) = .ok r) (hh : r.value.Huge) :
    Fails .numberOutOfRange (value d s) := by
  obtain ⟨c', t', hs, hc⟩ := begins_of_literal hr
  cases hs
  have hlist : c ≠ '[' := by
    rintro rfl
    cases hc
  have hobject : c ≠ '\x7b' := by
    rintro rfl
    cases hc
  rw [value_eq h, if_neg hlist, if_neg hobject]
  exact (scalar_fails_of_number hc (number_fails hr hh)).bind _

end Values

section Brackets

variable {s t : List Char}

theorem nextItem_fails_of_end (first : Bool) (h : skipSpace s = []) :
    Fails .endInList (nextItem first s) := by
  unfold nextItem
  split
  · exact .error rfl
  · rename_i h'
    cases h.symm.trans h'

theorem nextItem_fails_after_comma (h : skipSpace s = ',' :: t) (ht : skipSpace t = []) :
    Fails .endInValue (nextItem false s) := by
  unfold nextItem
  split
  · rename_i h'
    cases h.symm.trans h'
  · rename_i h'
    cases h.symm.trans h'
    dsimp only
    rw [if_neg (by decide), if_neg (by decide), if_pos rfl]
    split
    · exact .error rfl
    · rename_i h'
      cases ht.symm.trans h'

theorem nextMember_fails_of_end (first : Bool) (h : skipSpace s = []) :
    Fails .endInObject (nextMember first s) := by
  unfold nextMember
  split
  · exact .error rfl
  · rename_i h'
    cases h.symm.trans h'

theorem nextMember_fails_after_comma (h : skipSpace s = ',' :: t) (ht : skipSpace t = []) :
    Fails .endInValue (nextMember false s) := by
  unfold nextMember
  split
  · rename_i h'
    cases h.symm.trans h'
  · rename_i h'
    cases h.symm.trans h'
    dsimp only
    rw [if_neg (by decide), if_neg (by decide), if_pos rfl]
    split
    · exact .error rfl
    · rename_i h'
      cases ht.symm.trans h'

theorem colon_fails_of_end (h : skipSpace s = []) : Fails .endInObject (colon s) := by
  unfold colon
  split
  · exact .error rfl
  · rename_i h'
    cases h.symm.trans h'

end Brackets

def FailsAt : Site → List Char → Cause → Prop
  | .value d, s, k => Fails k (value d s)
  | .items d first, s, k => Fails k (itemsFrom (value d) first s)
  | .members d first, s, k =>
    ∀ ms : List (String × Value), Fails k (membersFrom (value d) first ms s)
  | .string, s, k => ∀ done : List Char, Fails k (quotedAfter done s)

theorem failsAt_of_flawed {site : Site} {s : List Char} {k : Cause} (h : Flawed site s k) :
    FailsAt site s k := by
  induction h with
  | endInValue h => exact value_fails_of_end h
  | tooDeep hc h =>
    rw [FailsAt, value_eq h]
    rcases hc with rfl | rfl
    all_goals exact .error rfl
  | list h _ ih =>
    rw [FailsAt, value_eq h, if_pos rfl]
    exact ih.bind _
  | object h _ ih =>
    rw [FailsAt, value_eq h, if_neg (by decide), if_pos rfl]
    exact (ih []).bind _
  | string h _ ih =>
    rw [FailsAt, value_eq h, if_neg (by decide), if_neg (by decide)]
    exact ((ih []).bind _).bind _
  | number h hr hh => exact value_fails_of_literal h hr hh
  | endInList h =>
    obtain ⟨f, hf, hk⟩ := nextItem_fails_of_end _ h
    rw [FailsAt, itemsFrom, hf]
    exact .error hk
  | endBeforeItem h ht =>
    obtain ⟨f, hf, hk⟩ := nextItem_fails_after_comma h ht
    rw [FailsAt, itemsFrom, hf]
    exact .error hk
  | item h _ ih =>
    obtain ⟨f, hf, rfl⟩ := ih
    rw [FailsAt, itemsFrom, h]
    simp only [hf]
    exact .error rfl
  | laterItem h hv _ ih =>
    obtain ⟨f, hf, rfl⟩ := ih
    rw [FailsAt, itemsFrom, h]
    simp only [hv, hf]
    exact .error rfl
  | endInObject h =>
    intro ms
    obtain ⟨f, hf, hk⟩ := nextMember_fails_of_end _ h
    rw [membersFrom, hf]
    exact .error hk
  | endBeforeMember h ht =>
    intro ms
    obtain ⟨f, hf, hk⟩ := nextMember_fails_after_comma h ht
    rw [membersFrom, hf]
    exact .error hk
  | endBeforeColon h hn hu =>
    intro ms
    obtain ⟨f, hf, hk⟩ := colon_fails_of_end hu
    rw [membersFrom, h]
    simp only [hn, hf]
    exact .error hk
  | name h _ ih =>
    intro ms
    obtain ⟨f, hf, rfl⟩ := ih []
    rw [membersFrom, h]
    simp only [quoted, hf]
    exact .error rfl
  | member h hn hu _ ih =>
    intro ms
    obtain ⟨f, hf, rfl⟩ := ih
    rw [membersFrom, h]
    simp only [hn, hu, hf]
    exact .error rfl
  | laterMember h hn hu hv _ ih =>
    intro ms
    rw [membersFrom, h]
    simp only [hn, hu, hv]
    obtain ⟨f, hf, rfl⟩ := ih _
    rw [hf]
    exact .error rfl
  | endInString =>
    intro done
    rw [quotedAfter]
    exact .error rfl
  | char hq hb hc _ ih =>
    intro done
    obtain ⟨f, hf, rfl⟩ := ih (_ :: done)
    rw [quotedAfter, if_neg hq, if_neg hb, if_neg (by omega), hf]
    exact .error rfl
  | escape hr _ ih =>
    intro done
    rw [quotedAfter, if_neg (by decide), if_pos rfl, hr]
    dsimp only
    obtain ⟨f, hf, rfl⟩ := ih _
    rw [hf]
    exact .error rfl
  | surrogate h =>
    intro done
    obtain ⟨f, hf, rfl⟩ := escaped_fails h
    rw [quotedAfter, if_neg (by decide), if_pos rfl, hf]
    exact .error rfl

theorem ofText_fails {s : List Char} {k : Cause} (h : Flawed (.value maxDepth) s k) :
    Fails k (Value.ofText s) :=
  (failsAt_of_flawed h).bind _

theorem flawed_of_nested (d : Nat) (s : List Char) :
    Flawed (.value d) (List.replicate (d + 1) '[' ++ s) .tooDeep := by
  induction d with
  | zero => exact .tooDeep (.inl rfl) rfl
  | succ d ih =>
    have hnext : nextItem true (List.replicate (d + 1) '[' ++ s) =
        .ok (.item (List.replicate (d + 1) '[' ++ s) (Nat.le_refl _)) := rfl
    exact .list rfl (.item hnext ih)

end PackageMarket.Json
