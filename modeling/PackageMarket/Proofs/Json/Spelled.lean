import PackageMarket.Proofs.Json.Flawed
import PackageMarket.Proofs.Json.Next
import PackageMarket.Proofs.Json.Printed
import PackageMarket.Proofs.Json.Value

set_option autoImplicit false

/-!
Texts that spell a value, with blanks wherever they may stand, and that reading them gives the
value. The members of an object may stand in any order; reading puts them in the order of their
names.
-/

namespace PackageMarket.Json

open Text

def Blank (b : List Char) : Prop := ∀ c ∈ b, isSpace c = true

theorem blank_nil : Blank [] := by
  intro c hc
  cases hc

def separator (first : Bool) : List Char := if first then [] else [',']

/-- A value within so many brackets, or what is left of an array or an object,
through its closing bracket. -/
inductive Part where
  | value (depth : Nat) (v : Value)
  | items (depth : Nat) (first : Bool) (vs : List Value)
  | members (depth : Nat) (first : Bool) (ms : List (String × Value))

inductive Spelled : Part → List Char → Prop where
  | null {d : Nat} : Spelled (.value d .null) ['n', 'u', 'l', 'l']
  | yes {d : Nat} : Spelled (.value d (.bool true)) ['t', 'r', 'u', 'e']
  | no {d : Nat} : Spelled (.value d (.bool false)) ['f', 'a', 'l', 's', 'e']
  | number {d : Nat} {n : Number} : n.ReadsBack → Spelled (.value d (.number n)) n.text
  | string {d : Nat} {s : String} : Spelled (.value d (.string s)) (quote s.toList)
  | array {d : Nat} {vs : List Value} {t : List Char} : Spelled (.items d true vs) t →
      Spelled (.value (d + 1) (.array vs)) ('[' :: t)
  | object {d : Nat} {ms : List (String × Value)} {t : List Char} : Spelled (.members d true ms) t →
      Spelled (.value (d + 1) (.object ms)) ('\x7b' :: t)
  | endItems {d : Nat} {first : Bool} {b : List Char} : Blank b →
      Spelled (.items d first []) (b ++ [']'])
  | item {d : Nat} {first : Bool} {v : Value} {vs : List Value} {b s t : List Char} : Blank b →
      Spelled (.value d v) s → Spelled (.items d false vs) t →
      Spelled (.items d first (v :: vs)) (separator first ++ (b ++ (s ++ t)))
  | endMembers {d : Nat} {first : Bool} {b : List Char} : Blank b →
      Spelled (.members d first []) (b ++ ['\x7d'])
  | member {d : Nat} {first : Bool} {name : String} {v : Value} {ms : List (String × Value)}
      {b b' s t : List Char} : Blank b → Blank b' → Spelled (.value d v) s →
      Spelled (.members d false ms) t →
      Spelled (.members d first ((name, v) :: ms))
        (separator first ++ (b ++ (quote name.toList ++ ':' :: (b' ++ (s ++ t)))))

/-- Reads every spelling of a value, wherever it stands in a text, as `a`. -/
def Accepts {α : Type} (read : Reader α) (depth : Nat) (v : Value) (a : α) : Prop :=
  ∀ ⦃s b rest : List Char⦄, Spelled (.value depth v) s → Blank b → EndsNumber rest →
    Reads (read (b ++ (s ++ rest))) a rest

section

variable {b t rest : List Char} {c : Char}

theorem skipSpace_blank_append (hb : Blank b) : skipSpace (b ++ t) = skipSpace t :=
  List.dropWhile_append_of_pos hb

theorem skipSpace_blank (hb : Blank b) (hc : isSpace c = false) :
    skipSpace (b ++ c :: t) = c :: t := by
  rw [skipSpace_blank_append hb, skipSpace_self hc]

/-- Neither a blank nor what closes or separates. -/
def Begins (c : Char) : Prop := isSpace c = false ∧ c ≠ ']' ∧ c ≠ '\x7d' ∧ c ≠ ','

theorem begins_number (h : (c = '-' || Decimal.isDigit c) = true) : Begins c := by
  refine ⟨?_, ?_, ?_, ?_⟩
  · refine Bool.eq_false_iff.mpr fun hs => ?_
    simp only [isSpace, Bool.or_eq_true, decide_eq_true_eq] at hs
    rcases hs with ((rfl | rfl) | rfl) | rfl <;> cases h
  all_goals
    rintro rfl
    cases h

theorem Number.ReadsBack.begins {n : Number} (h : n.ReadsBack) :
    ∃ c t, n.text = c :: t ∧ (c = '-' || Decimal.isDigit c) = true := by
  obtain ⟨hlt, h⟩ := h
  obtain ⟨r, hliteral, -⟩ := exists_of_bind_eq_ok h
  exact begins_of_literal hliteral

theorem Spelled.begins {d : Nat} {v : Value} {s : List Char} (h : Spelled (.value d v) s) :
    ∃ c t, s = c :: t ∧ Begins c := by
  cases h with
  | null | yes | no | array | object | string =>
    exact ⟨_, _, rfl, by decide, by decide, by decide, by decide⟩
  | number h =>
    obtain ⟨c, t, hs, hc⟩ := h.begins
    exact ⟨c, t, hs, begins_number hc⟩

theorem nextItem_of_begins (first : Bool) (hb : Blank b) (hc : Begins c) :
    ∃ le, nextItem first (separator first ++ (b ++ c :: t)) = .ok (.item (c :: t) le) := by
  have hskip : skipSpace (b ++ c :: t) = c :: t := skipSpace_blank hb hc.1
  cases first with
  | true => exact nextItem_first hskip hc.2.1
  | false => exact nextItem_later (skipSpace_self (by decide)) hskip hc.2.1

theorem nextItem_of_end (first : Bool) (hb : Blank b) :
    ∃ lt, nextItem first (b ++ ']' :: t) = .ok (.done t lt) :=
  nextItem_done first (skipSpace_blank hb (by decide))

theorem nextMember_of_quote (first : Bool) (hb : Blank b) :
    ∃ le, nextMember first (separator first ++ (b ++ '"' :: t)) = .ok (.item t le) := by
  have hskip : skipSpace (b ++ '"' :: t) = '"' :: t := skipSpace_blank hb (by decide)
  cases first with
  | true => exact nextMember_first hskip
  | false => exact nextMember_later (skipSpace_self (by decide)) hskip

theorem nextMember_of_end (first : Bool) (hb : Blank b) :
    ∃ lt, nextMember first (b ++ '\x7d' :: t) = .ok (.done t lt) :=
  nextMember_done first (skipSpace_blank hb (by decide))

theorem colon_cons :
    Reads (colon (':' :: t)) () t := colon_of_skipSpace (skipSpace_self (by decide))

theorem endsNumber_cons (hc : Decimal.isDigit c = false ∧ c ≠ '.' ∧ c ≠ 'e' ∧ c ≠ 'E') :
    EndsNumber (c :: t) := by
  rintro d hd
  obtain rfl : c = d := Option.some.inj hd
  exact hc

theorem endsNumber_of_isSpace (hc : isSpace c = true) : EndsNumber (c :: t) := by
  simp only [isSpace, Bool.or_eq_true, decide_eq_true_eq] at hc
  rcases hc with ((rfl | rfl) | rfl) | rfl <;> exact endsNumber_cons (by decide)

theorem endsNumber_blank (hb : Blank b)
    (hc : Decimal.isDigit c = false ∧ c ≠ '.' ∧ c ≠ 'e' ∧ c ≠ 'E') :
    EndsNumber (b ++ c :: t) := by
  cases b with
  | nil => exact endsNumber_cons hc
  | cons d b => exact endsNumber_of_isSpace (hb d List.mem_cons_self)

theorem Spelled.endsNumber_items {d : Nat} {vs : List Value} {s : List Char}
    (h : Spelled (.items d false vs) s) (rest : List Char) : EndsNumber (s ++ rest) := by
  cases h with
  | endItems hb =>
    rw [List.append_assoc]
    exact endsNumber_blank hb (by decide)
  | item => exact endsNumber_cons (by decide)

theorem Spelled.endsNumber_members {d : Nat} {ms : List (String × Value)} {s : List Char}
    (h : Spelled (.members d false ms) s) (rest : List Char) : EndsNumber (s ++ rest) := by
  cases h with
  | endMembers hb =>
    rw [List.append_assoc]
    exact endsNumber_blank hb (by decide)
  | member => exact endsNumber_cons (by decide)

end

section

variable {d : Nat} {first : Bool} {t : List Char}

theorem Spelled.next_endItems (h : Spelled (.items d first []) t) (rest : List Char) :
    ∃ lt, nextItem first (t ++ rest) = .ok (.done rest lt) := by
  cases h with
  | endItems hb =>
    rw [List.append_assoc]
    exact nextItem_of_end first hb

theorem Spelled.next_item {v : Value} {vs : List Value} (h : Spelled (.items d first (v :: vs)) t)
    (rest : List Char) :
    ∃ s u le, nextItem first (t ++ rest) = .ok (.item (s ++ (u ++ rest)) le) ∧
      Spelled (.value d v) s ∧
      Spelled (.items d false vs) u := by
  cases h with
  | @item _ _ _ _ b s u hb hs hu =>
    obtain ⟨c, s, rfl, hc⟩ := hs.begins
    have htext : separator first ++ (b ++ (c :: s ++ u)) ++ rest =
        separator first ++ (b ++ c :: (s ++ (u ++ rest))) := by
      simp only [List.append_assoc, List.cons_append]
    obtain ⟨le, hnext⟩ := nextItem_of_begins (t := s ++ (u ++ rest)) first hb hc
    rw [htext]
    exact ⟨c :: s, u, le, hnext, hs, hu⟩

theorem Spelled.next_endMembers (h : Spelled (.members d first []) t) (rest : List Char) :
    ∃ lt, nextMember first (t ++ rest) = .ok (.done rest lt) := by
  cases h with
  | endMembers hb =>
    rw [List.append_assoc]
    exact nextMember_of_end first hb

theorem Spelled.next_member {name : String} {v : Value} {ms : List (String × Value)}
    (h : Spelled (.members d first ((name, v) :: ms)) t) (rest : List Char) :
    ∃ n b s u le, nextMember first (t ++ rest) = .ok (.item n le) ∧
      Reads (quoted n) name.toList (':' :: (b ++ (s ++ (u ++ rest)))) ∧ Blank b ∧
      Spelled (.value d v) s ∧
      Spelled (.members d false ms) u := by
  cases h with
  | @member _ _ _ _ _ b b' s u hb hb' hs hu =>
    have htext : separator first ++ (b ++ (quote name.toList ++ ':' :: (b' ++ (s ++ u)))) ++ rest =
        separator first ++ (b ++ '"' ::
          (name.toList.flatMap escapeChar ++ '"' :: ':' :: (b' ++ (s ++ (u ++ rest))))) := by
      simp only [List.append_assoc, quote_append, List.cons_append]
    obtain ⟨le, hnext⟩ := nextMember_of_quote
      (t := name.toList.flatMap escapeChar ++ '"' :: ':' :: (b' ++ (s ++ (u ++ rest)))) first hb
    rw [htext]
    exact ⟨_, b', s, u, le, hnext, quoted_escaped name.toList _, hb', hs, hu⟩

end

theorem itemsFrom_of_spelled {ι α : Type} {item : Reader α} {d : Nat} (f : ι → Value) (g : ι → α)
    {is : List ι} (his : ∀ i ∈ is, Accepts item d (f i) (g i)) {first : Bool} {t : List Char}
    (h : Spelled (.items d first (is.map f)) t) (rest : List Char) :
    Reads (itemsFrom item first (t ++ rest)) (is.map g) rest := by
  induction is generalizing first t with
  | nil =>
    obtain ⟨lt, hnext⟩ := h.next_endItems rest
    rw [itemsFrom, hnext]
    exact ⟨lt, rfl⟩
  | cons i is ih =>
    obtain ⟨hi, his⟩ := List.forall_mem_cons.mp his
    obtain ⟨s, u, le, hnext, hs, hu⟩ := h.next_item rest
    have hitem : Reads (item (s ++ (u ++ rest))) (g i) (u ++ rest) :=
      hi hs blank_nil (hu.endsNumber_items rest)
    obtain ⟨lt, hitem⟩ := hitem
    obtain ⟨lt', hitems⟩ := ih his hu
    rw [itemsFrom, hnext]
    simp only [hitem, hitems]
    exact ⟨_, rfl⟩

theorem membersFrom_of_spelled {item : Reader Value} {d : Nat} {ms : List (String × Value)}
    (hms : ∀ m ∈ ms, Accepts item d m.2 m.2.sorted) {first : Bool} {t : List Char}
    (h : Spelled (.members d first ms) t) (before : List (String × Value)) (rest : List Char) :
    Reads (membersFrom item first before (t ++ rest)) (Value.insertAll before ms) rest := by
  induction ms generalizing first before t with
  | nil =>
    obtain ⟨lt, hnext⟩ := h.next_endMembers rest
    rw [membersFrom, hnext, Value.insertAll]
    exact ⟨lt, rfl⟩
  | cons m ms ih =>
    obtain ⟨hm, hlater⟩ := List.forall_mem_cons.mp hms
    obtain ⟨n, b, s, u, le, hnext, ⟨ltName, hname⟩, hb, hs, hu⟩ := h.next_member rest
    obtain ⟨ltColon, hcolon⟩ := colon_cons (t := b ++ (s ++ (u ++ rest)))
    obtain ⟨lt, hvalue⟩ := hm hs hb (hu.endsNumber_members rest)
    obtain ⟨lt', hmembers⟩ := ih hlater hu (Value.insert m.1 m.2.sorted before)
    rw [membersFrom, hnext, Value.insertAll]
    simp only [hname, hcolon, hvalue, String.ofList_toList, hmembers]
    exact ⟨_, rfl⟩

theorem scalar_of_number {n : Number} (hn : n.ReadsBack) {rest : List Char}
    (hrest : EndsNumber rest) :
    Reads (scalar (n.text ++ rest)) (.number n) rest := by
  obtain ⟨c, t, htext, hc⟩ := hn.begins
  have hread := hn.append hrest
  rw [htext, List.cons_append] at hread ⊢
  obtain ⟨lt, hread⟩ := hread
  rw [scalar_number hc, hread]
  exact ⟨lt, rfl⟩

theorem scalar_of_string (s : String) (rest : List Char) :
    Reads (scalar (quote s.toList ++ rest)) (.string s) rest := by
  obtain ⟨lt, hread⟩ := quoted_escaped s.toList rest
  rw [quote_append, scalar_quote, hread]
  refine ⟨Nat.lt_succ_of_lt lt, ?_⟩
  simp only [bind, Except.bind, Read.map, String.ofList_toList]
  rfl

theorem scalar_of_spelled {d : Nat} {v : Value} (hv : v.IsScalar) {s rest : List Char}
    (h : Spelled (.value d v) s) (hrest : EndsNumber rest) :
    ∃ c t, s = c :: t ∧ isSpace c = false ∧ c ≠ '[' ∧ c ≠ '\x7b' ∧
      Reads (scalar (s ++ rest)) v rest := by
  cases h with
  | null | yes | no => exact ⟨_, _, rfl, by decide, by decide, by decide, by simp; omega, rfl⟩
  | number hn =>
    obtain ⟨c, t, hs, hc⟩ := hn.begins
    refine ⟨c, t, hs, (begins_number hc).1, ?_, ?_, scalar_of_number hn hrest⟩
    all_goals
      rintro rfl
      cases hc
  | string => exact ⟨_, _, rfl, by decide, by decide, by decide, scalar_of_string _ rest⟩
  | array => exact hv.elim
  | object => exact hv.elim

theorem value_of_scalar (d : Nat) {v : Value} (hv : v.IsScalar) :
    Accepts (value d) d v v.sorted := by
  intro s b rest h hb hrest
  obtain ⟨c, t, rfl, hc, hlist, hobject, lt, hscalar⟩ := scalar_of_spelled hv h hrest
  have hskip : skipSpace (b ++ (c :: t ++ rest)) = c :: (t ++ rest) := skipSpace_blank hb hc
  rw [value_eq hskip, if_neg hlist, if_neg hobject, hv.sorted_eq]
  simp only [← List.cons_append, hscalar, bind, Except.bind]
  exact ⟨_, rfl⟩

theorem value_of_spelled (d : Nat) (v : Value) : Accepts (value d) d v v.sorted := by
  induction d generalizing v with
  | zero =>
    intro s b rest h
    refine value_of_scalar 0 ?_ h
    cases h <;> trivial
  | succ d ih =>
    cases v with
    | array vs =>
      intro s b rest h hb _
      cases h with
      | @array _ _ t ht =>
        have hskip : skipSpace (b ++ ('[' :: t ++ rest)) = '[' :: (t ++ rest) :=
          skipSpace_blank hb (by decide)
        rw [← List.map_id vs] at ht
        obtain ⟨lt, hitems⟩ := itemsFrom_of_spelled id Value.sorted (fun v _ => ih v) ht rest
        rw [value_eq hskip, if_pos rfl, Value.sorted, Value.sortedItems_eq]
        simp only [items, hitems, bind, Except.bind]
        exact ⟨_, rfl⟩
    | object ms =>
      intro s b rest h hb _
      cases h with
      | @object _ _ t ht =>
        have hskip : skipSpace (b ++ ('\x7b' :: t ++ rest)) = '\x7b' :: (t ++ rest) :=
          skipSpace_blank hb (by decide)
        obtain ⟨lt, hmembers⟩ := membersFrom_of_spelled (fun m _ => ih m.2) ht [] rest
        rw [value_eq hskip, if_neg (by decide), if_pos rfl, Value.sorted, Value.sortedMembers]
        simp only [members, hmembers, bind, Except.bind]
        exact ⟨_, rfl⟩
    | null | bool | number | string => exact value_of_scalar _ trivial

end PackageMarket.Json
