import PackageMarket.Proofs.Json.Skip

set_option autoImplicit false

namespace PackageMarket.Json

open Text

inductive StringText : List Char → Prop where
  | close : StringText ['"']
  | char {c : Char} {s : List Char} : c ≠ '"' → c ≠ '\\' → 0x20 ≤ c.toNat → StringText s →
      StringText (c :: s)
  | escape {c : Char} {s : List Char} : c ∈ ['"', '\\', '/', 'b', 'f', 'n', 'r', 't'] →
      StringText s → StringText ('\\' :: c :: s)
  | unit {a b c d : Char} {s : List Char} : (∀ x ∈ [a, b, c, d], (hexValue? x).isSome = true) →
      StringText s → StringText ('\\' :: 'u' :: a :: b :: c :: d :: s)

def listed : List (List Char) → List Char
  | [] => []
  | t :: ts => t ++ ts.flatMap (',' :: ·)

/-- A member as it stands in an object: its name, behind the opening quotation mark, and its value
with the blanks around it. -/
structure Entry where
  lead : List Char
  name : List Char
  gap : List Char
  text : List Char
  lead_blank : Blank lead
  gap_blank : Blank gap

def Entry.shown (e : Entry) : List Char := e.lead ++ '"' :: (e.name ++ (e.gap ++ ':' :: e.text))

def arrayText (ts : List (List Char)) (b : List Char) : List Char := listed ts ++ (b ++ [']'])

def objectText (es : List Entry) (b : List Char) : List Char :=
  listed (es.map Entry.shown) ++ (b ++ ['\x7d'])

/-- A value with blanks around it. -/
inductive Formed : List Char → Prop where
  | null : Formed ['n', 'u', 'l', 'l']
  | yes : Formed ['t', 'r', 'u', 'e']
  | no : Formed ['f', 'a', 'l', 's', 'e']
  | number {l : Literal} {s : List Char} : l.Written s → Formed s
  | string {s : List Char} : StringText s → Formed ('"' :: s)
  | array {ts : List (List Char)} {b : List Char} : (∀ t ∈ ts, Formed t) → Blank b →
      Formed ('[' :: arrayText ts b)
  | object {es : List Entry} {b : List Char} : (∀ e ∈ es, StringText e.name) →
      (∀ e ∈ es, Formed e.text) → Blank b →
      Formed ('\x7b' :: objectText es b)
  | blanks {b b' s : List Char} : Blank b → Blank b' → Formed s → Formed (b ++ (s ++ b'))

section

variable {b s t rest out : List Char} {stack : List Bracket}

theorem Literal.Written.begins {l : Literal} (h : l.Written s) :
    ∃ c t, s = c :: t ∧ (c = '-' || Decimal.isDigit c) = true := by
  have hread := Literal.read_of_written .endInValue h endsNumber_nil
  rw [List.append_nil] at hread
  obtain ⟨lt, hread⟩ := hread
  exact begins_of_literal hread

theorem Formed.begins (h : Formed s) : ∃ c t, skipSpace s = c :: t ∧ Begins c := by
  induction h with
  | null | yes | no | string | array | object =>
    exact ⟨_, _, skipSpace_self (by decide), by decide, by decide, by decide, by decide⟩
  | number hwritten =>
    obtain ⟨c, t, rfl, hc⟩ := hwritten.begins
    exact ⟨c, t, skipSpace_self (begins_number hc).1, begins_number hc⟩
  | blanks hb _ _ ih =>
    obtain ⟨c, t, hs, hc⟩ := ih
    exact ⟨c, _, (skipSpace_blank_append hb).trans (skipSpace_append hs _), hc⟩

theorem Skips.behind_blank {k : Bracket} (h : Skips .behind (k :: stack) s rest) (hb : Blank b) :
    Skips .behind (k :: stack) (b ++ s) rest := by
  have hskip : skipSpace (b ++ s) = skipSpace s := skipSpace_blank_append hb
  cases h with
  | closing _ hs hbehind => exact .closing nofun (hskip.trans hs) hbehind
  | later hs hdue hstart => exact .later (hskip.trans hs) hdue hstart

def Passed (s : List Char) : Prop :=
  ∃ w, Blank w ∧ ∀ ⦃stack : List Bracket⦄ ⦃rest out : List Char⦄, EndsNumber (w ++ rest) →
    Skips .behind stack (w ++ rest) out → Skips .start stack (s ++ rest) out

theorem Passed.within {k : Bracket} (h : Passed s) (hbehind : Skips .behind (k :: stack) rest out) :
    Skips .start (k :: stack) (s ++ rest) out := by
  obtain ⟨w, hw, h⟩ := h
  have hblank := hbehind.behind_blank hw
  have hends := hblank.endsNumber_within []
  rw [List.append_nil] at hends
  exact h hends hblank

end

end PackageMarket.Json
