import Mathlib.Data.List.TakeWhile
import Mathlib.Logic.ExistsUnique
import PackageMarket.Dialog.Dialog
import PackageMarket.Proofs.Json.Decoder

set_option autoImplicit false

namespace PackageMarket

namespace Text

theorem isEmpty_trim (s : List Char) : (trim s).isEmpty = true ↔ ∀ c ∈ s, isBlank c = true := by
  rw [List.isEmpty_iff, trim, trimEnd, List.reverse_eq_nil_iff, List.dropWhile_eq_nil_iff]
  constructor
  · intro h
    have hstart : trimStart s = [] := by
      rcases hs : trimStart s with _ | ⟨c, t⟩
      · rfl
      · have hc : isBlank c = false := by
          have hhead := List.head?_dropWhile_not isBlank s
          rw [← trimStart, hs] at hhead
          exact hhead
        rw [h c (by simp [hs])] at hc
        cases hc
    exact List.dropWhile_eq_nil_iff.mp hstart
  · intro h c hc
    rw [List.mem_reverse] at hc
    exact h c ((List.dropWhile_suffix isBlank).mem hc)

theorem isDigit_of_isBlank {c : Char} (h : isBlank c = true) : Decimal.isDigit c = false := by
  rw [Bool.eq_false_iff]
  intro hdigit
  obtain ⟨hmin, hmax⟩ : 48 ≤ c.toNat ∧ c.toNat ≤ 57 := by
    simpa [Decimal.isDigit, Char.le_def, UInt32.le_iff_toNat_le] using hdigit
  simp [isBlank, blankRanges] at h
  omega

end Text

namespace Json

open Text

theorem scalar_fails_of_blank {c : Char} (hc : isBlank c = true) (s : List Char) :
    Fails .expectedValue (scalar (c :: s)) := by
  have hne {x : Char} (hx : isBlank x = false) : c ≠ x := by
    rintro rfl
    rw [hc] at hx
    cases hx
  have hnumber : ¬(c = '-' || Decimal.isDigit c) = true := by
    simp [isDigit_of_isBlank hc, hne (x := '-') (by decide)]
  unfold scalar
  dsimp only
  rw [if_neg (hne (by decide)), if_neg (hne (by decide)), if_neg (hne (by decide)), if_neg hnumber,
    if_neg (hne (by decide))]
  exact .error rfl

theorem ofText_of_blank {s : List Char} (h : ∀ c ∈ s, isBlank c = true) :
    ∃ f : Fault, Value.ofText s = .error f := by
  rcases hs : skipSpace s with _ | ⟨c, t⟩
  · obtain ⟨f, hf, -⟩ := (value_fails_of_end (d := maxDepth) hs).bind _
    exact ⟨f, hf⟩
  · have hmem : c ∈ skipSpace s := by
      rw [hs]
      exact List.mem_cons_self
    have hc : isBlank c = true := h c ((List.dropWhile_suffix isSpace).mem hmem)
    have hlist : c ≠ '[' := by
      rintro rfl
      cases hc
    have hobject : c ≠ '\x7b' := by
      rintro rfl
      cases hc
    have hvalue : Fails .expectedValue (value maxDepth s) := by
      rw [value_eq hs, if_neg hlist, if_neg hobject]
      exact (scalar_fails_of_blank hc t).bind _
    obtain ⟨f, hf, -⟩ := hvalue.bind _
    exact ⟨f, hf⟩

theorem shown_of_ofText {s : List Char} {v : Value} (h : Value.ofText s = .ok v) :
    ¬∀ c ∈ s, isBlank c = true := by
  intro hblank
  obtain ⟨f, hf⟩ := ofText_of_blank hblank
  cases h.symm.trans hf

end Json

namespace Message

open Json Text Market

inductive Body where
  | blank
  | string (s : String)
  | value (v : Value)
  | plain

/-- What a body is. Blanks of all kinds are meant, and not only those that may stand in JSON. -/
def IsBody (body : String) : Body → Prop
  | .blank => ∀ c ∈ body.toList, isBlank c = true
  | .string s => Value.ofText body.toList = .ok (.string s)
  | .value v => Value.ofText body.toList = .ok v ∧ v.string? = none
  | .plain =>
    ¬(∀ c ∈ body.toList, isBlank c = true) ∧ ∃ f : Fault, Value.ofText body.toList = .error f

theorem exists_isBody (body : String) : ∃ b, IsBody body b := by
  by_cases hblank : ∀ c ∈ body.toList, isBlank c = true
  · exact ⟨.blank, hblank⟩
  cases hread : Value.ofText body.toList with
  | error f => exact ⟨.plain, hblank, f, hread⟩
  | ok v =>
    cases v with
    | string s => exact ⟨.string s, hread⟩
    | _ => exact ⟨.value _, hread, rfl⟩

theorem isBody_unique {body : String} {a b : Body} (ha : IsBody body a) (hb : IsBody body b) :
    a = b := by
  cases a <;> cases b <;> grind [IsBody, Value.string?, shown_of_ofText]

section

variable {body : String}

theorem displayBody_of_blank (h : IsBody body .blank) : displayBody body = "(empty response)" :=
  if_pos ((isEmpty_trim _).mpr h)

theorem displayBody_of_shown (h : ¬∀ c ∈ body.toList, isBlank c = true) :
    displayBody body =
      match Value.ofText body.toList with
      | .ok (.string s) => s
      | .ok v => v.prettyText
      | .error _ => body :=
  if_neg fun hempty => h ((isEmpty_trim _).mp hempty)

theorem displayBody_of_string {s : String} (h : IsBody body (.string s)) :
    displayBody body = s := by
  have h : Value.ofText body.toList = .ok (.string s) := h
  rw [displayBody_of_shown (shown_of_ofText h), h]

theorem displayBody_of_value {v : Value} (h : IsBody body (.value v)) :
    displayBody body = v.prettyText := by
  obtain ⟨hread, hv⟩ := h
  rw [displayBody_of_shown (shown_of_ofText hread), hread]
  cases v with
  | string s => cases hv
  | _ => rfl

theorem displayBody_of_plain (h : IsBody body .plain) : displayBody body = body := by
  obtain ⟨hshown, f, hread⟩ := h
  rw [displayBody_of_shown hshown, hread]

/-- What is shown of a value is a body that is the same value. -/
theorem isBody_prettyText {v : Value} (h : IsBody body (.value v)) (hfloats : v.FloatsReadBack) :
    IsBody v.prettyText (.value v) := by
  obtain ⟨hread, hv⟩ := h
  have hasRead := asRead_of_ofText hread
  have hpretty := Value.ofText_pretty hasRead.within hfloats
  rw [hasRead.ordered.sorted_eq] at hpretty
  refine ⟨?_, hv⟩
  rwa [Value.prettyText, String.toList_ofList]

end

/-- Whatever a reply holds is shown. Its body is of exactly one kind; a blank one is told to be
empty, a JSON string is shown without its marks, and what is no JSON as it is. Of any other JSON a
text is shown that is read as the same value, and that is shown as itself, if each float in it is
read again from its own text. What came of no reply is shown as it is. -/
theorem nothing_is_lost_in_display :
    (∀ r : Reply,
      (∃! b, IsBody r.body b) ∧
      (IsBody r.body .blank → (Message.reply r).display = "(empty response)") ∧
      (∀ s : String, IsBody r.body (.string s) → (Message.reply r).display = s) ∧
      (∀ v : Value, IsBody r.body (.value v) → v.FloatsReadBack →
        Value.ofText (Message.reply r).display.toList = .ok v ∧
        ∀ status : Nat,
          (Message.reply ⟨status, (Message.reply r).display⟩).display = (Message.reply r).display) ∧
      (IsBody r.body .plain → (Message.reply r).display = r.body)) ∧
    ∀ text : String, (Message.failed text).display = text ∧
      (Message.atHome text).display = text := by
  refine ⟨fun r => ⟨?_, displayBody_of_blank, fun s => displayBody_of_string,
    fun v hv hfloats => ?_, displayBody_of_plain⟩, fun text => ⟨rfl, rfl⟩⟩
  · obtain ⟨b, hb⟩ := exists_isBody r.body
    exact ⟨b, hb, fun a ha => isBody_unique ha hb⟩
  · have hshown : (Message.reply r).display = v.prettyText := displayBody_of_value hv
    have hagain := isBody_prettyText hv hfloats
    rw [hshown]
    exact ⟨hagain.1, fun _ => displayBody_of_value hagain⟩

/-- A blank that JSON does not know, a string with an escape, an object with a name twice and a zero
with a sign, and a text that breaks off. -/
theorem nothing_is_lost_in_display_of_four :
    let v : Value :=
      .object [("a", .float ⟨true, 0, Decimal.Binary64.minExponent⟩), ("b", .array [])]
    let r : Reply := ⟨200, "\x7b\"b\":[],\"a\":1,\"a\":-0\x7d"⟩
    (IsBody "\u00a0" .blank ∧ (Message.reply ⟨204, "\u00a0"⟩).display = "(empty response)") ∧
    (IsBody "\"\\u00e9\"" (.string "é") ∧ (Message.reply ⟨200, "\"\\u00e9\""⟩).display = "é") ∧
    (IsBody r.body (.value v) ∧ v.FloatsReadBack ∧
      Value.ofText (Message.reply r).display.toList = .ok v ∧
      (Message.reply ⟨500, (Message.reply r).display⟩).display = (Message.reply r).display) ∧
    (IsBody "[1," .plain ∧ (Message.reply ⟨404, "[1,"⟩).display = "[1,") := by
  intro v r
  have hblank : IsBody "\u00a0" .blank := by
    simp only [IsBody]
    exact List.all_eq_true.mp (by decide)
  have hstring : IsBody "\"\\u00e9\"" (.string "é") := by
    simp only [IsBody]
    decide +kernel
  have hvalue : IsBody r.body (.value v) := by
    refine ⟨?_, rfl⟩
    simp only [r, v]
    decide +kernel
  have hfloats : v.FloatsReadBack := by
    intro x hx
    simp [v, Value.float] at hx
    rw [hx]
    exact Number.readsBack_zero true
  have hplain : IsBody "[1," .plain := by
    refine ⟨fun h => absurd (List.all_eq_true.mpr h) (by decide), ⟨.endInValue, 0⟩, ?_⟩
    decide +kernel
  obtain ⟨hread, hagain⟩ := (nothing_is_lost_in_display.1 r).2.2.2.1 v hvalue hfloats
  refine ⟨⟨hblank, ?_⟩, ⟨hstring, ?_⟩, ⟨hvalue, hfloats, hread, hagain 500⟩, ⟨hplain, ?_⟩⟩
  · exact (nothing_is_lost_in_display.1 ⟨204, _⟩).2.1 hblank
  · exact (nothing_is_lost_in_display.1 ⟨200, _⟩).2.2.1 "é" hstring
  · exact (nothing_is_lost_in_display.1 ⟨404, _⟩).2.2.2.2 hplain

end Message

end PackageMarket
