import PackageMarket.Proofs.Json.Decoded
import PackageMarket.Proofs.Json.Decoder
import PackageMarket.Proofs.Json.Local

set_option autoImplicit false

namespace PackageMarket.Json

open Decimal Text

section

variable {d : Nat} {s t rest : List Char} {c : Char} {v : Value}

theorem Value.eq_null_of_opens (h : v.Opens 'n') : v = .null := by
  cases v with
  | null => rfl
  | bool => rcases h with h | h <;> cases h
  | number | string | array | object => cases h

theorem not_value (hs : skipSpace s = []) : ¬Reads (value d s) v rest := by
  rintro ⟨lt, h⟩
  obtain ⟨f, hf, -⟩ := value_fails_of_end (d := d) hs
  cases hf.symm.trans h

theorem value_scalar (hs : skipSpace s = c :: t) (hlist : c ≠ '[') (hobject : c ≠ '\x7b') :
    Reads (value d s) v rest ↔ Reads (scalar (c :: t)) v rest := by
  rw [value_eq hs, if_neg hlist, if_neg hobject]
  constructor
  · rintro ⟨lt, h⟩
    obtain ⟨r, hr, h⟩ := exists_of_bind_eq_ok h
    cases h
    exact reads_of_eq_ok hr rfl
  · rintro ⟨lt, h⟩
    rw [h]
    exact ⟨_, rfl⟩

theorem value_array (hs : skipSpace s = '[' :: t) :
    Reads (value d s) v rest ↔ ∃ e vs, d = e + 1 ∧ Reads (items (value e) t) vs rest ∧
      v = .array vs := by
  rw [value_eq hs, if_pos rfl]
  constructor
  · rintro ⟨lt, h⟩
    cases d with
    | zero => cases h
    | succ e =>
      obtain ⟨r, hr, h⟩ := exists_of_bind_eq_ok h
      cases h
      exact ⟨e, _, rfl, reads_of_eq_ok hr rfl, rfl⟩
  · rintro ⟨e, vs, rfl, ⟨lt, h⟩, rfl⟩
    simp only [h, bind, Except.bind]
    exact ⟨_, rfl⟩

theorem value_object (hs : skipSpace s = '\x7b' :: t) :
    Reads (value d s) v rest ↔ ∃ e ms, d = e + 1 ∧ Reads (members (value e) t) ms rest ∧
      v = .object ms := by
  rw [value_eq hs, if_neg (by decide), if_pos rfl]
  constructor
  · rintro ⟨lt, h⟩
    cases d with
    | zero => cases h
    | succ e =>
      obtain ⟨r, hr, h⟩ := exists_of_bind_eq_ok h
      cases h
      exact ⟨e, _, rfl, reads_of_eq_ok hr rfl, rfl⟩
  · rintro ⟨e, ms, rfl, ⟨lt, h⟩, rfl⟩
    simp only [h, bind, Except.bind]
    exact ⟨_, rfl⟩

theorem value_skipSpace : Reads (value d (skipSpace s)) v rest ↔ Reads (value d s) v rest := by
  rcases hs : skipSpace s with _ | ⟨c, t⟩
  · exact iff_of_false (not_value rfl) (not_value hs)
  · have hskip : skipSpace (c :: t) = c :: t := skipSpace_self (isSpace_of_skipSpace hs)
    by_cases hlist : c = '['
    · subst hlist
      rw [value_array hs, value_array hskip]
    by_cases hobject : c = '\x7b'
    · subst hobject
      rw [value_object hs, value_object hskip]
    · rw [value_scalar hs hlist hobject, value_scalar hskip hlist hobject]

end

namespace Decoder

variable {α : Type} {depth : Nat} {s t rest : List Char} {c : Char}

/-- Reads a text as a value of which it then makes what it stands for, if it stands for anything. -/
def Faithful (d : Decoder α) : Prop :=
  ∀ (depth : Nat) (s : List Char) (a : α) (rest : List Char),
    Reads (d.text depth s) a rest ↔ ∃ v, Reads (Json.value depth s) v rest ∧ d.value v = some a

theorem any_faithful : any.Faithful := by
  intro depth s a rest
  constructor
  · exact fun h => ⟨a, h, rfl⟩
  · rintro ⟨v, h, ha⟩
    cases ha
    exact h

theorem not_readScalar {expected : String} {begins : Char → Bool}
    {accept : Value → Except Cause α} {a : α} (hs : skipSpace s = []) :
    ¬Reads (readScalar expected begins accept s) a rest := by
  rintro ⟨lt, h⟩
  unfold readScalar at h
  split at h
  · cases h
  · rename_i hcons
    cases hs.symm.trans hcons

theorem readScalar_iff {expected : String} {begins : Char → Bool}
    {accept : Value → Except Cause α} {a : α} (hs : skipSpace s = c :: t) :
    Reads (readScalar expected begins accept s) a rest ↔
      begins c = true ∧ ∃ v, Reads (scalar (c :: t)) v rest ∧ accept v = .ok a := by
  constructor
  · rintro ⟨lt, h⟩
    unfold readScalar at h
    split at h
    · cases h
    · rename_i hcons
      obtain ⟨rfl, rfl⟩ := List.cons.inj (hs.symm.trans hcons)
      split at h
      · obtain ⟨r, hr, h⟩ := exists_of_bind_eq_ok h
        split at h
        · cases h
          exact ⟨‹_›, _, reads_of_eq_ok hr rfl, ‹_›⟩
        · cases h
      · cases h
  · rintro ⟨hc, v, hv, ha⟩
    exact readScalar_of_cons hs hc hv ha

theorem readScalar_faithful {expected : String} {begins : Char → Bool}
    {accept : Value → Except Cause α} {value : Value → Option α} (hlist : begins '[' = false)
    (hobject : begins '\x7b' = false) (haccept : ∀ v a, accept v = .ok a ↔ value v = some a)
    (hbegins : ∀ v a c, value v = some a → v.Opens c → begins c = true) :
    (Decoder.mk (fun _ => readScalar expected begins accept) value).Faithful := by
  intro depth s a rest
  show Reads (readScalar expected begins accept s) a rest ↔ _
  rcases hs : skipSpace s with _ | ⟨c, t⟩
  · exact iff_of_false (not_readScalar hs) fun ⟨v, hv, _⟩ => not_value hs hv
  have hbrackets (hc : begins c = true) : c ≠ '[' ∧ c ≠ '\x7b' := by
    constructor
    · rintro rfl
      cases hlist.symm.trans hc
    · rintro rfl
      cases hobject.symm.trans hc
  rw [readScalar_iff hs]
  constructor
  · rintro ⟨hc, v, hv, ha⟩
    have hscalar := hbrackets hc
    exact ⟨v, (value_scalar hs hscalar.1 hscalar.2).mpr hv, (haccept v a).mp ha⟩
  · rintro ⟨v, ⟨lt, hv⟩, ha⟩
    have hc := hbegins v a c ha (value_opens hs _ hv)
    have hscalar := hbrackets hc
    exact ⟨hc, v, (value_scalar hs hscalar.1 hscalar.2).mp ⟨lt, hv⟩, (haccept v a).mpr ha⟩

theorem string_faithful : string.Faithful := by
  refine readScalar_faithful (by decide) (by decide) (fun v a => ?_) fun v a c ha hc => ?_
  · cases v <;> simp [Value.string?]
  · cases v with
    | string => exact decide_eq_true hc
    | null | bool | number | array | object => cases ha

theorem bool_faithful : bool.Faithful := by
  refine readScalar_faithful (by decide) (by decide) (fun v a => ?_) fun v a c ha hc => ?_
  · cases v <;> simp
  · cases v with
    | bool => simpa [Value.Opens] using hc
    | null | string | number | array | object => cases ha

theorem float_faithful : float.Faithful := by
  refine readScalar_faithful (by decide) (by decide) (fun v a => ?_) fun v a c ha hc => ?_
  · split <;> simp_all
  · cases v with
    | number => exact hc
    | null | bool | string | array | object => cases ha

theorem int64_faithful : int64.Faithful := by
  refine readScalar_faithful (by decide) (by decide) (fun v a => ?_) fun v a c ha hc => ?_
  · split
    · split <;> simp_all
    · simp_all
  · cases v with
    | number => exact hc
    | null | bool | string | array | object => cases ha

theorem option_iff {d : Decoder α} {o : Option α} : Reads ((option d).text depth s) o rest ↔
    (∃ t v, skipSpace s = 'n' :: t ∧ Reads (scalar ('n' :: t)) v rest ∧ o = none) ∨
      (∀ t, skipSpace s ≠ 'n' :: t) ∧ ∃ a, Reads (d.text depth (skipSpace s)) a rest ∧
        o = some a := by
  constructor
  · rintro ⟨lt, h⟩
    unfold option at h
    dsimp only at h
    split at h
    · obtain ⟨r, hr, h⟩ := exists_of_bind_eq_ok h
      cases h
      exact .inl ⟨_, _, ‹_›, reads_of_eq_ok hr rfl, rfl⟩
    · obtain ⟨r, hr, h⟩ := exists_of_bind_eq_ok h
      cases h
      exact .inr ⟨‹_›, _, reads_of_eq_ok hr rfl, rfl⟩
  · rintro (⟨t, v, hs, hv, rfl⟩ | ⟨hs, a, ha, rfl⟩)
    · exact option_of_null hs hv
    · exact option_of_some hs ha

theorem option_value {d : Decoder α} {v : Value} (hv : v ≠ .null) :
    (option d).value v = (d.value v).map some := by
  cases v with
  | null => exact absurd rfl hv
  | bool | number | string | array | object => rfl

theorem option_faithful {d : Decoder α} (h : d.Faithful) : (option d).Faithful := by
  intro depth s o rest
  rw [option_iff]
  constructor
  · rintro (⟨t, v, hs, ⟨lt, hv⟩, rfl⟩ | ⟨hs, a, ha, rfl⟩)
    · obtain rfl : v = .null := Value.eq_null_of_opens (scalar_opens _ hv)
      exact ⟨.null, (value_scalar hs (by decide) (by decide)).mpr ⟨lt, hv⟩, rfl⟩
    · obtain ⟨v, ⟨lt, hv⟩, ha⟩ := (h _ _ _ _).mp ha
      have hne : v ≠ .null := value_ne_null (by rwa [skipSpace_skipSpace]) _ hv
      refine ⟨v, value_skipSpace.mp ⟨lt, hv⟩, ?_⟩
      rw [option_value hne, ha]
      rfl
  · rintro ⟨v, hv, ho⟩
    by_cases hs : ∃ t, skipSpace s = 'n' :: t
    · obtain ⟨t, hs⟩ := hs
      obtain ⟨lt, hscalar⟩ := (value_scalar hs (by decide) (by decide)).mp hv
      obtain rfl : v = .null := Value.eq_null_of_opens (scalar_opens _ hscalar)
      cases ho
      exact .inl ⟨t, .null, hs, ⟨lt, hscalar⟩, rfl⟩
    · have hn : ∀ t, skipSpace s ≠ 'n' :: t := fun t ht => hs ⟨t, ht⟩
      obtain ⟨lt, hread⟩ := hv
      have hne : v ≠ .null := value_ne_null hn _ hread
      rw [option_value hne] at ho
      obtain ⟨a, ha, rfl⟩ := Option.map_eq_some_iff.mp ho
      exact .inr ⟨hn, a, (h _ _ _ _).mpr ⟨v, value_skipSpace.mpr ⟨lt, hread⟩, ha⟩, rfl⟩

end Decoder

end PackageMarket.Json
