import PackageMarket.Proofs.Json.Faithful
import PackageMarket.Proofs.Json.Skip

set_option autoImplicit false

namespace PackageMarket.Json

open Text

variable {σ : Type} {fields : List (RecordField σ)} {depth : Nat} {first : Bool}
  {seen : List String} {x y : σ} {s t u w rest : List Char} {name : String}

namespace Record

theorem named_done {lt : t.length < s.length} (hnext : nextMember first s = .ok (.done t lt)) :
    Reads (named fields depth first seen x s) y rest ↔ y = x ∧ rest = t := by
  rw [named, hnext]
  constructor
  · rintro ⟨_, h⟩
    cases h
    exact ⟨rfl, rfl⟩
  · rintro ⟨rfl, rfl⟩
    exact ⟨lt, rfl⟩

theorem named_unknown {le : t.length ≤ s.length} (hnext : nextMember first s = .ok (.item t le))
    (hname : Reads (quoted t) name.toList u) (hfind : fields.find? (·.name = name) = none)
    (hcolon : skipSpace u = ':' :: w) : Reads (named fields depth first seen x s) y rest ↔
      ∃ v, Reads (skipValue w) () v ∧ Reads (named fields depth false seen x v) y rest := by
  obtain ⟨ltName, hname⟩ := hname
  obtain ⟨ltColon, hcolon⟩ := colon_of_skipSpace hcolon
  rw [named, hnext]
  simp only [hname, String.ofList_toList, hfind, hcolon]
  constructor
  · rintro ⟨_, h⟩
    split at h
    · cases h
    · rename_i hv
      split at h
      · cases h
      · rename_i hr
        cases h
        exact ⟨_, reads_of_eq_ok hv rfl, reads_of_eq_ok hr rfl⟩
  · rintro ⟨v, ⟨lt, hv⟩, ⟨lt', hr⟩⟩
    simp only [hv, hr]
    exact ⟨_, rfl⟩

theorem named_known {f : RecordField σ} {le : t.length ≤ s.length}
    (hnext : nextMember first s = .ok (.item t le))
    (hname : Reads (quoted t) name.toList u) (hfind : fields.find? (·.name = name) = some f)
    (hnew : name ∉ seen) (hcolon : skipSpace u = ':' :: w) :
    Reads (named fields depth first seen x s) y rest ↔
      ∃ put v, Reads (f.text depth w) put v ∧
        Reads (named fields depth false (name :: seen) (put x) v) y rest := by
  obtain ⟨ltName, hname⟩ := hname
  obtain ⟨ltColon, hcolon⟩ := colon_of_skipSpace hcolon
  rw [named, hnext]
  simp only [hname, String.ofList_toList, hfind, hcolon]
  rw [if_neg (by simpa using hnew)]
  constructor
  · rintro ⟨_, h⟩
    split at h
    · cases h
    · rename_i hv
      split at h
      · cases h
      · rename_i hr
        cases h
        exact ⟨_, _, reads_of_eq_ok hv rfl, reads_of_eq_ok hr rfl⟩
  · rintro ⟨put, v, ⟨lt, hv⟩, ⟨lt', hr⟩⟩
    simp only [hv, hr]
    exact ⟨_, rfl⟩

theorem close_iff : Reads (close s) () rest ↔ skipSpace s = ']' :: rest := by
  constructor
  · rintro ⟨_, h⟩
    unfold close at h
    split at h
    · cases h
    · rename_i hs
      split at h
      · rename_i hc
        subst hc
        cases h
        exact hs
      split at h
      · split at h <;> cases h
      · cases h
  · intro hs
    unfold close
    split
    · rename_i h
      cases hs.symm.trans h
    · rename_i h
      obtain ⟨rfl, rfl⟩ := List.cons.inj (hs.symm.trans h)
      rw [if_pos rfl]
      exact ⟨_, rfl⟩

theorem positional_nil :
    Reads (positional depth first x [] s) y rest ↔ skipSpace s = ']' :: rest ∧ y = x := by
  rw [← close_iff]
  constructor
  · rintro ⟨_, h⟩
    obtain ⟨r, hr, h⟩ := exists_of_bind_eq_ok h
    cases h
    exact ⟨reads_of_eq_ok hr rfl, rfl⟩
  · rintro ⟨⟨lt, hr⟩, rfl⟩
    simp only [positional, hr, bind, Except.bind]
    exact ⟨_, rfl⟩

theorem positional_done {f : RecordField σ} {fs : List (RecordField σ)} {lt : t.length < s.length}
    (hnext : nextItem first s = .ok (.done t lt)) :
    Reads (positional depth first x (f :: fs) s) y rest ↔ y = x ∧ rest = t := by
  simp only [positional, hnext, bind, Except.bind]
  constructor
  · rintro ⟨_, h⟩
    cases h
    exact ⟨rfl, rfl⟩
  · rintro ⟨rfl, rfl⟩
    exact ⟨lt, rfl⟩

theorem positional_item {f : RecordField σ} {fs : List (RecordField σ)} {le : t.length ≤ s.length}
    (hnext : nextItem first s = .ok (.item t le)) :
    Reads (positional depth first x (f :: fs) s) y rest ↔
      ∃ put v, Reads (f.text depth t) put v ∧
        Reads (positional depth false (put x) fs v) y rest := by
  simp only [positional, hnext, bind, Except.bind]
  constructor
  · rintro ⟨_, h⟩
    split at h
    · cases h
    · rename_i hv
      split at h
      · cases h
      · rename_i hr
        cases h
        exact ⟨_, _, reads_of_eq_ok hv rfl, reads_of_eq_ok hr rfl⟩
  · rintro ⟨put, v, ⟨lt, hv⟩, ⟨lt', hr⟩⟩
    simp only [hv, hr]
    exact ⟨_, rfl⟩

end Record

namespace Decoder

section

variable {α : Type} {known : List (String × α)} {a : α} {expected : String}

theorem knownName_iff :
    Reads (knownName known s) a rest ↔ ∃ cs, Reads (quoted s) cs rest ∧ find known cs = some a := by
  constructor
  · rintro ⟨_, h⟩
    obtain ⟨r, hr, h⟩ := exists_of_bind_eq_ok h
    split at h
    · cases h
      exact ⟨_, reads_of_eq_ok hr rfl, ‹_›⟩
    · cases h
  · rintro ⟨cs, ⟨lt, hr⟩, ha⟩
    simp only [knownName, hr, bind, Except.bind, ha]
    exact ⟨lt, rfl⟩

theorem readNull_iff (depth : Nat) (expected : String) :
    Reads (readNull expected s) () rest ↔ Reads (Json.value depth s) .null rest := by
  rcases hs : skipSpace s with _ | ⟨c, t⟩
  · exact iff_of_false (not_readScalar hs) (not_value hs)
  unfold readNull
  rw [readScalar_iff hs]
  constructor
  · rintro ⟨hc, v, ⟨lt, hv⟩, -⟩
    obtain rfl : c = 'n' := of_decide_eq_true hc
    obtain rfl : v = .null := Value.eq_null_of_opens (scalar_opens _ hv)
    exact (value_scalar hs (by decide) (by decide)).mpr ⟨lt, hv⟩
  · rintro ⟨lt, hv⟩
    obtain rfl : c = 'n' := value_opens hs _ hv
    exact ⟨rfl, .null, (value_scalar hs (by decide) (by decide)).mp ⟨lt, hv⟩, rfl⟩

theorem namedNull_iff (depth : Nat) :
    Reads (namedNull known s) a rest ↔ ∃ t u w z, skipSpace s = '"' :: t ∧
    Reads (knownName known t) a u ∧ skipSpace u = ':' :: w ∧ Reads (Json.value depth w) .null z ∧
    skipSpace z = '\x7d' :: rest := by
  constructor
  · rintro ⟨_, h⟩
    unfold namedNull at h
    split at h
    · cases h
    · rename_i hs
      obtain ⟨k, hk, h⟩ := exists_of_bind_eq_ok h
      obtain ⟨c, hc, h⟩ := exists_of_bind_eq_ok h
      obtain ⟨v, hv, h⟩ := exists_of_bind_eq_ok h
      split at h
      · cases h
      · rename_i hz
        cases h
        exact ⟨_, k.rest, c.rest, v.rest, hs, ⟨k.shorter, hk⟩, skipSpace_of_colon hc,
          (readNull_iff depth "unit").mp ⟨v.shorter, hv⟩, hz⟩
      · cases h
    · cases h
  · rintro ⟨t, u, w, z, hs, ⟨lt, hk⟩, hcolon, hv, hz⟩
    obtain ⟨ltColon, hcolon⟩ := colon_of_skipSpace hcolon
    obtain ⟨ltNull, hv⟩ := (readNull_iff depth "unit").mpr hv
    unfold namedNull
    split
    · rename_i h
      cases hs.symm.trans h
    · rename_i h
      obtain ⟨-, rfl⟩ := List.cons.inj (hs.symm.trans h)
      simp only [hk, hcolon, hv, bind, Except.bind]
      split
      · rename_i h
        cases hz.symm.trans h
      · rename_i h
        obtain ⟨-, rfl⟩ := List.cons.inj (hz.symm.trans h)
        exact ⟨_, rfl⟩
      · rename_i hne
        exact absurd hz (hne _)
    · rename_i hne
      exact absurd hs (hne _)

theorem variant_iff : Reads ((variant known).text depth s) a rest ↔
    (∃ t, skipSpace s = '"' :: t ∧ Reads (knownName known t) a rest) ∨
      ∃ e t, depth = e + 1 ∧ skipSpace s = '\x7b' :: t ∧ Reads (namedNull known t) a rest := by
  constructor
  · rintro ⟨_, h⟩
    unfold variant at h
    dsimp only at h
    split at h
    · cases h
    · obtain ⟨r, hr, h⟩ := exists_of_bind_eq_ok h
      cases h
      exact .inl ⟨_, ‹_›, reads_of_eq_ok hr rfl⟩
    · cases depth with
      | zero => cases h
      | succ e =>
        obtain ⟨r, hr, h⟩ := exists_of_bind_eq_ok h
        cases h
        exact .inr ⟨e, _, rfl, ‹_›, reads_of_eq_ok hr rfl⟩
    · cases h
  · rintro (⟨t, hs, ⟨lt, h⟩⟩ | ⟨e, t, rfl, hs, ⟨lt, h⟩⟩)
    all_goals
      unfold variant
      dsimp only
      split
      · rename_i hnil
        cases hs.symm.trans hnil
    · rename_i hcons
      obtain ⟨-, rfl⟩ := List.cons.inj (hs.symm.trans hcons)
      rw [h]
      exact ⟨_, rfl⟩
    · rename_i hcons
      cases hs.symm.trans hcons
    · rename_i hne _
      exact absurd hs (hne _)
    · rename_i hcons
      cases hs.symm.trans hcons
    · rename_i hcons
      obtain ⟨-, rfl⟩ := List.cons.inj (hs.symm.trans hcons)
      rw [h]
      exact ⟨_, rfl⟩
    · rename_i hne
      exact absurd hs (hne _)

end

variable {d : σ} {c : Char}

theorem not_record (hs : ∀ c t, skipSpace s = c :: t → c ≠ '[' ∧ c ≠ '\x7b') :
    ¬Reads ((record name d fields).text depth s) y rest := by
  rintro ⟨_, h⟩
  unfold record at h
  dsimp only at h
  split at h
  · cases h
  · rename_i hcons
    obtain ⟨hlist, hobject⟩ := hs _ _ hcons
    rw [if_neg (by simp [hlist, hobject])] at h
    cases h

theorem record_array (hs : skipSpace s = '[' :: t) :
    Reads ((record name d fields).text depth s) y rest ↔
    ∃ e, depth = e + 1 ∧ Reads (Record.positional e true d fields t) y rest := by
  unfold record
  dsimp only
  split
  · rename_i h
    cases hs.symm.trans h
  · rename_i h
    obtain ⟨rfl, rfl⟩ := List.cons.inj (hs.symm.trans h)
    rw [if_pos (by decide)]
    constructor
    · rintro ⟨_, h⟩
      cases depth with
      | zero => cases h
      | succ e =>
        dsimp only at h
        rw [if_pos rfl] at h
        obtain ⟨r, hr, h⟩ := exists_of_bind_eq_ok h
        cases h
        exact ⟨e, rfl, reads_of_eq_ok hr rfl⟩
    · rintro ⟨e, rfl, ⟨lt, hr⟩⟩
      dsimp only
      rw [if_pos rfl, hr]
      exact ⟨_, rfl⟩

theorem record_object (hs : skipSpace s = '\x7b' :: t) :
    Reads ((record name d fields).text depth s) y rest ↔
    ∃ e, depth = e + 1 ∧ Reads (Record.named fields e true [] d t) y rest := by
  constructor
  · rintro ⟨_, h⟩
    unfold record at h
    dsimp only at h
    split at h
    · cases h
    · rename_i hcons
      obtain ⟨rfl, rfl⟩ := List.cons.inj (hs.symm.trans hcons)
      rw [if_pos (by decide)] at h
      cases depth with
      | zero => cases h
      | succ e =>
        dsimp only at h
        rw [if_neg (by decide)] at h
        obtain ⟨r, hr, h⟩ := exists_of_bind_eq_ok h
        cases h
        exact ⟨e, rfl, reads_of_eq_ok hr rfl⟩
  · rintro ⟨e, rfl, hr⟩
    exact record_of_brace hs hr

end Decoder

end PackageMarket.Json
