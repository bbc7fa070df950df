import Mathlib.Data.List.Nodup
import Mathlib.Data.List.Pairwise
import PackageMarket.Proofs.Json.Entries

set_option autoImplicit false

namespace PackageMarket.Json

open Text

section

variable {σ α β γ : Type} {fields : List (RecordField σ)} {depth : Nat} {ms ks : List Member}

@[simp] theorem RecordField.of_name {name : String} {d : Decoder α} {put : α → σ → σ} :
    (RecordField.of name d put).name = name := rfl

theorem of_whole {name : String} {d : Decoder α} {put : α → σ → σ} {s : List Char} {a : α}
    (h : whole (d.text depth) s = .ok a) :
    whole ((RecordField.of name d put).text depth) s = .ok (put a) := by
  obtain ⟨rest, ⟨lt, h⟩, hrest⟩ := whole_eq_ok.mp h
  exact whole_eq_ok.mpr ⟨rest, ⟨lt, by simp only [RecordField.of, h]; rfl⟩, hrest⟩

def RecordField.Commutes (f g : RecordField σ) : Prop :=
  ∀ (depth : Nat) (s t : List Char) (put put' : σ → σ), whole (f.text depth) s = .ok put →
    whole (g.text depth) t = .ok put' → ∀ x, put (put' x) = put' (put x)

instance : Std.Symm (RecordField.Commutes (σ := σ)) :=
  ⟨fun _ _ h depth s t put put' hput hput' x => (h depth t s put' put hput' hput x).symm⟩

def Member.Known (fields : List (RecordField σ)) (m : Member) : Bool := fields.any (·.name = m.key)

theorem Fits.nodup (h : Fits fields depth ms) :
    ((ms.filter (Member.Known fields)).map Member.key).Nodup := by
  refine List.nodup_iff_count.mpr fun name => ?_
  by_cases hname : ∃ f ∈ fields, f.name = name
  · obtain ⟨f, hf, rfl⟩ := hname
    exact Nat.le_trans ((List.filter_sublist.map Member.key).count_le f.name) (h.once f hf)
  · have hnot : name ∉ (ms.filter (Member.Known fields)).map Member.key := by
      intro hmem
      obtain ⟨m, hm, rfl⟩ := List.mem_map.mp hmem
      have hknown := (List.mem_filter.mp hm).2
      simp only [Member.Known, List.any_eq_true, decide_eq_true_eq] at hknown
      exact hname hknown
    rw [List.count_eq_zero.mpr hnot]
    exact Nat.zero_le 1

end

end PackageMarket.Json
