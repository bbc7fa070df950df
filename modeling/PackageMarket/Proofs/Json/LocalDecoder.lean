import PackageMarket.Proofs.Json.Record

set_option autoImplicit false

namespace PackageMarket.Json

open Text

/-- What the decoder reads, it reads of every longer text on which no number goes on,
with more brackets allowed. -/
def Decoder.Local {α : Type} (d : Decoder α) : Prop :=
  ∀ ⦃m n : Nat⦄, m ≤ n → Extends (d.text m) (d.text n)

def RecordField.Local {σ : Type} (f : RecordField σ) : Prop :=
  ∀ ⦃m n : Nat⦄, m ≤ n → Extends (f.text m) (f.text n)

namespace Decoder

variable {α : Type}

theorem Faithful.local {d : Decoder α} (h : d.Faithful) : d.Local := by
  intro m n hmn s r more hr hmore
  obtain ⟨v, hv, ha⟩ := (h _ _ _ _).mp (reads_of_eq_ok hr rfl)
  exact (h _ _ _ _).mpr ⟨v, (value_extends hmn).reads hv hmore, ha⟩

end Decoder

section

variable {σ : Type} {fields : List (RecordField σ)} {m n : Nat} {first : Bool}
  {seen : List String} {x y : σ} {s rest : List Char}

namespace Record

end Record

end

end PackageMarket.Json
