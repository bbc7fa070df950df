import PackageMarket.Proofs.Json.Next
import PackageMarket.Proofs.Json.Value

set_option autoImplicit false

namespace PackageMarket.Json

open Decimal Text

def Gives {α : Type} {s : List Char} (P : α → Prop) (x : Except Fault (Read α s)) : Prop :=
  ∀ r : Read α s, x = .ok r → P r.value

namespace Gives

variable {α β : Type} {s : List Char} {P : α → Prop}

theorem error (f : Fault) : Gives P (.error f : Except Fault (Read α s)) := by
  intro r h
  cases h

theorem ok {r : Read α s} (h : P r.value) : Gives P (.ok r) := by
  intro r' hr
  cases hr
  exact h

theorem bind {x : Except Fault β} {f : β → Except Fault (Read α s)}
    (h : ∀ b, x = .ok b → Gives P (f b)) :
    Gives P (x >>= f) := by
  cases x with
  | error g => exact error g
  | ok b => exact h b rfl

end Gives

theorem Gives.of_whole {α : Type} {P : α → Prop} {read : Reader α} {s : List Char} {a : α}
    (h : Gives P (read s)) (ha : whole read s = .ok a) : P a := by
  obtain ⟨rest, ⟨lt, hread⟩, -⟩ := whole_eq_ok.mp ha
  exact h _ hread

/-- Integers of 64 bits, with a sign or without, and all floats. -/
def Number.InRange : Number → Prop
  | .int n => -9223372036854775808 ≤ n ∧ n ≤ uint64Max
  | .float _ => True

/-- What any value is that is read with so many brackets allowed. -/
structure Value.AsRead (depth : Nat) (v : Value) : Prop where
  within : v.Within Number.InRange depth
  ordered : v.Ordered

theorem Value.AsRead.mono {d e : Nat} {v : Value} (h : v.AsRead d) (he : d ≤ e) : v.AsRead e :=
  ⟨h.within.mono he, h.ordered⟩

theorem Literal.inRange_value {l : Literal} {n : Number} (h : l.value = some n) : n.InRange := by
  unfold Literal.value at h
  dsimp only at h
  split at h
  · rename_i hl
    simp only [Bool.and_eq_true, decide_eq_true_eq] at hl
    cases h
    exact ⟨by omega, by omega⟩
  split at h
  · rename_i hl
    simp only [Bool.and_eq_true, decide_eq_true_eq] at hl
    cases h
    exact ⟨by omega, by omega⟩
  · obtain ⟨x, -, rfl⟩ := Option.map_eq_some_iff.mp h
    trivial

theorem number_gives (s : List Char) : Gives Number.InRange (Number.read s) := by
  refine .bind fun r _ => ?_
  split
  · exact .error _
  · exact .ok (Literal.inRange_value ‹_›)
  · exact .error _

theorem scalar_gives (s : List Char) : Gives (Value.AsRead 0) (scalar s) := by
  unfold scalar
  split
  · exact .error _
  dsimp only
  split
  · exact .bind fun r _ => .ok ⟨.null, .null⟩
  split
  · exact .bind fun r _ => .ok ⟨.bool, .bool⟩
  split
  · exact .bind fun r _ => .ok ⟨.bool, .bool⟩
  split
  · exact .bind fun r h => .ok ⟨.number (number_gives _ r h), .number⟩
  split
  · exact .bind fun r _ => .ok ⟨.string, .string⟩
  · exact .error _

section

variable {α : Type}

theorem items_gives {P : α → Prop} {item : Reader α} (hitem : ∀ t, Gives P (item t)) (first : Bool)
    (s : List Char) : Gives (fun as => ∀ a ∈ as, P a) (itemsFrom item first s) := by
  fun_induction itemsFrom item first s with
  | case1 | case3 | case4 => exact .error _
  | case2 => exact .ok (by simp)
  | case5 =>
    rename_i r hr rs hrs ih
    exact .ok (List.forall_mem_cons.mpr ⟨hitem _ r hr, ih rs hrs⟩)

def Value.MembersOf (P : Value → Prop) (ms : List (String × Value)) : Prop :=
  ms.Pairwise (fun m n => m.1 < n.1) ∧ ∀ m ∈ ms, P m.2

theorem Value.MembersOf.insert {P : Value → Prop} {ms : List (String × Value)} (h : MembersOf P ms)
    (name : String) {v : Value} (hv : P v) : MembersOf P (insert name v ms) := by
  refine ⟨pairwise_insert h.1, fun m hm => ?_⟩
  rcases mem_insert hm with rfl | hm
  · exact hv
  · exact h.2 m hm

theorem members_gives {P : Value → Prop} {item : Reader Value} (hitem : ∀ t, Gives P (item t))
    (first : Bool) {ms : List (String × Value)} (hms : Value.MembersOf P ms) (s : List Char) :
    Gives (Value.MembersOf P) (membersFrom item first ms s) := by
  fun_induction membersFrom item first ms s with
  | case1 | case3 | case4 | case5 | case6 => exact .error _
  | case2 => exact .ok hms
  | case7 =>
    rename_i k _ u _ v hv r hr ih
    exact .ok (ih (hms.insert _ (hitem _ v hv)) r hr)

end

theorem value_gives (d : Nat) (s : List Char) : Gives (Value.AsRead d) (value d s) := by
  have hscalar (d : Nat) (s : List Char) {t : List Char} (f : (r : Read Value s) → Read Value t)
      (hf : ∀ r, (f r).value = r.value) :
      Gives (Value.AsRead d) (scalar s >>= fun r => .ok (f r)) := by
    refine .bind fun r hr => .ok ?_
    rw [hf]
    exact (scalar_gives s r hr).mono (Nat.zero_le d)
  induction d generalizing s with
  | zero =>
    unfold value
    split
    · exact .error _
    split
    · exact .error _
    split
    · exact .error _
    · exact hscalar _ _ _ fun r => rfl
  | succ d ih =>
    unfold value
    split
    · exact .error _
    split
    · refine .bind fun r hr => .ok ?_
      have h := items_gives ih true _ r hr
      exact ⟨.array fun v hv => (h v hv).within, .array fun v hv => (h v hv).ordered⟩
    split
    · refine .bind fun r hr => .ok ?_
      have h := members_gives ih true ⟨.nil, List.forall_mem_nil _⟩ _ r hr
      exact ⟨.object fun m hm => (h.2 m hm).within, .object h.1 fun m hm => (h.2 m hm).ordered⟩
    · exact hscalar _ _ _ fun r => rfl

theorem asRead_of_ofText {s : List Char} {v : Value} (h : Value.ofText s = .ok v) :
    v.AsRead maxDepth :=
  (value_gives maxDepth s).of_whole h

end PackageMarket.Json
