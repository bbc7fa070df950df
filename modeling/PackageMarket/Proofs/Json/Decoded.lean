import PackageMarket.Json.Decoder
import PackageMarket.Proofs.Json.Flawed
import PackageMarket.Proofs.Json.Given
import PackageMarket.Proofs.Json.Next

set_option autoImplicit false

namespace PackageMarket.Json

open Decimal Text

/-- The text of a value may begin with a character. -/
def Value.Opens (c : Char) : Value → Prop
  | .null => c = 'n'
  | .bool _ => c = 't' ∨ c = 'f'
  | .number _ => Decoder.beginsNumber c = true
  | .string _ => c = '"'
  | .array _ => c = '['
  | .object _ => c = '\x7b'

section

variable {d : Nat} {s t : List Char} {c : Char}

theorem scalar_opens : Gives (Value.Opens c) (scalar (c :: t)) := by
  unfold scalar
  dsimp only
  split
  · exact .bind fun r _ => .ok ‹_›
  split
  · exact .bind fun r _ => .ok (.inl ‹_›)
  split
  · exact .bind fun r _ => .ok (.inr ‹_›)
  split
  · exact .bind fun r _ => .ok ‹_›
  split
  · exact .bind fun r _ => .ok ‹_›
  · exact .error _

theorem value_opens (hs : skipSpace s = c :: t) : Gives (Value.Opens c) (value d s) := by
  rw [value_eq hs]
  split
  · cases d with
    | zero => exact .error _
    | succ d => exact .bind fun r _ => .ok ‹_›
  split
  · cases d with
    | zero => exact .error _
    | succ d => exact .bind fun r _ => .ok ‹_›
  · exact .bind fun r hr => .ok (scalar_opens r hr)

theorem skipSpace_skipSpace : skipSpace (skipSpace s) = skipSpace s := by
  rcases hs : skipSpace s with _ | ⟨c, t⟩
  · rfl
  · exact skipSpace_self (isSpace_of_skipSpace hs)

theorem value_ne_null (h : ∀ t, skipSpace s ≠ 'n' :: t) : Gives (· ≠ .null) (value d s) := by
  rcases hs : skipSpace s with _ | ⟨c, t⟩
  · obtain ⟨f, hf, -⟩ := value_fails_of_end (d := d) hs
    rw [hf]
    exact .error f
  · intro r hr hnull
    have hc := value_opens hs r hr
    rw [hnull] at hc
    exact h t (by rw [hs, hc])

end

namespace Decoder

variable {α : Type} {depth : Nat}

def Gives (d : Decoder α) (depth : Nat) (P : α → Prop) : Prop := ∀ s, Json.Gives P (d.text depth s)

theorem Gives.of_map_decode {β : Type} {d : Decoder α} {P : α → Prop} (h : d.Gives maxDepth P)
    {s : List Char} {f : α → β} {b : β} (hb : (d.decode s).map f = .ok b) : ∃ a, P a ∧ f a = b := by
  cases ha : d.decode s with
  | error g =>
    rw [ha] at hb
    cases hb
  | ok a =>
    rw [ha] at hb
    cases hb
    exact ⟨a, (h s).of_whole ha, rfl⟩

theorem any_gives : any.Gives depth (Value.AsRead depth) := value_gives depth

theorem int64_gives : int64.Gives depth fun n => int64Min ≤ n ∧ n ≤ int64Max := by
  intro s
  unfold int64 readScalar
  dsimp only
  split
  · exact .error _
  split
  · refine .bind fun r hr => ?_
    split
    · rename_i m haccept
      refine .ok ?_
      split at haccept
      · rename_i n hvalue
        split at haccept
        · cases haccept
          have hwithin := (scalar_gives _ r hr).within
          rw [hvalue] at hwithin
          cases hwithin with
          | number hn => exact ⟨hn.1, ‹_›⟩
        · cases haccept
      · cases haccept
    · exact .error _
  · exact .error _

theorem option_gives {d : Decoder α} {P : α → Prop} (h : d.Gives depth P) :
    (option d).Gives depth fun o => ∀ a ∈ o, P a := by
  intro s
  unfold option
  dsimp only
  split
  · exact .bind fun r _ => .ok nofun
  · refine .bind fun r hr => .ok ?_
    rintro a ⟨⟩
    exact h _ r hr

theorem option_any_gives :
    (option any).Gives depth fun o => ∀ v ∈ o, v.AsRead depth ∧ v ≠ .null := by
  intro s
  unfold option
  dsimp only
  split
  · exact .bind fun r _ => .ok nofun
  · rename_i hn
    refine .bind fun r hr => .ok ?_
    rintro v ⟨⟩
    have hne : ∀ t, skipSpace (skipSpace s) ≠ 'n' :: t := by
      rw [skipSpace_skipSpace]
      exact hn
    exact ⟨value_gives _ _ r hr, value_ne_null hne r hr⟩

theorem list_gives {d : Decoder α} {P : α → Prop} (h : d.Gives depth P) :
    (list d).Gives (depth + 1) fun as => ∀ a ∈ as, P a := by
  intro s
  unfold list bracketed
  dsimp only
  split
  · exact .error _
  split
  · exact .bind fun r hr => .ok (items_gives h true _ r hr)
  · exact .error _

theorem members_gives :
    members.Gives (depth + 1) fun ms => (Value.object ms).AsRead (depth + 1) := by
  intro s
  unfold members bracketed
  dsimp only
  split
  · exact .error _
  split
  · refine .bind fun r hr => .ok ?_
    have h := Json.members_gives (value_gives depth) true ⟨.nil, List.forall_mem_nil _⟩ _ r hr
    exact ⟨.object fun m hm => (h.2 m hm).within, .object h.1 fun m hm => (h.2 m hm).ordered⟩
  · exact .error _

end Decoder

section Records

variable {σ α : Type} {depth : Nat} {P : σ → Prop}

/-- Whatever the field reads, a record with a property keeps it. -/
def RecordField.Keeps (f : RecordField σ) (depth : Nat) (P : σ → Prop) : Prop :=
  ∀ s x, P x → Json.Gives (fun put => P (put x)) (f.text depth s)

theorem RecordField.of_keeps {name : String} {d : Decoder α} {put : α → σ → σ} {Q : α → Prop}
    (hd : d.Gives depth Q) (h : ∀ a x, Q a → P x → P (put a x)) :
    (RecordField.of name d put).Keeps depth P := by
  intro s x hx
  exact .bind fun r hr => .ok (h _ x (hd s r hr) hx)

theorem RecordField.of_keeps_any {name : String} {d : Decoder α} {put : α → σ → σ}
    (h : ∀ a x, P x → P (put a x)) : (RecordField.of name d put).Keeps depth P :=
  of_keeps (Q := fun _ => True) (fun _ _ _ => trivial) fun a x _ => h a x

namespace Record

variable {fields : List (RecordField σ)}

theorem positional_gives (hfields : ∀ f ∈ fields, f.Keeps depth P) (first : Bool) {x : σ} (hx : P x)
    (s : List Char) : Json.Gives P (positional depth first x fields s) := by
  induction fields generalizing first x s with
  | nil => exact .bind fun r _ => .ok hx
  | cons f fs ih =>
    obtain ⟨hf, hfs⟩ := List.forall_mem_cons.mp hfields
    refine .bind fun next _ => ?_
    cases next with
    | done => exact .ok hx
    | item t =>
      exact .bind fun u hu => .bind fun r hr => .ok (ih hfs false (hf t x hx u hu) u.rest r hr)

theorem named_gives (hfields : ∀ f ∈ fields, f.Keeps depth P) (first : Bool)
    (seen : List String) {x : σ} (hx : P x) (s : List Char) :
    Json.Gives P (named fields depth first seen x s) := by
  fun_induction named fields depth first seen x s with
  | case1 | case3 | case4 | case5 | case6 | case8 | case9 | case10 | case11 => exact .error _
  | case2 => exact .ok hx
  | case7 =>
    rename_i r hr ih
    exact .ok (ih hx r hr)
  | case12 =>
    rename_i hfind _ _ _ u hu r hr ih
    exact .ok (ih (hfields _ (List.mem_of_find?_eq_some hfind) _ _ hx u hu) r hr)

end Record

theorem Decoder.record_gives {name : String} {default : σ} {fields : List (RecordField σ)}
    (hdefault : P default) (hfields : ∀ f ∈ fields, f.Keeps depth P) :
    (Decoder.record name default fields).Gives (depth + 1) P := by
  intro s
  unfold record
  dsimp only
  split
  · exact .error _
  split
  · split
    · exact .bind fun r hr => .ok (Record.positional_gives hfields true hdefault _ r hr)
    · exact .bind fun r hr => .ok (Record.named_gives hfields true [] hdefault _ r hr)
  · exact .error _

end Records

end PackageMarket.Json
