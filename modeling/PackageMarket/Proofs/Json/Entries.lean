import Mathlib.Data.List.Forall2
import Mathlib.Data.List.TakeWhile
import PackageMarket.Proofs.Json.Formed
import PackageMarket.Proofs.Json.LocalDecoder

set_option autoImplicit false

/-!
Texts of objects that a record is read from: known members in any order, each at most once, and
among them any number of others. What each field of the record becomes depends on its own member
alone.
-/

namespace PackageMarket.Json

open Text

structure Member extends Entry where
  key : String
  named : Reads (quoted name) key.toList []

theorem skipSpace_eq_nil {w : List Char} : skipSpace w = [] ↔ Blank w := List.dropWhile_eq_nil_iff

theorem endsNumber_of_blank {w : List Char} (h : Blank w) : EndsNumber w := by
  cases w with
  | nil => exact endsNumber_nil
  | cons c w => exact endsNumber_of_isSpace (h c List.mem_cons_self)

theorem reads_of_whole {α : Type} {read read' : Reader α} (h : Extends read read')
    {s : List Char} {a : α} (ha : whole read s = .ok a) :
    ∃ w, Blank w ∧ ∀ rest, EndsNumber (w ++ rest) → Reads (read' (s ++ rest)) a (w ++ rest) := by
  obtain ⟨w, hread, hw⟩ := whole_eq_ok.mp ha
  exact ⟨w, skipSpace_eq_nil.mp hw, fun rest hrest => h.reads hread hrest⟩

theorem Extends.whole {α : Type} {read read' : Reader α} (h : Extends read read')
    {s : List Char} {a : α} (ha : whole read s = .ok a) : Json.whole read' s = .ok a := by
  obtain ⟨w, hw, hread⟩ := reads_of_whole h ha
  have hend : EndsNumber (w ++ []) := by
    rw [List.append_nil]
    exact endsNumber_of_blank hw
  have hread := hread [] hend
  rw [List.append_nil, List.append_nil] at hread
  exact whole_eq_ok.mpr ⟨w, hread, skipSpace_eq_nil.mpr hw⟩

section

variable {α : Type} {item : Reader α} {ts : List (List Char)} {as : List α} {inner : List Char}

end

section

variable {σ α : Type} {fields : List (RecordField σ)} {depth : Nat} {ms : List Member}

/-- Each known name stands at most once and before what its field reads; behind
any other name is any JSON. -/
structure Fits (fields : List (RecordField σ)) (depth : Nat) (ms : List Member) : Prop where
  once : ∀ f ∈ fields, (ms.map Member.key).count f.name ≤ 1
  known : ∀ m ∈ ms, ∀ f, fields.find? (·.name = m.key) = some f →
    ∃ put, whole (f.text depth) m.text = .ok put
  unknown : ∀ m ∈ ms, fields.find? (·.name = m.key) = none → Formed m.text

def Member.put (fields : List (RecordField σ)) (depth : Nat) (m : Member) (x : σ) : σ :=
  match fields.find? (·.name = m.key) with
  | none => x
  | some f =>
    match whole (f.text depth) m.text with
    | .ok put => put x
    | .error _ => x

def Member.putAll (fields : List (RecordField σ)) (depth : Nat) (ms : List Member) (x : σ) : σ :=
  ms.foldl (fun x m => m.put fields depth x) x

theorem Fits.tail {m : Member} (h : Fits fields depth (m :: ms)) : Fits fields depth ms where
  once f hf := Nat.le_trans (List.count_le_count_cons ..) (h.once f hf)
  known k hk := h.known k (List.mem_cons_of_mem _ hk)
  unknown k hk := h.unknown k (List.mem_cons_of_mem _ hk)

end

end PackageMarket.Json
