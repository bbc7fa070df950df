import PackageMarket.Json.Reader

set_option autoImplicit false

/-!
How deep a value is, which numbers it holds, and in which order its members stand. Sorting a value
changes the order alone, and nothing where the members are in the order of their names already.
-/

namespace PackageMarket.Json

open Decimal

namespace Value

/-- Has at most `depth` brackets open at a time, and only numbers of `P`. -/
inductive Within (P : Number → Prop) : (depth : Nat) → Value → Prop where
  | null {d : Nat} : Within P d .null
  | bool {d : Nat} {b : Bool} : Within P d (.bool b)
  | number {d : Nat} {n : Number} : P n → Within P d (.number n)
  | string {d : Nat} {s : String} : Within P d (.string s)
  | array {d : Nat} {vs : List Value} : (∀ v ∈ vs, Within P d v) → Within P (d + 1) (.array vs)
  | object {d : Nat} {ms : List (String × Value)} : (∀ m ∈ ms, Within P d m.2) →
      Within P (d + 1) (.object ms)

inductive Has (n : Number) : Value → Prop where
  | number : Has n (.number n)
  | item {vs : List Value} {v : Value} : v ∈ vs → Has n v → Has n (.array vs)
  | member {ms : List (String × Value)} {m : String × Value} : m ∈ ms → Has n m.2 →
      Has n (.object ms)

section Has

variable {n : Number}

@[simp] theorem has_null : ¬Has n .null := nofun

@[simp] theorem has_bool {b : Bool} : ¬Has n (.bool b) := nofun

@[simp] theorem has_string {s : String} : ¬Has n (.string s) := nofun

@[simp] theorem has_number {m : Number} : Has n (.number m) ↔ n = m := by
  constructor
  · intro h
    cases h
    rfl
  · rintro rfl
    exact .number

@[simp] theorem has_array {vs : List Value} : Has n (.array vs) ↔ ∃ v ∈ vs, Has n v := by
  constructor
  · intro h
    cases h with
    | item hv h => exact ⟨_, hv, h⟩
  · rintro ⟨v, hv, h⟩
    exact .item hv h

@[simp] theorem has_object {ms : List (String × Value)} :
    Has n (.object ms) ↔ ∃ m ∈ ms, Has n m.2 := by
  constructor
  · intro h
    cases h with
    | member hm h => exact ⟨_, hm, h⟩
  · rintro ⟨m, hm, h⟩
    exact .member hm h

end Has

/-- Members stand in the order of their names, no two of one name. -/
inductive Ordered : Value → Prop where
  | null : Ordered .null
  | bool {b : Bool} : Ordered (.bool b)
  | number {n : Number} : Ordered (.number n)
  | string {s : String} : Ordered (.string s)
  | array {vs : List Value} : (∀ v ∈ vs, Ordered v) → Ordered (.array vs)
  | object {ms : List (String × Value)} : ms.Pairwise (fun m n => m.1 < n.1) →
      (∀ m ∈ ms, Ordered m.2) → Ordered (.object ms)

section Within

variable {P Q : Number → Prop} {d : Nat} {v : Value}

theorem Within.mono (h : Within P d v) {e : Nat} (he : d ≤ e) : Within P e v := by
  induction h generalizing e with
  | null => exact .null
  | bool => exact .bool
  | number hn => exact .number hn
  | string => exact .string
  | array _ ih =>
    obtain ⟨e, rfl⟩ : ∃ n, e = n + 1 := ⟨e - 1, by omega⟩
    exact .array fun v hv => ih v hv (by omega)
  | object _ ih =>
    obtain ⟨e, rfl⟩ : ∃ n, e = n + 1 := ⟨e - 1, by omega⟩
    exact .object fun m hm => ih m hm (by omega)

theorem Within.imp (h : Within P d v) (hPQ : ∀ n, v.Has n → P n → Q n) : Within Q d v := by
  induction h with
  | null => exact .null
  | bool => exact .bool
  | number hn => exact .number (hPQ _ .number hn)
  | string => exact .string
  | array _ ih => exact .array fun v hv => ih v hv fun n hn => hPQ n (.item hv hn)
  | object _ ih => exact .object fun m hm => ih m hm fun n hn => hPQ n (.member hm hn)

end Within

section Insert

variable {name : String} {v : Value} {ms : List (String × Value)}

theorem mem_insert {m : String × Value} (h : m ∈ insert name v ms) : m = (name, v) ∨ m ∈ ms := by
  induction ms with
  | nil => exact .inl (List.mem_singleton.mp h)
  | cons k ms ih =>
    unfold insert at h
    split at h
    · exact List.mem_cons.mp h
    split at h
    · rcases List.mem_cons.mp h with h | h
      · exact .inl h
      · exact .inr (List.mem_cons_of_mem _ h)
    · rcases List.mem_cons.mp h with rfl | h
      · exact .inr List.mem_cons_self
      · exact (ih h).imp_right (List.mem_cons_of_mem _)

theorem pairwise_insert (h : ms.Pairwise fun m n => m.1 < n.1) :
    (insert name v ms).Pairwise fun m n => m.1 < n.1 := by
  induction ms with
  | nil => exact List.pairwise_singleton _ _
  | cons k ms ih =>
    obtain ⟨hk, hms⟩ := List.pairwise_cons.mp h
    unfold insert
    split
    · rename_i hlt
      refine List.pairwise_cons.mpr ⟨fun m hm => ?_, h⟩
      rcases List.mem_cons.mp hm with rfl | hm
      · exact hlt
      · exact String.lt_trans hlt (hk m hm)
    split
    · rename_i heq
      exact List.pairwise_cons.mpr ⟨fun m hm => heq ▸ hk m hm, hms⟩
    · rename_i hlt hne
      have hgt : k.1 < name := by
        rcases Std.lt_trichotomy k.1 name with h | h | h
        · exact h
        · exact absurd h.symm hne
        · exact absurd h hlt
      refine List.pairwise_cons.mpr ⟨fun m hm => ?_, ih hms⟩
      rcases mem_insert hm with rfl | hm
      · exact hgt
      · exact hk m hm

theorem insert_last (h : ∀ m ∈ ms, m.1 < name) : insert name v ms = ms ++ [(name, v)] := by
  induction ms with
  | nil => rfl
  | cons k ms ih =>
    obtain ⟨hk, hms⟩ := List.forall_mem_cons.mp h
    have hne : name ≠ k.1 := fun heq => String.lt_irrefl _ (heq ▸ hk)
    rw [insert, if_neg (String.lt_asymm hk), if_neg hne, ih hms, List.cons_append]

theorem perm_insert (h : name ∉ ms.map (·.1)) : (insert name v ms).Perm ((name, v) :: ms) := by
  induction ms with
  | nil => exact .refl _
  | cons k ms ih =>
    rw [List.map_cons, List.mem_cons, not_or] at h
    unfold insert
    split
    · exact .refl _
    rw [if_neg h.1]
    exact ((ih h.2).cons k).trans (.swap _ _ _)

end Insert

def IsScalar : Value → Prop
  | .array _ | .object _ => False
  | _ => True

theorem IsScalar.sorted_eq {v : Value} (h : v.IsScalar) : v.sorted = v := by
  cases v with
  | array | object => exact h.elim
  | null | bool | number | string => simp only [Value.sorted]

theorem sortedItems_eq (vs : List Value) : sortedItems vs = vs.map sorted := by
  induction vs with
  | nil => rw [sortedItems, List.map_nil]
  | cons v vs ih => rw [sortedItems, List.map_cons, ih]

theorem insertAll_of_ordered {before ms : List (String × Value)}
    (h : (before ++ ms).Pairwise fun m n => m.1 < n.1) (hms : ∀ m ∈ ms, m.2.sorted = m.2) :
    insertAll before ms = before ++ ms := by
  induction ms generalizing before with
  | nil => rw [insertAll, List.append_nil]
  | cons m ms ih =>
    obtain ⟨hm, hms⟩ := List.forall_mem_cons.mp hms
    have hlast : ∀ k ∈ before, k.1 < m.1 := fun k hk =>
      (List.pairwise_append.mp h).2.2 k hk m List.mem_cons_self
    have happend : before ++ m :: ms = (before ++ [m]) ++ ms := by rw [List.append_cons]
    rw [insertAll, hm, insert_last hlast, ih (by rwa [← happend]) hms, happend]

theorem Ordered.sorted_eq {v : Value} (h : v.Ordered) : v.sorted = v := by
  induction h with
  | null | bool | number | string => exact IsScalar.sorted_eq trivial
  | @array vs _ ih =>
    have hitems : vs.map sorted = vs.map id := List.map_congr_left ih
    rw [Value.sorted, sortedItems_eq, hitems, List.map_id]
  | @object ms hms _ ih =>
    have hmembers : insertAll [] ms = [] ++ ms := insertAll_of_ordered hms ih
    rw [Value.sorted, sortedMembers, hmembers, List.nil_append]

/-- With different names, sorting rearranges the members and sorts each. -/
theorem perm_insertAll {before ms : List (String × Value)} (h : ((before ++ ms).map (·.1)).Nodup) :
    (insertAll before ms).Perm (before ++ ms.map fun m => (m.1, m.2.sorted)) := by
  induction ms generalizing before with
  | nil => rw [insertAll, List.map_nil, List.append_nil]
  | cons m ms ih =>
    rw [List.map_append, List.map_cons] at h
    have hname : m.1 ∉ before.map (·.1) := fun hm =>
      (List.nodup_append.mp h).2.2 _ hm _ List.mem_cons_self rfl
    have hinsert : (insert m.1 m.2.sorted before).Perm ((m.1, m.2.sorted) :: before) :=
      perm_insert hname
    have hnames : (m.1 :: before.map (·.1)).Perm ((insert m.1 m.2.sorted before).map (·.1)) :=
      (hinsert.map Prod.fst).symm
    have hmove : ((before.map (·.1)) ++ m.1 :: ms.map (·.1)).Perm
        ((insert m.1 m.2.sorted before ++ ms).map (·.1)) := by
      rw [List.map_append]
      exact List.perm_middle.trans (hnames.append_right _)
    rw [insertAll, List.map_cons]
    exact (ih (hmove.nodup h)).trans ((hinsert.append_right _).trans List.perm_middle.symm)

theorem mem_insertAll {before ms : List (String × Value)} {k : String × Value}
    (h : k ∈ insertAll before ms) : k ∈ before ∨ ∃ m ∈ ms, k = (m.1, m.2.sorted) := by
  induction ms generalizing before with
  | nil => exact .inl (by rwa [insertAll] at h)
  | cons m ms ih =>
    rw [insertAll] at h
    rcases ih h with h | ⟨n, hn, rfl⟩
    · rcases mem_insert h with rfl | h
      · exact .inr ⟨m, List.mem_cons_self, rfl⟩
      · exact .inl h
    · exact .inr ⟨n, List.mem_cons_of_mem _ hn, rfl⟩

theorem pairwise_insertAll {before : List (String × Value)}
    (h : before.Pairwise fun m n => m.1 < n.1) (ms : List (String × Value)) :
    (insertAll before ms).Pairwise fun m n => m.1 < n.1 := by
  induction ms generalizing before with
  | nil => rwa [insertAll]
  | cons m ms ih =>
    rw [insertAll]
    exact ih (pairwise_insert h)

theorem Within.sorted {P : Number → Prop} {d : Nat} {v : Value} (h : Within P d v) :
    Within P d v.sorted ∧ v.sorted.Ordered := by
  induction h with
  | null =>
    rw [IsScalar.sorted_eq (v := .null) trivial]
    exact ⟨.null, .null⟩
  | bool =>
    rw [IsScalar.sorted_eq (v := .bool _) trivial]
    exact ⟨.bool, .bool⟩
  | number hn =>
    rw [IsScalar.sorted_eq (v := .number _) trivial]
    exact ⟨.number hn, .number⟩
  | string =>
    rw [IsScalar.sorted_eq (v := .string _) trivial]
    exact ⟨.string, .string⟩
  | array _ ih =>
    rw [Value.sorted, sortedItems_eq]
    refine ⟨.array fun v hv => ?_, .array fun v hv => ?_⟩
    all_goals obtain ⟨w, hw, rfl⟩ := List.mem_map.mp hv
    · exact (ih w hw).1
    · exact (ih w hw).2
  | object _ ih =>
    rw [Value.sorted, sortedMembers]
    refine ⟨.object fun m hm => ?_, .object (pairwise_insertAll .nil _) fun m hm => ?_⟩
    all_goals obtain hm | ⟨n, hn, rfl⟩ := mem_insertAll hm
    · cases hm
    · exact (ih n hn).1
    · cases hm
    · exact (ih n hn).2

end Value

end PackageMarket.Json
