import PackageMarket.Proofs.Json.Record

set_option autoImplicit false

/-!
The two sides of a decoder agree: it makes of a value what it reads of any text that spells the
value, and refuses the value where it refuses the text.
-/

namespace PackageMarket.Json

open Decimal Text

theorem reads_unique {α : Type} {s rest rest' : List Char} {x : Except Fault (Read α s)} {a a' : α}
    (h : Reads x a rest) (h' : Reads x a' rest') : a' = a ∧ rest' = rest := by
  obtain ⟨lt, h⟩ := h
  obtain ⟨lt', h'⟩ := h'
  cases h.symm.trans h'
  exact ⟨rfl, rfl⟩

/-- Wherever a text of the value stands, it is read as just what `made` is, if it is anything. -/
def ReadsMade {α : Type} (read : Reader α) (depth : Nat) (v : Value) (made : Option α) : Prop :=
  ∀ ⦃s b rest : List Char⦄, Spelled (.value depth v) s → Blank b → EndsNumber rest → ∀ a rest',
    Reads (read (b ++ (s ++ rest))) a rest' ↔ made = some a ∧ rest' = rest

/-- What is made of a value is what is read of its texts. -/
def Decoder.Agrees {α : Type} (d : Decoder α) : Prop :=
  ∀ ⦃depth : Nat⦄ ⦃v : Value⦄, v.Ordered → ReadsMade (d.text depth) depth v (d.value v)

def RecordField.Agrees {σ : Type} (f : RecordField σ) : Prop :=
  ∀ ⦃depth : Nat⦄ ⦃v : Value⦄, v.Ordered → ReadsMade (f.text depth) depth v (f.value v)

section

variable {v : Value}

theorem Value.Opens.string (h : v.Opens '"') : ∃ s, v = .string s := by
  cases v with
  | string s => exact ⟨s, rfl⟩
  | bool => rcases h with h | h <;> cases h
  | null | number | array | object => cases h

theorem Value.Opens.array (h : v.Opens '[') : ∃ vs, v = .array vs := by
  cases v with
  | array vs => exact ⟨vs, rfl⟩
  | bool => rcases h with h | h <;> cases h
  | null | number | string | object => cases h

theorem Value.Opens.object (h : v.Opens '\x7b') : ∃ ms, v = .object ms := by
  cases v with
  | object ms => exact ⟨ms, rfl⟩
  | bool => rcases h with h | h <;> cases h
  | null | number | string | array => cases h

end

theorem Spelled.opens {d : Nat} {v : Value} {s : List Char} (h : Spelled (.value d v) s) :
    ∃ c t, s = c :: t ∧ Begins c ∧ v.Opens c := by
  cases h with
  | null | array | object | string =>
    exact ⟨_, _, rfl, ⟨by decide, by decide, by decide, by decide⟩, rfl⟩
  | yes => exact ⟨_, _, rfl, ⟨by decide, by decide, by decide, by decide⟩, .inl rfl⟩
  | no => exact ⟨_, _, rfl, ⟨by decide, by decide, by decide, by decide⟩, .inr rfl⟩
  | number h =>
    obtain ⟨c, t, hs, hc⟩ := h.begins
    exact ⟨c, t, hs, begins_number hc, hc⟩

section

variable {d : Nat} {first : Bool} {t u rest : List Char}

theorem Spelled.skipSpace_endItems (h : Spelled (.items d first []) t) :
    skipSpace (t ++ rest) = ']' :: rest := by
  cases h with
  | endItems hb =>
    rw [List.append_assoc]
    exact skipSpace_blank hb (by decide)

theorem Spelled.skipSpace_item {v : Value} {vs : List Value}
    (h : Spelled (.items d first (v :: vs)) t) :
    skipSpace (t ++ rest) ≠ ']' :: u := by
  intro hs
  obtain ⟨s, u, le, hnext, -⟩ := h.next_item rest
  obtain ⟨lt, hdone⟩ := nextItem_done first hs
  cases hnext.symm.trans hdone

theorem Spelled.skipSpace_endMembers (h : Spelled (.members d first []) t) :
    skipSpace (t ++ rest) = '\x7d' :: rest := by
  cases h with
  | endMembers hb =>
    rw [List.append_assoc]
    exact skipSpace_blank hb (by decide)

theorem Spelled.skipSpace_member {m : String × Value} {ms : List (String × Value)}
    (h : Spelled (.members d first (m :: ms)) t) : skipSpace (t ++ rest) ≠ '\x7d' :: u := by
  intro hs
  obtain ⟨n, b, s, u, le, hnext, -⟩ := h.next_member rest
  obtain ⟨lt, hdone⟩ := nextMember_done first hs
  cases hnext.symm.trans hdone

end

namespace Decoder

variable {α : Type}

theorem Faithful.agrees {d : Decoder α} (h : d.Faithful) : d.Agrees := by
  intro depth v hv s b rest hs hb hrest a rest'
  -- reading sorts the members, which are sorted already
  have hread := value_of_spelled depth v hs hb hrest
  rw [hv.sorted_eq] at hread
  rw [h]
  constructor
  · rintro ⟨w, hw, ha⟩
    obtain ⟨rfl, rfl⟩ := reads_unique hread hw
    exact ⟨ha, rfl⟩
  · rintro ⟨ha, rfl⟩
    exact ⟨v, hread, ha⟩

theorem option_agrees {d : Decoder α} (h : d.Agrees) : (option d).Agrees := by
  intro depth v hv s b rest hs hb hrest o rest'
  rw [option_iff]
  -- null is told by its first character, with which no other value begins
  by_cases hnull : v = .null
  · subst hnull
    cases hs
    have hskip : skipSpace (b ++ (['n', 'u', 'l', 'l'] ++ rest)) =
        'n' :: 'u' :: 'l' :: 'l' :: rest :=
      skipSpace_blank hb (by decide)
    have hscalar : Reads (scalar ('n' :: 'u' :: 'l' :: 'l' :: rest)) .null rest :=
      ⟨by simp; omega, rfl⟩
    constructor
    · rintro (⟨t, w, ht, hw, rfl⟩ | ⟨hn, -⟩)
      · obtain ⟨-, rfl⟩ := List.cons.inj (hskip.symm.trans ht)
        exact ⟨rfl, (reads_unique hscalar hw).2⟩
      · exact absurd hskip (hn _)
    · rintro ⟨ho, rfl⟩
      cases ho
      exact .inl ⟨_, .null, hskip, hscalar, rfl⟩
  · obtain ⟨c, t, rfl, hc⟩ := hs.begins
    have hskip : skipSpace (b ++ (c :: t ++ rest)) = c :: (t ++ rest) := skipSpace_blank hb hc.1
    have hn : ∀ u, skipSpace (b ++ (c :: t ++ rest)) ≠ 'n' :: u := by
      intro u hu
      obtain ⟨rfl, -⟩ := List.cons.inj (hskip.symm.trans hu)
      exact hnull (eq_null_of_spelled hs rfl)
    have hread := h hv hs blank_nil hrest
    rw [option_value hnull, hskip]
    constructor
    · rintro (⟨u, w, hu, -⟩ | ⟨-, a, ha, rfl⟩)
      · exact absurd (hskip.trans hu) (hn u)
      · obtain ⟨hd, rfl⟩ := (hread a rest').mp ha
        rw [hd]
        exact ⟨rfl, rfl⟩
    · rintro ⟨ho, rfl⟩
      obtain ⟨a, ha, rfl⟩ := Option.map_eq_some_iff.mp ho
      exact .inr ⟨fun u hu => hn u (hskip.trans hu), a, (hread a _).mpr ⟨ha, rfl⟩, rfl⟩

section

variable {known : List (String × α)} {a : α} {c : Char} {depth : Nat} {s t u rest rest' : List Char}

theorem variant_cons (hs : skipSpace s = c :: t) : Reads ((variant known).text depth s) a rest ↔
    (c = '"' ∧ Reads (knownName known t) a rest) ∨
      ∃ e, depth = e + 1 ∧ c = '\x7b' ∧ Reads (namedNull known t) a rest := by
  rw [variant_iff, hs]
  constructor
  · rintro (⟨t, ht, h⟩ | ⟨e, t, he, ht, h⟩)
    · cases ht
      exact .inl ⟨rfl, h⟩
    · cases ht
      exact .inr ⟨e, he, rfl, h⟩
  · rintro (⟨rfl, h⟩ | ⟨e, he, rfl, h⟩)
    · exact .inl ⟨t, rfl, h⟩
    · exact .inr ⟨e, t, he, rfl, h⟩

theorem knownName_of_quoted {name : String} (hname : Reads (quoted s) name.toList u) :
    Reads (knownName known s) a rest ↔ find known name.toList = some a ∧ rest = u := by
  rw [knownName_iff]
  constructor
  · rintro ⟨cs, hcs, ha⟩
    obtain ⟨rfl, rfl⟩ := reads_unique hname hcs
    exact ⟨ha, rfl⟩
  · rintro ⟨ha, rfl⟩
    exact ⟨_, hname, ha⟩

theorem namedNull_of_spelled {ms : List (String × Value)} (hms : ∀ m ∈ ms, m.2.Ordered)
    (h : Spelled (.members depth true ms) t) (rest : List Char) :
    Reads (namedNull known (t ++ rest)) a rest' ↔ (variant known).value (.object ms) = some a ∧
      rest' = rest := by
  rw [namedNull_iff depth]
  rcases ms with _ | ⟨⟨name, v⟩, ms⟩
  · refine iff_of_false ?_ (fun h => by cases h.1)
    rintro ⟨n, u, w, z, hs, -⟩
    cases h.skipSpace_endMembers.symm.trans hs
  obtain ⟨hv, -⟩ := List.forall_mem_cons.mp hms
  obtain ⟨n, b, s, u, le, hnext, hname, hb, hs, hu⟩ := h.next_member rest
  have hvalue : Reads (Json.value depth (b ++ (s ++ (u ++ rest)))) v (u ++ rest) := by
    have hread := value_of_spelled depth v hs hb (hu.endsNumber_members rest)
    rwa [hv.sorted_eq] at hread
  have hquote : skipSpace (t ++ rest) = '"' :: n := by
    cases nextMember_cases hnext with
    | first hquote => exact hquote
  constructor
  · rintro ⟨n', u', w, z, hn, hk, hcolon, hnull, hclose⟩
    obtain ⟨-, rfl⟩ := List.cons.inj (hquote.symm.trans hn)
    obtain ⟨ha, rfl⟩ := (knownName_of_quoted hname).mp hk
    obtain ⟨-, rfl⟩ := List.cons.inj ((skipSpace_self (by decide)).symm.trans hcolon)
    obtain ⟨rfl, rfl⟩ := reads_unique hvalue hnull
    cases ms with
    | nil =>
      obtain ⟨-, rfl⟩ := List.cons.inj (hu.skipSpace_endMembers.symm.trans hclose)
      exact ⟨ha, rfl⟩
    | cons m ms => exact absurd hclose hu.skipSpace_member
  · rintro ⟨ha, rfl⟩
    obtain ⟨rfl, rfl⟩ : v = .null ∧ ms = [] := by
      cases v with
      | null =>
        cases ms with
        | nil => exact ⟨rfl, rfl⟩
        | cons => cases ha
      | bool | number | string | array | object => cases ha
    exact ⟨n, _, _, _, hquote, (knownName_of_quoted hname).mpr ⟨ha, rfl⟩,
      skipSpace_self (by decide), hvalue, hu.skipSpace_endMembers⟩

theorem variant_agrees (known : List (String × α)) : (variant known).Agrees := by
  intro depth v hv s b rest hs hb hrest a rest'
  cases v with
  | string name =>
    cases hs
    have hskip : skipSpace (b ++ (quote name.toList ++ rest)) =
        '"' :: (name.toList.flatMap escapeChar ++ '"' :: rest) := by
      rw [quote_append]
      exact skipSpace_blank hb (by decide)
    rw [variant_cons hskip, knownName_of_quoted (quoted_escaped name.toList rest)]
    constructor
    · rintro (⟨-, h⟩ | ⟨e, -, hc, -⟩)
      · exact h
      · cases hc
    · exact fun h => .inl ⟨rfl, h⟩
  | object ms =>
    cases hs with
    | @object e _ t ht =>
      cases hv with
      | object _ hms =>
        have hskip : skipSpace (b ++ ('\x7b' :: t ++ rest)) = '\x7b' :: (t ++ rest) :=
          skipSpace_blank hb (by decide)
        rw [variant_cons hskip, ← namedNull_of_spelled hms ht rest]
        constructor
        · rintro (⟨hc, -⟩ | ⟨e, -, -, h⟩)
          · cases hc
          · exact h
        · intro h
          exact .inr ⟨e, rfl, rfl, h⟩
  | null | bool | number | array =>
    obtain ⟨c, t, rfl, hc, hopens⟩ := hs.opens
    have hskip : skipSpace (b ++ (c :: t ++ rest)) = c :: (t ++ rest) := skipSpace_blank hb hc.1
    rw [variant_cons hskip]
    refine iff_of_false ?_ (fun h => by cases h.1)
    rintro (⟨rfl, -⟩ | ⟨e, -, rfl, -⟩)
    · obtain ⟨_, h⟩ := hopens.string
      cases h
    · obtain ⟨_, h⟩ := hopens.object
      cases h

end

end Decoder

theorem RecordField.of_agrees {σ α : Type} {name : String} {d : Decoder α} {put : α → σ → σ}
    (h : d.Agrees) : (RecordField.of name d put).Agrees := by
  intro depth v hv s b rest hs hb hrest f rest'
  have hread := h hv hs hb hrest
  constructor
  · rintro ⟨_, hf⟩
    obtain ⟨r, hr, hf⟩ := exists_of_bind_eq_ok hf
    cases hf
    obtain ⟨ha, hrest⟩ := (hread _ _).mp (reads_of_eq_ok hr rfl)
    exact ⟨congrArg (Option.map put) ha, hrest⟩
  · rintro ⟨hf, rfl⟩
    obtain ⟨a, ha, rfl⟩ := Option.map_eq_some_iff.mp hf
    obtain ⟨lt, hr⟩ := (hread a _).mpr ⟨ha, rfl⟩
    simp only [RecordField.of, hr, bind, Except.bind]
    exact ⟨_, rfl⟩

namespace Record

variable {σ : Type} {fields : List (RecordField σ)} {depth : Nat} {first : Bool} {x y : σ}
    {t rest' : List Char}

theorem named_agrees (hfields : ∀ f ∈ fields, f.Agrees) {seen : List String}
    {ms : List (String × Value)} (hms : ∀ m ∈ ms, m.2.Ordered) (hnames : (ms.map (·.1)).Nodup)
    (hseen : ∀ m ∈ ms, m.1 ∉ seen) (h : Spelled (.members depth first ms) t) (rest : List Char) :
    Reads (named fields depth first seen x (t ++ rest)) y rest' ↔ ofMembers fields x ms = some y ∧
      rest' = rest := by
  -- by induction on the members; no name to come has been seen, so none is refused as a second one
  induction ms generalizing first seen x t with
  | nil =>
    obtain ⟨lt, hnext⟩ := h.next_endMembers rest
    rw [named_done hnext, ofMembers, Option.some_inj, eq_comm]
  | cons m ms ih =>
    obtain ⟨name, v⟩ := m
    obtain ⟨hv, hms⟩ := List.forall_mem_cons.mp hms
    obtain ⟨hnew, hseen⟩ := List.forall_mem_cons.mp hseen
    obtain ⟨hname, hnames⟩ := List.nodup_cons.mp hnames
    obtain ⟨n, b, s, u, le, hnext, hquoted, hb, hs, hu⟩ := h.next_member rest
    have hend := hu.endsNumber_members rest
    have hcolon : skipSpace (':' :: (b ++ (s ++ (u ++ rest)))) = ':' :: (b ++ (s ++ (u ++ rest))) :=
      skipSpace_self (by decide)
    cases hfind : fields.find? (·.name = name) with
    | none =>
      have hskipped := skipValue_of_value (value_of_spelled depth v hs hb hend) hend
      rw [named_unknown hnext hquoted hfind hcolon, ofMembers, hfind, ← ih hms hnames hseen hu]
      constructor
      · rintro ⟨w, hw, hlater⟩
        obtain ⟨-, rfl⟩ := reads_unique hskipped hw
        exact hlater
      · intro hlater
        exact ⟨_, hskipped, hlater⟩
    | some f =>
      have hread := hfields f (List.mem_of_find?_eq_some hfind) hv hs hb hend
      have hseen : ∀ m ∈ ms, m.1 ∉ name :: seen := by
        intro m hm hmem
        rcases List.mem_cons.mp hmem with heq | hmem
        · exact hname (List.mem_map.mpr ⟨m, hm, heq⟩)
        · exact hseen m hm hmem
      rw [named_known hnext hquoted hfind hnew hcolon]
      simp only [ofMembers, hfind]
      constructor
      · rintro ⟨put, w, hput, hlater⟩
        obtain ⟨hmade, rfl⟩ := (hread _ _).mp hput
        rw [hmade]
        exact (ih hms hnames hseen hu).mp hlater
      · rintro ⟨hmade, rfl⟩
        obtain ⟨put, hput, hmade⟩ := Option.bind_eq_some_iff.mp hmade
        exact ⟨put, _, (hread _ _).mpr ⟨hput, rfl⟩, (ih hms hnames hseen hu).mpr ⟨hmade, rfl⟩⟩

theorem positional_agrees (hfields : ∀ f ∈ fields, f.Agrees) {vs : List Value}
    (hvs : ∀ v ∈ vs, v.Ordered) (h : Spelled (.items depth first vs) t) (rest : List Char) :
    Reads (positional depth first x fields (t ++ rest)) y rest' ↔ ofItems x fields vs = some y ∧
      rest' = rest := by
  -- by induction on the fields: the items may be fewer, and both sides fail if they are more
  induction fields generalizing first x t vs with
  | nil =>
    rw [positional_nil]
    cases vs with
    | nil =>
      rw [h.skipSpace_endItems, ofItems, Option.some_inj, List.cons_inj_right, and_comm, eq_comm,
        eq_comm (a := rest)]
    | cons v vs => exact iff_of_false (fun hy => h.skipSpace_item hy.1) (by simp [ofItems])
  | cons f fs ih =>
    obtain ⟨hf, hfs⟩ := List.forall_mem_cons.mp hfields
    cases vs with
    | nil =>
      obtain ⟨lt, hnext⟩ := h.next_endItems rest
      rw [positional_done hnext, ofItems, Option.some_inj, eq_comm]
    | cons v vs =>
      obtain ⟨hv, hvs⟩ := List.forall_mem_cons.mp hvs
      obtain ⟨s, u, le, hnext, hs, hu⟩ := h.next_item rest
      have hread := hf hv hs blank_nil (hu.endsNumber_items rest)
      rw [positional_item hnext, ofItems]
      constructor
      · rintro ⟨put, w, hput, hlater⟩
        obtain ⟨hmade, rfl⟩ := (hread _ _).mp hput
        rw [hmade]
        exact (ih hfs hvs hu).mp hlater
      · rintro ⟨hmade, rfl⟩
        obtain ⟨put, hput, hmade⟩ := Option.bind_eq_some_iff.mp hmade
        exact ⟨put, _, (hread _ _).mpr ⟨hput, rfl⟩, (ih hfs hvs hu).mpr ⟨hmade, rfl⟩⟩

end Record

namespace Decoder

theorem record_agrees {σ : Type} {name : String} {default : σ} {fields : List (RecordField σ)}
    (hfields : ∀ f ∈ fields, f.Agrees) : (record name default fields).Agrees := by
  intro depth v hv s b rest hs hb hrest y rest'
  cases v with
  | array vs =>
    cases hs with
    | @array e _ t ht =>
      cases hv with
      | array hvs =>
        have hskip : skipSpace (b ++ ('[' :: t ++ rest)) = '[' :: (t ++ rest) :=
          skipSpace_blank hb (by decide)
        simp only [record_array hskip, Nat.add_right_cancel_iff, exists_eq_left']
        exact Record.positional_agrees hfields hvs ht rest
  | object ms =>
    cases hs with
    | @object e _ t ht =>
      cases hv with
      | object hordered hms =>
        have hskip : skipSpace (b ++ ('\x7b' :: t ++ rest)) = '\x7b' :: (t ++ rest) :=
          skipSpace_blank hb (by decide)
        have hnames : (ms.map (·.1)).Nodup :=
          List.pairwise_map.mpr (hordered.imp fun hlt => String.ne_of_lt hlt)
        simp only [record_object hskip, Nat.add_right_cancel_iff, exists_eq_left']
        exact Record.named_agrees hfields hms hnames (fun _ _ => List.not_mem_nil) ht rest
  | null | bool | number | string =>
    obtain ⟨c, t, rfl, hc, hopens⟩ := hs.opens
    have hskip : skipSpace (b ++ (c :: t ++ rest)) = c :: (t ++ rest) := skipSpace_blank hb hc.1
    refine iff_of_false (not_record fun c' t' hs' => ?_) (fun h => by cases h.1)
    obtain ⟨rfl, -⟩ := List.cons.inj (hskip.symm.trans hs')
    constructor
    · rintro rfl
      obtain ⟨_, h⟩ := hopens.array
      cases h
    · rintro rfl
      obtain ⟨_, h⟩ := hopens.object
      cases h

theorem Agrees.decode {α : Type} {d : Decoder α} (h : d.Agrees) {v : Value} (hv : v.Ordered)
    {s : List Char} (hs : Spelled (.value maxDepth v) s) {a : α} :
    d.decode s = .ok a ↔ d.value v = some a := by
  have hread := h hv hs blank_nil endsNumber_nil a
  rw [List.nil_append, List.append_nil] at hread
  rw [Decoder.decode, whole_eq_ok]
  constructor
  · rintro ⟨rest, hrest, -⟩
    exact ((hread rest).mp hrest).1
  · intro ha
    exact ⟨[], (hread []).mpr ⟨ha, rfl⟩, rfl⟩

end Decoder

end PackageMarket.Json
