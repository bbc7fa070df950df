import PackageMarket.Json.Decoder
import PackageMarket.Proofs.Json.Given
import PackageMarket.Proofs.Json.Print

set_option autoImplicit false

/-!
Decoders undo printing. Each gives back what a value was made of, from any text that spells the
value or the value with its members sorted; records do so because each field changes a part of its
own.
-/

namespace PackageMarket.Json

open Decimal Text

namespace Decoder

section Blanks

variable {α : Type} {depth : Nat} {s t rest : List Char} {a : α}

theorem readScalar_of_cons {expected : String} {begins : Char → Bool}
    {accept : Value → Except Cause α} {c : Char} {v : Value} (hs : skipSpace s = c :: t)
    (hc : begins c = true) (hv : Reads (scalar (c :: t)) v rest)
    (ha : accept v = .ok a) : Reads (readScalar expected begins accept s) a rest := by
  obtain ⟨lt, hv⟩ := hv
  unfold readScalar
  split
  · rename_i hnil
    cases hs.symm.trans hnil
  · rename_i hcons
    obtain ⟨rfl, rfl⟩ := List.cons.inj (hs.symm.trans hcons)
    rw [if_pos hc]
    simp only [hv, bind, Except.bind, ha]
    exact ⟨_, rfl⟩

theorem bracketed_of_opening {expected : String} {opening : Char} {inside : Nat → Reader α}
    (hs : skipSpace s = opening :: t) (h : Reads (inside depth t) a rest) :
    Reads (bracketed expected opening inside (depth + 1) s) a rest := by
  obtain ⟨lt, h⟩ := h
  unfold bracketed
  split
  · rename_i hnil
    cases hs.symm.trans hnil
  · rename_i hcons
    obtain ⟨rfl, rfl⟩ := List.cons.inj (hs.symm.trans hcons)
    rw [if_pos rfl]
    simp only [h, bind, Except.bind]
    exact ⟨_, rfl⟩

theorem option_of_null {d : Decoder α} {v : Value} (hs : skipSpace s = 'n' :: t)
    (hv : Reads (scalar ('n' :: t)) v rest) : Reads ((option d).text depth s) none rest := by
  obtain ⟨lt, hv⟩ := hv
  unfold option
  dsimp only
  split
  · rename_i hn
    obtain ⟨-, rfl⟩ := List.cons.inj (hs.symm.trans hn)
    rw [hv]
    exact ⟨_, rfl⟩
  · rename_i hn
    exact absurd hs (hn _)

theorem option_of_some {d : Decoder α} (hs : ∀ t, skipSpace s ≠ 'n' :: t)
    (h : Reads (d.text depth (skipSpace s)) a rest) :
    Reads ((option d).text depth s) (some a) rest := by
  obtain ⟨lt, h⟩ := h
  unfold option
  dsimp only
  split
  · rename_i hn
    exact absurd hn (hs _)
  · rw [h]
    exact ⟨_, rfl⟩

theorem variant_of_quote {known : List (String × α)} {name : List Char}
    (hs : skipSpace s = '"' :: t) (hname : Reads (quoted t) name rest)
    (ha : find known name = some a) :
    Reads ((variant known).text depth s) a rest := by
  obtain ⟨lt, hname⟩ := hname
  unfold variant
  dsimp only
  split
  · rename_i hnil
    cases hs.symm.trans hnil
  · rename_i hcons
    obtain ⟨-, rfl⟩ := List.cons.inj (hs.symm.trans hcons)
    simp only [knownName, hname, bind, Except.bind, ha]
    exact ⟨_, rfl⟩
  · rename_i hcons
    cases hs.symm.trans hcons
  · rename_i hquote _
    exact absurd hs (hquote _)

theorem record_of_brace {name : String} {default : α} {fields : List (RecordField α)}
    (hs : skipSpace s = '\x7b' :: t)
    (h : Reads (Record.named fields depth true [] default t) a rest) :
    Reads ((record name default fields).text (depth + 1) s) a rest := by
  obtain ⟨lt, h⟩ := h
  unfold record
  dsimp only
  split
  · rename_i hnil
    cases hs.symm.trans hnil
  · rename_i hcons
    obtain ⟨rfl, rfl⟩ := List.cons.inj (hs.symm.trans hcons)
    rw [if_pos (by decide), if_neg (by decide), h]
    exact ⟨_, rfl⟩

end Blanks

variable {α : Type}

/-- A value stands for `a`: the decoder reads it as `a`, sorted or not. -/
structure Restores (d : Decoder α) (depth : Nat) (v : Value) (a : α) : Prop where
  within : v.Within Number.InRange depth
  plain : Accepts (d.text depth) depth v a
  sorted : Accepts (d.text depth) depth v.sorted a

theorem restores_scalar {d : Decoder α} {depth : Nat} {v : Value} {a : α} (hv : v.IsScalar)
    (hwithin : v.Within Number.InRange depth) (h : Accepts (d.text depth) depth v a) :
    d.Restores depth v a :=
  ⟨hwithin, h, by rwa [hv.sorted_eq]⟩

theorem any_restores {depth : Nat} {v : Value} (h : v.AsRead depth) : any.Restores depth v v := by
  have hread := value_of_spelled depth v
  rw [h.ordered.sorted_eq] at hread
  exact ⟨h.within, hread, by rwa [h.ordered.sorted_eq]⟩

end Decoder

def BeginsWith (begins : Char → Bool) (depth : Nat) (v : Value) : Prop :=
  ∀ s, Spelled (.value depth v) s → ∀ c ∈ s.head?, begins c = true

theorem Decoder.readScalar_restores {α : Type} {expected : String} {begins : Char → Bool}
    {accept : Value → Except Cause α} {value : Value → Option α} {depth : Nat} {v : Value} {a : α}
    (hv : v.IsScalar) (hwithin : v.Within Number.InRange depth)
    (hbegins : BeginsWith begins depth v) (ha : accept v = .ok a) :
    (Decoder.mk (fun _ => readScalar expected begins accept) value).Restores depth v a := by
  refine restores_scalar hv hwithin ?_
  intro s b rest h hb hrest
  obtain ⟨c, t, rfl, hc, -, -, hscalar⟩ := scalar_of_spelled hv h hrest
  exact readScalar_of_cons (skipSpace_blank hb hc) (hbegins _ h _ rfl) hscalar ha

theorem beginsWith_number {depth : Nat} (n : Number) :
    BeginsWith Decoder.beginsNumber depth (.number n) := by
  intro s h c hc
  cases h with
  | number hn =>
    obtain ⟨d, t, htext, hd⟩ := hn.begins
    rw [htext] at hc
    cases hc
    exact hd

namespace Decoder

variable {α : Type} {depth : Nat}

theorem string_restores (s : String) : string.Restores depth (.string s) s := by
  refine readScalar_restores trivial .string ?_ ?_
  · intro t h c hc
    cases h
    cases hc
    rfl
  · rfl

theorem bool_restores (b : Bool) : bool.Restores depth (.bool b) b := by
  refine readScalar_restores trivial .bool ?_ ?_
  · intro t h c hc
    cases h <;> cases hc <;> rfl
  · rfl

theorem float_restores (x : Binary64) : float.Restores depth (.float x) x := by
  refine readScalar_restores trivial (.number trivial) (beginsWith_number _) ?_
  rfl

theorem int64_restores {n : Int} (hmin : int64Min ≤ n) (hmax : n ≤ int64Max) :
    int64.Restores depth (.int n) n := by
  have hrange : (Number.int n).InRange := by
    simp only [int64Min, int64Max] at hmin hmax
    exact ⟨hmin, by simp only [uint64Max]; omega⟩
  refine readScalar_restores trivial (.number hrange) (beginsWith_number _) ?_
  exact if_pos hmax

theorem option_restores_null (d : Decoder α) : (option d).Restores depth .null none := by
  refine restores_scalar trivial .null ?_
  intro s b rest h hb hrest
  cases h
  have hskip : skipSpace (b ++ (['n', 'u', 'l', 'l'] ++ rest)) = 'n' :: 'u' :: 'l' :: 'l' :: rest :=
    skipSpace_blank hb (by decide)
  have hscalar : Reads (scalar ('n' :: 'u' :: 'l' :: 'l' :: rest)) .null rest :=
    ⟨by simp; omega, rfl⟩
  exact option_of_null hskip hscalar

theorem eq_null_of_spelled {v : Value} {s : List Char} (h : Spelled (.value depth v) s)
    (hs : s.head? = some 'n') :
    v = .null := by
  cases h with
  | null => rfl
  | number hn =>
    obtain ⟨c, t, htext, hc⟩ := hn.begins
    rw [htext] at hs
    cases hs
    cases hc
  | yes | no | string | array | object => cases hs

theorem accepts_option {d : Decoder α} {v : Value} {a : α} (h : Accepts (d.text depth) depth v a)
    (hv : v ≠ .null) : Accepts ((option d).text depth) depth v (some a) := by
  intro s b rest hs hb hrest
  obtain ⟨c, t, rfl, hc⟩ := hs.begins
  have hskip : skipSpace (b ++ (c :: t ++ rest)) = c :: (t ++ rest) := skipSpace_blank hb hc.1
  have hread : Reads (d.text depth (skipSpace (b ++ (c :: t ++ rest)))) a rest := by
    rw [hskip]
    exact h hs blank_nil hrest
  refine option_of_some (fun u hn => ?_) hread
  obtain ⟨rfl, -⟩ := List.cons.inj (hskip.symm.trans hn)
  exact absurd (eq_null_of_spelled hs rfl) hv

theorem option_restores {d : Decoder α} {v : Value} {a : α} (h : d.Restores depth v a)
    (hv : v ≠ .null) : (option d).Restores depth v (some a) := by
  have hsorted : v.sorted ≠ .null := by
    cases v with
    | null => exact absurd rfl hv
    | array | object =>
      rw [Value.sorted]
      intro hnull
      cases hnull
    | bool | number | string =>
      rwa [Value.IsScalar.sorted_eq]
      trivial
  exact ⟨h.within, accepts_option h.plain hv, accepts_option h.sorted hsorted⟩

theorem ofOption_restores {d : Decoder α} {f : α → Value} {o : Option α}
    (h : ∀ a ∈ o, d.Restores depth (f a) a ∧ f a ≠ .null) :
    (option d).Restores depth (.ofOption f o) o := by
  cases o with
  | none => exact option_restores_null d
  | some a => exact option_restores (h a rfl).1 (h a rfl).2

theorem variant_restores {known : List (String × α)} {name : String} {a : α}
    (h : find known name.toList = some a) : (variant known).Restores depth (.string name) a := by
  refine restores_scalar trivial .string ?_
  intro s b rest hs hb hrest
  cases hs
  have hskip : skipSpace (b ++ (quote name.toList ++ rest)) =
      '"' :: (name.toList.flatMap escapeChar ++ '"' :: rest) := by
    rw [quote_append]
    exact skipSpace_blank hb (by decide)
  exact variant_of_quote hskip (quoted_escaped name.toList rest) h

def AcceptsInside (opening : Char) (inside : Reader α) (depth : Nat) (v : Value) (a : α) : Prop :=
  ∀ s, Spelled (.value depth v) s → ∃ t, s = opening :: t ∧
    ∀ rest, Reads (inside (t ++ rest)) a rest

theorem accepts_bracketed {expected : String} {opening : Char} {inside : Nat → Reader α}
    {v : Value} {a : α} (hopening : isSpace opening = false)
    (h : AcceptsInside opening (inside depth) (depth + 1) v a) :
    Accepts (bracketed expected opening inside (depth + 1)) (depth + 1) v a := by
  intro s b rest hs hb _
  obtain ⟨t, rfl, hread⟩ := h s hs
  exact bracketed_of_opening (skipSpace_blank hb hopening) (hread rest)

theorem acceptsInside_items {item : Reader α} {f : α → Value} {as : List α}
    (h : ∀ a ∈ as, Accepts item depth (f a) a) :
    AcceptsInside '[' (items item) (depth + 1) (.array (as.map f)) as := by
  intro s hs
  cases hs with
  | array ht =>
    refine ⟨_, rfl, fun rest => ?_⟩
    have hread := itemsFrom_of_spelled f id h ht rest
    rwa [List.map_id] at hread

theorem list_restores {d : Decoder α} {f : α → Value} {as : List α}
    (h : ∀ a ∈ as, d.Restores depth (f a) a) :
    (list d).Restores (depth + 1) (.array (as.map f)) as := by
  have hsorted : (Value.array (as.map f)).sorted = .array (as.map fun a => (f a).sorted) := by
    rw [Value.sorted, Value.sortedItems_eq, List.map_map]
    rfl
  have hbracket : isSpace '[' = false := by decide
  constructor
  · refine .array fun v hv => ?_
    obtain ⟨a, ha, rfl⟩ := List.mem_map.mp hv
    exact (h a ha).within
  · unfold list
    dsimp only
    exact accepts_bracketed hbracket (acceptsInside_items fun a ha => (h a ha).plain)
  · rw [hsorted]
    unfold list
    dsimp only
    exact accepts_bracketed hbracket (acceptsInside_items fun a ha => (h a ha).sorted)

theorem members_restores {ms : List (String × Value)} (h : (Value.object ms).AsRead (depth + 1)) :
    members.Restores (depth + 1) (.object ms) ms := by
  have hbracket : isSpace '\x7b' = false := by decide
  have hread : Accepts (members.text (depth + 1)) (depth + 1) (.object ms) ms := by
    unfold members
    dsimp only
    refine accepts_bracketed hbracket fun s hs => ?_
    cases hs with
    | object ht =>
      refine ⟨_, rfl, fun rest => ?_⟩
      have hmembers := membersFrom_of_spelled (fun m _ => value_of_spelled depth m.2) ht [] rest
      have hsorted : Value.insertAll [] ms = ms := by
        have heq := h.ordered.sorted_eq
        rw [Value.sorted, Value.sortedMembers] at heq
        exact Value.object.inj heq
      rwa [hsorted] at hmembers
  exact ⟨h.within, hread, by rwa [h.ordered.sorted_eq]⟩

end Decoder

namespace RecordField

variable {σ α : Type} {depth : Nat}

structure Restores (f : RecordField σ) (depth : Nat) (v : Value) (put : σ → σ) : Prop where
  within : v.Within Number.InRange depth
  plain : Accepts (f.text depth) depth v put
  sorted : Accepts (f.text depth) depth v.sorted put

theorem accepts_of {name : String} {d : Decoder α} {put : α → σ → σ} {v : Value} {a : α}
    (h : Accepts (d.text depth) depth v a) :
    Accepts ((RecordField.of name d put).text depth) depth v (put a) := by
  intro s b rest hs hb hrest
  obtain ⟨lt, hread⟩ := h hs hb hrest
  unfold RecordField.of
  simp only [hread, bind, Except.bind]
  exact ⟨_, rfl⟩

theorem of_restores {name : String} {d : Decoder α} {put : α → σ → σ} {v : Value} {a : α}
    (h : d.Restores depth v a) : (RecordField.of name d put).Restores depth v (put a) :=
  ⟨h.within, accepts_of h.plain, accepts_of h.sorted⟩

end RecordField

namespace Record

variable {σ : Type} {fields : List (RecordField σ)} {depth : Nat}

/-- A member of a record in print, and what it changes. -/
structure Cell (σ : Type) where
  name : String
  value : Value
  put : σ → σ

def Cell.member (c : Cell σ) : String × Value := (c.name, c.value)

def Cell.putAll (cs : List (Cell σ)) (x : σ) : σ := cs.foldl (fun x c => c.put x) x

def Cell.sorted (c : Cell σ) : Cell σ := { c with value := c.value.sorted }

def Cell.Accepted (fields : List (RecordField σ)) (depth : Nat) (c : Cell σ) : Prop :=
  ∃ f, fields.find? (·.name = c.name) = some f ∧ Accepts (f.text depth) depth c.value c.put

theorem named_of_spelled {cs : List (Cell σ)} (hcs : ∀ c ∈ cs, c.Accepted fields depth)
    (hnames : (cs.map Cell.name).Nodup) {seen : List String} (hseen : ∀ c ∈ cs, c.name ∉ seen)
    {first : Bool} {t : List Char} (h : Spelled (.members depth first (cs.map Cell.member)) t)
    (x : σ) (rest : List Char) :
    Reads (named fields depth first seen x (t ++ rest)) (Cell.putAll cs x) rest := by
  induction cs generalizing seen first t x with
  | nil =>
    obtain ⟨lt, hnext⟩ := h.next_endMembers rest
    rw [named, hnext]
    exact ⟨lt, rfl⟩
  | cons c cs ih =>
    obtain ⟨⟨f, hfind, hf⟩, hlater⟩ := List.forall_mem_cons.mp hcs
    obtain ⟨hname, hnames⟩ := List.nodup_cons.mp hnames
    obtain ⟨hnew, hseen⟩ := List.forall_mem_cons.mp hseen
    have hseen' : ∀ e ∈ cs, e.name ∉ c.name :: seen := by
      intro e he hmem
      rcases List.mem_cons.mp hmem with heq | hmem
      · exact hname (heq ▸ List.mem_map_of_mem he)
      · exact hseen e he hmem
    obtain ⟨n, b, s, u, le, hnext, ⟨ltName, hquoted⟩, hb, hs, hu⟩ := h.next_member rest
    obtain ⟨ltColon, hcolon⟩ := colon_cons (t := b ++ (s ++ (u ++ rest)))
    obtain ⟨lt, hfield⟩ := hf hs hb (hu.endsNumber_members rest)
    obtain ⟨lt', hmembers⟩ := ih hlater hnames hseen' hu (c.put x)
    rw [named, hnext]
    simp only [hquoted, String.ofList_toList, hfind, hcolon, hfield, hmembers]
    rw [if_neg (by simpa using hnew)]
    exact ⟨_, rfl⟩

theorem accepts_record (name : String) (default : σ) {cs : List (Cell σ)}
    (hcs : ∀ c ∈ cs, c.Accepted fields depth) (hnames : (cs.map Cell.name).Nodup) :
    Accepts ((Decoder.record name default fields).text (depth + 1)) (depth + 1)
      (.object (cs.map Cell.member)) (Cell.putAll cs default) := by
  intro s b rest h hb _
  cases h with
  | @object _ _ t ht =>
    have hseen : ∀ c ∈ cs, c.name ∉ ([] : List String) := fun _ _ => List.not_mem_nil
    exact Decoder.record_of_brace (skipSpace_blank hb (by decide))
      (named_of_spelled hcs hnames hseen ht default rest)

/-- A rearranged image is the image of something rearranged. -/
theorem exists_perm_of_perm_map {α β : Type} (f : α → β) {as : List α} {l : List β}
    (h : l.Perm (as.map f)) : ∃ bs : List α, bs.Perm as ∧ bs.map f = l := by
  induction as generalizing l with
  | nil => exact ⟨[], .refl _, h.eq_nil.symm⟩
  | cons a as ih =>
    obtain ⟨s, t, rfl⟩ := List.append_of_mem (h.mem_iff.mpr List.mem_cons_self)
    obtain ⟨bs, hbs, hmap⟩ := ih (List.perm_middle.symm.trans h).cons_inv
    obtain ⟨u, v, rfl, rfl, rfl⟩ := List.map_eq_append_iff.mp hmap
    exact ⟨u ++ a :: v, List.perm_middle.trans (hbs.cons a), by simp⟩

def Cell.Commutes (c e : Cell σ) : Prop := ∀ x, c.put (e.put x) = e.put (c.put x)

theorem commutes_of_pairwise {cs : List (Cell σ)} (h : cs.Pairwise Cell.Commutes) :
    ∀ c ∈ cs, ∀ e ∈ cs, c.Commutes e := by
  induction h with
  | nil => exact nofun
  | @cons c cs hc _ ih =>
    refine List.forall_mem_cons.mpr ⟨?_, fun e he => ?_⟩
    · exact List.forall_mem_cons.mpr ⟨fun x => rfl, hc⟩
    · exact List.forall_mem_cons.mpr ⟨fun x => (hc e he x).symm, ih e he⟩

/-- Members that stand for changes of the record, each under the name of a field. -/
inductive Filled (fields : List (RecordField σ)) (depth : Nat) : List (Cell σ) → Prop where
  | nil : Filled fields depth []
  | field {f : RecordField σ} {v : Value} {put : σ → σ} {cs : List (Cell σ)} (name : String) :
      fields.find? (·.name = name) = some f → f.Restores depth v put → Filled fields depth cs →
      Filled fields depth (⟨name, v, put⟩ :: cs)

theorem Filled.restores {cs : List (Cell σ)} (h : Filled fields depth cs) :
    ∀ c ∈ cs, c.value.Within Number.InRange depth ∧ c.Accepted fields depth ∧
      c.sorted.Accepted fields depth := by
  induction h with
  | nil => exact nofun
  | field name hf h _ ih =>
    exact List.forall_mem_cons.mpr ⟨⟨h.within, ⟨_, hf, h.plain⟩, ⟨_, hf, h.sorted⟩⟩, ih⟩

theorem accepts_record_of_perm (name : String) (default : σ) {cs : List (Cell σ)}
    (hcs : ∀ c ∈ cs, c.Accepted fields depth) (hnames : (cs.map Cell.name).Nodup)
    (hcommutes : cs.Pairwise Cell.Commutes) {ms : List (String × Value)}
    (hms : ms.Perm (cs.map Cell.member)) :
    Accepts ((Decoder.record name default fields).text (depth + 1)) (depth + 1) (.object ms)
      (Cell.putAll cs default) := by
  obtain ⟨bs, hbs, rfl⟩ := exists_perm_of_perm_map Cell.member hms
  have hfold : Cell.putAll cs default = Cell.putAll bs default :=
    hbs.symm.foldl_eq' (fun c hc e he x => commutes_of_pairwise hcommutes e he c hc x) default
  rw [hfold]
  exact accepts_record name default (fun c hc => hcs c (hbs.mem_iff.mp hc))
    ((hbs.map Cell.name).nodup_iff.mpr hnames)

theorem perm_sorted_members {cs : List (Cell σ)} (hnames : (cs.map Cell.name).Nodup) :
    (Value.sortedMembers (cs.map Cell.member)).Perm ((cs.map Cell.sorted).map Cell.member) := by
  have hmembers : (([] ++ cs.map Cell.member : List (String × Value)).map (·.1)).Nodup := by
    rw [List.nil_append, List.map_map]
    exact hnames
  have hperm := Value.perm_insertAll hmembers
  rw [List.nil_append, List.map_map] at hperm
  rw [Value.sortedMembers, List.map_map]
  exact hperm

theorem record_restores {d : Decoder σ} {name : String} {default a : σ} {v : Value}
    {cs : List (Cell σ)} (hd : d = .record name default fields) (hcs : Filled fields depth cs)
    (hnames : (cs.map Cell.name).Nodup)
    (hcommutes : cs.Pairwise Cell.Commutes) (hv : v = .object (cs.map Cell.member))
    (ha : a = Cell.putAll cs default) : d.Restores (depth + 1) v a := by
  subst hd hv ha
  have hall := hcs.restores
  constructor
  · refine .object fun m hm => ?_
    obtain ⟨c, hc, rfl⟩ := List.mem_map.mp hm
    exact (hall c hc).1
  · exact accepts_record name default (fun c hc => (hall c hc).2.1) hnames
  · have hsorted : ∀ c ∈ cs.map Cell.sorted, c.Accepted fields depth :=
      List.forall_mem_map.mpr fun c hc => (hall c hc).2.2
    have hnames' : ((cs.map Cell.sorted).map Cell.name).Nodup := by
      rw [List.map_map]
      exact hnames
    have hcommutes' : (cs.map Cell.sorted).Pairwise Cell.Commutes := List.pairwise_map.mpr hcommutes
    have hread := accepts_record_of_perm name default hsorted hnames' hcommutes'
        (perm_sorted_members hnames)
    rw [Cell.putAll, List.foldl_map] at hread
    rw [Value.sorted]
    exact hread

end Record

def Value.FloatsReadBack (v : Value) : Prop := ∀ x : Binary64, v.Has (.float x) →
    (Number.float x).ReadsBack

theorem Value.Within.readsBack {depth : Nat} {v : Value} (h : v.Within Number.InRange depth)
    (hfloats : v.FloatsReadBack) : v.Within Number.ReadsBack depth := by
  refine h.imp fun n hn hrange => ?_
  cases n with
  | int n => exact Number.readsBack_int hrange.1 hrange.2
  | float x => exact hfloats x hn

theorem whole_of_accepts {α : Type} {read : Reader α} {depth : Nat} {v : Value} {a : α}
    {s : List Char} (h : Accepts read depth v a) (hs : Spelled (.value depth v) s) :
    whole read s = .ok a := by
  have hread : Reads (read ([] ++ (s ++ []))) a [] := h hs blank_nil nofun
  rw [List.nil_append, List.append_nil] at hread
  exact whole_eq_ok.mpr ⟨[], hread, rfl⟩

theorem Decoder.Restores.decode {α : Type} {d : Decoder α} {v : Value} {a : α}
    (h : d.Restores maxDepth v a) (hfloats : v.FloatsReadBack) :
    d.decode v.compact = .ok a ∧ d.decode v.sorted.pretty = .ok a := by
  have hback := h.within.readsBack hfloats
  exact ⟨whole_of_accepts h.plain (Value.spelled_compact hback),
    whole_of_accepts h.sorted (Value.spelled_prettyAt hback.sorted.1 0)⟩

theorem Value.ofText_pretty {v : Value} (h : v.Within Number.InRange maxDepth)
    (hfloats : v.FloatsReadBack) :
    Value.ofText v.sorted.pretty = .ok v.sorted := by
  obtain ⟨hback, hordered⟩ := (h.readsBack hfloats).sorted
  have hread := whole_of_accepts (value_of_spelled maxDepth v.sorted)
      (Value.spelled_prettyAt hback 0)
  rwa [hordered.sorted_eq] at hread

end PackageMarket.Json
