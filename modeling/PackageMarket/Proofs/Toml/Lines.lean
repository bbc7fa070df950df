import PackageMarket.Proofs.Toml.Quoted

set_option autoImplicit false

/-!
Lines of a document, each with what it does to the tables read so far: blank ones, headers of one
bare name, and bare names with a value. A section is a header with such lines behind it.
-/

namespace PackageMarket.Toml

open Text

/-- A key that needs no marks. -/
structure Bare (name : List Char) : Prop where
  ne_nil : name ≠ []
  all : ∀ c ∈ name, isBareKey c = true

instance (name : List Char) : Decidable (Bare name) :=
  decidable_of_iff (name ≠ [] ∧ name.all isBareKey = true)
    ⟨fun h => ⟨h.1, List.all_eq_true.mp h.2⟩, fun h => ⟨h.1, List.all_eq_true.mpr h.2⟩⟩

theorem isBareKey_cases {c : Char} (h : isBareKey c = true) :
    isSpace c = false ∧ c ≠ '"' ∧ c ≠ '\'' ∧ c ≠ '#' ∧ c ≠ '\n' ∧ c ≠ '\r' ∧ c ≠ '[' := by
  refine ⟨?_, ?_, ?_, ?_, ?_, ?_, ?_⟩
  · refine Bool.eq_false_iff.mpr fun hs => ?_
    simp only [isSpace, Bool.or_eq_true, decide_eq_true_eq] at hs
    rcases hs with rfl | rfl <;> cases h
  all_goals
    rintro rfl
    cases h

section Keys

variable {name after t : List Char} {c : Char}

theorem simpleKey_bare (hname : Bare name) (hafter : ∀ c ∈ after.head?, isBareKey c = false) :
    Reads (simpleKey (name ++ after)) name after := by
  obtain ⟨c, name, rfl⟩ := List.exists_cons_of_ne_nil hname.ne_nil
  obtain ⟨hc, hall⟩ := List.forall_mem_cons.mp hname.all
  obtain ⟨-, hdouble, hsingle, -⟩ := isBareKey_cases hc
  have hdrop : after.dropWhile isBareKey = after := by
    rcases after with _ | ⟨d, after⟩
    · rfl
    · exact List.dropWhile_cons_of_neg (by simp [hafter d rfl])
  have htake : after.takeWhile isBareKey = [] := by
    rcases after with _ | ⟨d, after⟩
    · rfl
    · exact List.takeWhile_cons_of_neg (by simp [hafter d rfl])
  rw [List.cons_append, simpleKey, if_neg hdouble, if_neg hsingle, if_pos hc]
  simp only [Read.upTo, Rest.dropWhile, List.takeWhile_append_of_pos hall, htake,
    List.dropWhile_append_of_pos hall, hdrop, List.append_nil]
  exact ⟨_, rfl⟩

theorem skipSpace_bare (hname : Bare name) : skipSpace (name ++ after) = name ++ after := by
  obtain ⟨c, name, rfl⟩ := List.exists_cons_of_ne_nil hname.ne_nil
  have hc := (isBareKey_cases (hname.all c List.mem_cons_self)).1
  exact List.dropWhile_cons_of_neg (by simp [hc])

theorem keyParts_last {s k : List Char} (h : Reads (simpleKey (skipSpace s)) k after)
    (hskip : skipSpace after = c :: t) (hc : c ≠ '.') : Reads (keyParts s) [k] (c :: t) := by
  obtain ⟨hlt, hsimple⟩ := h
  rw [keyParts]
  split
  · rename_i hnone
    cases hnone.symm.trans hsimple
  · rename_i r hr
    obtain rfl := Option.some.inj (hr.symm.trans hsimple)
    dsimp only
    split
    · rename_i hend
      cases hskip.symm.trans hend
    · rename_i hnext
      cases hskip.symm.trans hnext
      rw [if_neg hc]
      exact ⟨_, rfl⟩

theorem key_bare (hname : Bare name) (hafter : ∀ c ∈ after.head?, isBareKey c = false)
    (hskip : skipSpace after = c :: t) (hc : c ≠ '.') :
    Reads (key (name ++ after)) ⟨[], name⟩ (c :: t) := by
  have hsimple := simpleKey_bare hname hafter
  rw [← skipSpace_bare hname] at hsimple
  obtain ⟨hlt, hparts⟩ := keyParts_last hsimple hskip hc
  simp only [key, hparts, bind, Option.bind, Key.ofParts?]
  exact ⟨_, rfl⟩

end Keys

namespace Document

variable (d : Document) {name rest : List Char}

theorem lines_nil : d.lines [] = some d := by
  rw [lines]
  rfl

theorem lines_blank : d.lines ('\n' :: rest) = d.lines rest := by
  rw [lines]
  split
  · rename_i h
    cases h
  · rename_i h
    cases h
    rw [if_pos (by decide)]
    have hend : lineEnd ('\n' :: rest) = some ⟨rest, Nat.le_succ _⟩ := rfl
    rw [hend]
    exact dif_pos (Nat.lt_succ_self _)

theorem lines_of_line {s : List Char} {c : Char} {t : List Char} {e : Document}
    (hskip : skipSpace s = c :: t) (hc : c ≠ '#' ∧ c ≠ '\n' ∧ c ≠ '\r')
    (h : Reads (d.line (c :: t)) e rest) : d.lines s = e.lines rest := by
  obtain ⟨hlt, hline⟩ := h
  rw [lines]
  split
  · rename_i hend
    cases hskip.symm.trans hend
  · rename_i hnext
    cases hskip.symm.trans hnext
    rw [if_neg (by simp [hc]), hline]

section Pairs

variable {w : List Char} {v : Value} {ms : Members} (hname : Bare name)
  (hw : skipSpace (w ++ '\n' :: rest) = w ++ '\n' :: rest)
  (hv : Reads (value maxDepth (w ++ '\n' :: rest)) v ('\n' :: rest))

include hname hw hv

theorem pair_bare :
    Reads (pair (value maxDepth) (name ++ ' ' :: '=' :: ' ' :: (w ++ '\n' :: rest))) (⟨[], name⟩, v)
      ('\n' :: rest) := by
  have hskip : skipSpace (' ' :: '=' :: ' ' :: (w ++ '\n' :: rest)) =
      '=' :: ' ' :: (w ++ '\n' :: rest) := rfl
  have hgap : skipSpace (' ' :: (w ++ '\n' :: rest)) = w ++ '\n' :: rest := hw
  rw [← hgap] at hv
  obtain ⟨hlt, hkey⟩ := key_bare hname (by simp [isBareKey]) hskip (by decide)
  obtain ⟨hlt', hvalue⟩ := hv
  simp only [pair, hkey, hvalue, bind, Option.bind]
  exact ⟨_, rfl⟩

theorem lines_pair
    (hms : Members.change .implied (Members.add [] name v) d.current .written d.members = some ms) :
    d.lines (name ++ ' ' :: '=' :: ' ' :: (w ++ '\n' :: rest)) =
      lines { d with members := ms } rest := by
  have hpair := pair_bare hname hw hv
  have hskip : skipSpace (name ++ ' ' :: '=' :: ' ' :: (w ++ '\n' :: rest)) = _ :=
    skipSpace_bare hname
  have hend : lineEnd ('\n' :: rest) = some ⟨rest, Nat.le_succ _⟩ := rfl
  obtain ⟨c, name, rfl⟩ := List.exists_cons_of_ne_nil hname.ne_nil
  obtain ⟨-, -, -, hcomment, hbreak, hreturn, hbracket⟩ :=
    isBareKey_cases (hname.all c List.mem_cons_self)
  rw [List.cons_append] at hpair hskip ⊢
  obtain ⟨hlt, hpair⟩ := hpair
  refine lines_of_line d hskip ⟨hcomment, hbreak, hreturn⟩ ?_
  rw [line.eq_3 _ _ (fun t ht => hbracket (List.cons.inj ht).1) fun t ht =>
    hbracket (List.cons.inj ht).1]
  simp only [hpair, hms, hend, bind, Option.bind]
  exact ⟨_, rfl⟩

end Pairs

theorem lines_header {ms : Members} (hname : Bare name)
    (hms : Members.openTable [] name d.members = some ms) :
    d.lines ('[' :: (name ++ ']' :: '\n' :: rest)) = lines (opened ms ⟨[], name⟩) rest := by
  have hskip : skipSpace (']' :: '\n' :: rest) = ']' :: '\n' :: rest := rfl
  have hend : lineEnd ('\n' :: rest) = some ⟨rest, Nat.le_succ _⟩ := rfl
  have hword : word [']'] (']' :: '\n' :: rest) = some ('\n' :: rest) := rfl
  obtain ⟨hlt, hkey⟩ := key_bare hname (by simp [isBareKey]) hskip (by decide)
  have hlt' : rest.length < (name ++ ']' :: '\n' :: rest).length := by
    rw [List.length_append, List.length_cons, List.length_cons]
    omega
  have hbracket (t : List Char) : name ++ ']' :: '\n' :: rest ≠ '[' :: t := by
    obtain ⟨c, name, rfl⟩ := List.exists_cons_of_ne_nil hname.ne_nil
    intro h
    obtain rfl : c = '[' := (List.cons.inj h).1
    exact absurd (hname.all _ List.mem_cons_self) (by decide)
  refine lines_of_line d rfl (by decide) ?_
  rw [line.eq_2 _ _ hbracket]
  simp only [header, hkey, hword, hend, hms, bind, Option.bind, dif_pos hlt']
  exact ⟨_, rfl⟩

end Document

theorem lookup_eq_none_iff {α : Type} {name : List Char} {ms : List (List Char × α)} :
    lookup name ms = none ↔ name ∉ ms.map (·.1) := by
  induction ms with
  | nil => simp [lookup]
  | cons m ms ih =>
    by_cases h : m.1 = name
    · simp [lookup, h]
    · simp [lookup, h, ih, Ne.symm h]

theorem lookup_append_self {α : Type} {name : List Char} {a : α} {ms : List (List Char × α)}
    (h : name ∉ ms.map (·.1)) : lookup name (ms ++ [(name, a)]) = some a := by
  induction ms with
  | nil => simp [lookup]
  | cons m ms ih =>
    rw [List.map_cons, List.mem_cons, not_or] at h
    simp [lookup, Ne.symm h.1, ih h.2]

namespace Members

variable {name : List Char} {ms : Members}

theorem replace_append_self {n : Node} (n' : Node) (h : name ∉ ms.map (·.1)) :
    replace name n' (ms.append name n) = ms.append name n' := by
  induction ms with
  | nil => simp [append, replace]
  | cons m ms ih =>
    rw [List.map_cons, List.mem_cons, not_or] at h
    have hrest := ih h.2
    simp only [append] at hrest
    simp [append, replace, Ne.symm h.1, hrest]

theorem openTable_new (h : name ∉ ms.map (·.1)) :
    openTable [] name ms = some (ms.append name (.table .written [])) := by
  rw [openTable, change, lookup_eq_none_iff.mpr h]

theorem change_last {t : Members} {key : List Char} (v : Value) (hname : name ∉ ms.map (·.1))
    (hkey : key ∉ t.map (·.1)) :
    change .implied (add [] key v) [name] .written (ms.append name (.table .written t)) =
      some (ms.append name (.table .written (t.append key (.value v)))) := by
  have hadd : add [] key v .written t = some (t.append key (.value v)) := by
    simp [add, change, lookup_eq_none_iff.mpr hkey]
  have hlookup : lookup name (ms.append name (.table .written t)) = some (.table .written t) :=
    lookup_append_self hname
  simp only [change, hlookup, hadd, bind, Option.bind, replace_append_self _ hname]
  exact if_neg (by decide)

end Members

/-- A line of a section: a name, and a text that is read as a value wherever it stands in a line. -/
structure Entry where
  name : List Char
  text : List Char
  value : Value

namespace Entry

def line (e : Entry) : List Char := e.name ++ ' ' :: '=' :: ' ' :: (e.text ++ ['\n'])

def member (e : Entry) : List Char × Node := (e.name, .value e.value)

structure Legible (e : Entry) : Prop where
  name : Bare e.name
  text : ∀ rest : List Char, skipSpace (e.text ++ '\n' :: rest) = e.text ++ '\n' :: rest
  value : ∀ rest : List Char,
    Reads (Toml.value maxDepth (e.text ++ '\n' :: rest)) e.value ('\n' :: rest)

end Entry

namespace Document

variable {ms : Members} {name : List Char}

theorem lines_entries (hname : name ∉ ms.map (·.1)) {es : List Entry} (hes : ∀ e ∈ es, e.Legible)
    {t : Members} (hkeys : (t.map (·.1) ++ es.map (·.name)).Nodup) (rest : List Char) :
    lines ⟨ms.append name (.table .written t), [name]⟩ (es.flatMap Entry.line ++ rest) =
      lines ⟨ms.append name (.table .written (t ++ es.map Entry.member)), [name]⟩ rest := by
  induction es generalizing t with
  | nil => simp
  | cons e es ih =>
    obtain ⟨he, hes⟩ := List.forall_mem_cons.mp hes
    have hkey : e.name ∉ t.map (·.1) := fun hmem =>
      (List.nodup_append.mp hkeys).2.2 _ hmem _ List.mem_cons_self rfl
    have hline : (e :: es).flatMap Entry.line ++ rest =
        e.name ++ ' ' :: '=' :: ' ' :: (e.text ++ '\n' :: (es.flatMap Entry.line ++ rest)) := by
      simp [Entry.line]
    rw [hline, lines_pair _ he.name (he.text _) (he.value _)
      (Members.change_last e.value hname hkey)]
    have hnext := ih hes (t := t.append e.name (.value e.value))
        (by simpa [Members.append] using hkeys)
    simpa [Members.append, Entry.member] using hnext

theorem lines_section (hbare : Bare name) (hname : name ∉ ms.map (·.1)) {current : List (List Char)}
    {es : List Entry} (hes : ∀ e ∈ es, e.Legible) (hkeys : (es.map (·.name)).Nodup)
    (rest : List Char) :
    lines ⟨ms, current⟩ ('[' :: (name ++ ']' :: '\n' :: (es.flatMap Entry.line ++ rest))) =
      lines ⟨ms.append name (.table .written (es.map Entry.member)), [name]⟩ rest := by
  rw [lines_header _ hbare (Members.openTable_new hname)]
  exact lines_entries hname hes (t := []) hkeys rest

end Document

/-- A table behind some empty lines: its name, and its members line by line. -/
structure Section where
  gap : Nat
  name : List Char
  entries : List Entry

namespace Section

def text (s : Section) : List Char :=
  .replicate s.gap '\n' ++ '[' :: (s.name ++ ']' :: '\n' :: s.entries.flatMap Entry.line)

def member (s : Section) : List Char × Node :=
  (s.name, .table .written (s.entries.map Entry.member))

def table (s : Section) : List Char × Value :=
  (s.name, .table .block (s.entries.map fun e => (e.name, e.value)))

structure Legible (s : Section) : Prop where
  name : Bare s.name
  entries : ∀ e ∈ s.entries, e.Legible
  distinct : (s.entries.map (·.name)).Nodup

end Section

namespace Document

theorem lines_gap (d : Document) (n : Nat) (rest : List Char) :
    d.lines (.replicate n '\n' ++ rest) = d.lines rest := by
  induction n with
  | zero => rfl
  | succ n ih => rw [List.replicate_succ, List.cons_append, lines_blank, ih]

theorem lines_sections {ss : List Section} (hss : ∀ s ∈ ss, s.Legible) (ms : Members)
    (hnames : (ms.map (·.1) ++ ss.map (·.name)).Nodup) (current : List (List Char)) :
    ∃ last, lines ⟨ms, current⟩ (ss.flatMap Section.text) =
      some ⟨ms ++ ss.map Section.member, last⟩ := by
  -- by induction on the sections; their tables go behind those that have been read
  induction ss generalizing ms current with
  | nil => exact ⟨current, by rw [List.flatMap_nil, lines_nil, List.map_nil, List.append_nil]⟩
  | cons s ss ih =>
    obtain ⟨hs, hss⟩ := List.forall_mem_cons.mp hss
    have hname : s.name ∉ ms.map (·.1) := fun hmem =>
      (List.nodup_append.mp hnames).2.2 _ hmem _ List.mem_cons_self rfl
    have htext : (s :: ss).flatMap Section.text =
        .replicate s.gap '\n' ++
          '[' :: (s.name ++ ']' :: '\n' ::
            (s.entries.flatMap Entry.line ++ ss.flatMap Section.text)) := by
      simp [Section.text]
    have hnames : ((ms ++ [s.member]).map (·.1) ++ ss.map (·.name)).Nodup := by
      simpa [Section.member] using hnames
    obtain ⟨last, hlast⟩ := ih hss _ hnames [s.name]
    refine ⟨last, ?_⟩
    rw [htext, lines_gap, lines_section hs.name hname hs.entries hs.distinct]
    simpa [Members.append, Section.member] using hlast

end Document

theorem membersToValues_eq (shape : Shape) (ms : Members) :
    membersToValues shape ms = ms.map fun m => (m.1, m.2.toValue shape) := by
  induction ms with
  | nil => rw [membersToValues, List.map_nil]
  | cons m ms ih => rw [membersToValues, List.map_cons, ih]

theorem read_of_lines {s : List Char} {d : Document} (hmark : s.head? ≠ some '\uFEFF')
    (h : Document.lines ⟨[], []⟩ s = some d) :
    Toml.read s = some (membersToValues .block d.members) := by
  unfold Toml.read
  dsimp only
  split
  · exact absurd rfl hmark
  · rw [h]
    rfl

theorem Section.toValue_member (s : Section) :
    (s.member.1, s.member.2.toValue .block) = s.table := by
  rw [member, Node.toValue, membersToValues_eq, List.map_map]
  rfl

theorem read_sections {ss : List Section} (hss : ∀ s ∈ ss, s.Legible)
    (hnames : (ss.map (·.name)).Nodup) :
    Toml.read (ss.flatMap Section.text) = some (ss.map Section.table) := by
  obtain ⟨last, hlines⟩ := Document.lines_sections hss [] hnames []
  have hmark : (ss.flatMap Section.text).head? ≠ some '\uFEFF' := by
    cases ss with
    | nil => simp
    | cons s ss =>
      rw [List.flatMap_cons, Section.text]
      cases s.gap with
      | zero => simp
      | succ n => simp [List.replicate_succ]
  rw [read_of_lines hmark hlines, List.nil_append, membersToValues_eq, List.map_map]
  exact congrArg some (List.map_congr_left fun s _ => s.toValue_member)

end PackageMarket.Toml
