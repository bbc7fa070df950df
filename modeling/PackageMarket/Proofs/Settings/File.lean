import PackageMarket.Proofs.Toml.Lines
import PackageMarket.Settings.Settings
import PackageMarket.Settings.Store

set_option autoImplicit false

/-!
What is written of the settings is read again, line by line. Only the clock format can differ: it is
repaired on the way.
-/

namespace PackageMarket.Clock

def Piece.IsShown (p : Piece) : Prop := p ≠ .readOnly ∧ p ≠ .broken

theorem Piece.isSome_show (now : Moment) (p : Piece) : (p.show now).isSome ↔ p.IsShown := by
  cases p <;> simp [Piece.show, Piece.IsShown]

theorem isSome_mapM_show (now : Moment) (ps : List Piece) :
    (ps.mapM (Piece.show now)).isSome ↔ ∀ p ∈ ps, p.IsShown := by
  induction ps with
  | nil => simp
  | cons p ps ih =>
    rw [List.forall_mem_cons, ← ih, ← Piece.isSome_show now p, List.mapM_cons]
    cases Piece.show now p with
    | none => simp
    | some t => cases ps.mapM (Piece.show now) <;> simp

theorem isSome_render (now : Moment) (format : String) :
    (render now format).isSome ↔ ∀ p ∈ pieces format.toList, p.IsShown := by
  rw [render, Option.isSome_map, isSome_mapM_show]

/-- A format that shows something at one moment shows something at any other. -/
theorem isSome_render_of_eq_some {now : Moment} {format clock : String}
    (h : render now format = some clock) (later : Moment) : (render later format).isSome := by
  rw [isSome_render, ← isSome_render now, h]
  rfl

/-- A piece of the format is for reading only. -/
def ForReading (format : String) : Prop := .readOnly ∈ pieces format.toList

theorem isSome_render_iff (now : Moment) (format : String) :
    (render now format).isSome ↔ isBroken format = false ∧ ¬ForReading format := by
  rw [isSome_render, isBroken, ForReading, List.contains_eq_mem, decide_eq_false_iff_not]
  constructor
  · intro h
    exact ⟨fun hbroken => (h _ hbroken).2 rfl, fun hread => (h _ hread).1 rfl⟩
  · rintro ⟨hbroken, hread⟩ q hq
    exact ⟨fun h => hread (h ▸ hq), fun h => hbroken (h ▸ hq)⟩

theorem directive_eq_readOnly {s : List Char} (h : (directive s).1 = .readOnly) :
    directive s = (.readOnly, 2) ∧ ∃ t : List Char, s = '#' :: 'z' :: t := by
  revert h
  fun_cases directive s with
  | case4 t => exact fun _ => ⟨rfl, t, rfl⟩
  | _ => exact fun h => nomatch h

theorem exists_of_readOnly_mem {s : List Char} (h : .readOnly ∈ pieces s) :
    ∃ (a b : List Char) (ps : List Piece), s = a ++ "%#z".toList ++ b ∧
      pieces s = ps ++ .readOnly :: pieces b := by
  -- along the pieces: the first one is for reading, or there is such a piece behind it
  induction s using pieces.induct with
  | case1 =>
    rw [pieces] at h
    cases h
  | case2 s ih =>
    rw [pieces, if_pos rfl] at h ⊢
    rcases List.mem_cons.mp h with hd | hrest
    · obtain ⟨hpiece, t, rfl⟩ := directive_eq_readOnly hd.symm
      exact ⟨[], t, [], rfl, by rw [hpiece]; rfl⟩
    · obtain ⟨a, b, ps, hs, hps⟩ := ih hrest
      refine ⟨'%' :: s.take (directive s).2 ++ a, b, (directive s).1 :: ps,
        ?_, by rw [hps, List.cons_append]⟩
      rw [List.append_assoc, List.append_assoc, ← List.append_assoc a, ← hs, List.cons_append,
        List.take_append_drop]
  | case3 c s hc ih =>
    rw [pieces, if_neg hc] at h ⊢
    rcases List.mem_cons.mp h with hd | hrest
    · cases hd
    · obtain ⟨a, b, ps, rfl, hps⟩ := ih hrest
      exact ⟨c :: a, b, .text [c] :: ps, rfl, by rw [hps, List.cons_append]⟩

end PackageMarket.Clock

namespace PackageMarket.Settings

open Toml

structure Given where
  baseUrl : Option String
  timestampFormat : Option String
  startPage : Option Page
  enabled : Option Bool
  dir : Option String
  level : Option String
  deriving DecidableEq, Repr

namespace Given

def nothing : Given := ⟨none, none, none, none, none, none⟩

def filled (g : Given) : Settings where
  baseUrl := g.baseUrl.getD default.baseUrl
  timestampFormat := g.timestampFormat.getD default.timestampFormat
  startPage := g.startPage.getD default.startPage
  log :=
    ⟨g.enabled.getD default.log.enabled, g.dir.getD default.log.dir, g.level.getD default.log.level⟩

end Given

abbrev Table := List (List Char × Value)

/-- The table under a name, in whatever shape; without one there are no members. -/
inductive Under (ms : Table) (name : String) : Table → Prop where
  | absent : lookup name.toList ms = none → Under ms name []
  | table {shape : Shape} {t : Table} : lookup name.toList ms = some (.table shape t) →
      Under ms name t

def Holds {α : Type} (t : Table) (name : String) (write : α → Value) (given : Option α) : Prop :=
  lookup name.toList t = given.map write

def stringValue (s : String) : Value := .string s.toList

def pageValue (p : Page) : Value := stringValue p.name

/-- The known members of the known tables are what is given; whatever
else there is can be anything. -/
structure Gives (ms : Table) (g : Given) : Prop where
  api : ∃ t, Under ms "api" t ∧ Holds t "base_url" stringValue g.baseUrl
  ui : ∃ t, Under ms "ui" t ∧ Holds t "timestamp_format" stringValue g.timestampFormat ∧
    Holds t "start_page" pageValue g.startPage
  log : ∃ t, Under ms "logging" t ∧ Holds t "enabled" .boolean g.enabled ∧
    Holds t "log_dir" stringValue g.dir ∧
    Holds t "level" stringValue g.level

section

variable {ms t : Table} {name : String} {g : Given}

theorem Under.findSection_eq (h : Under ms name t) :
    findSection ms name = some fun _ key => lookup key t := by
  cases h with
  | absent hnone =>
    rw [findSection, hnone]
    rfl
  | table hsome =>
    rw [findSection, hsome]
    rfl

theorem Holds.orDefault_eq {α : Type} {write : α → Value} {given : Option α}
    (h : Holds t name write given) {read : Value → Option α} (hread : ∀ a, read (write a) = some a)
    (default : α) : orDefault read default (lookup name.toList t) = some (given.getD default) := by
  rw [h]
  cases given with
  | none => rfl
  | some a => exact hread a

theorem string?_stringValue (s : String) : string? (stringValue s) = some s := by
  rw [stringValue, string?, String.ofList_toList]

theorem page?_pageValue (p : Page) : page? (pageValue p) = some p := by
  cases p <;> decide

theorem boolean?_boolean (b : Bool) : boolean? (.boolean b) = some b := rfl

theorem ofTable_of_gives (h : Gives ms g) : ofTable ms = some g.filled := by
  obtain ⟨⟨api, hapi, hurl⟩, ⟨ui, hui, hformat, hpage⟩, ⟨log, hlog, henabled, hdir, hlevel⟩⟩ := h
  simp only [ofTable, hapi.findSection_eq, hui.findSection_eq, hlog.findSection_eq,
    hurl.orDefault_eq string?_stringValue, hformat.orDefault_eq string?_stringValue,
    hpage.orDefault_eq page?_pageValue,
    henabled.orDefault_eq boolean?_boolean, hdir.orDefault_eq string?_stringValue,
    hlevel.orDefault_eq string?_stringValue, bind, Option.bind]
  rfl

theorem gives_nothing : Gives [] .nothing where
  api := ⟨[], .absent rfl, rfl⟩
  ui := ⟨[], .absent rfl, rfl, rfl⟩
  log := ⟨[], .absent rfl, rfl, rfl, rfl⟩

theorem read_nil : Toml.read [] = some [] := by
  rw [read_of_lines (by simp) (Document.lines_nil _), membersToValues]

theorem ofText_of_gives {text : List Char} (htext : Toml.read text = some ms) (h : Gives ms g) :
    ofText text = some g.filled.repaired := by
  simp only [ofText, htext, ofTable_of_gives h, bind, Option.bind]

end

end PackageMarket.Settings

namespace PackageMarket

namespace Toml

open Text

theorem word_append (w rest : List Char) : word w (w ++ rest) = some rest := by
  induction w with
  | nil => rfl
  | cons c w ih => simpa [word, letter] using ih

theorem value_boolean (depth : Nat) (b : Bool) (rest : List Char) :
    Reads (value depth ((if b then "true".toList else "false".toList) ++ rest))
      (.boolean b) rest := by
  cases b with
  | true =>
    have hlt : rest.length < (['t', 'r', 'u', 'e'] ++ rest).length := by simp; omega
    have hliteral : value depth (['t', 'r', 'u', 'e'] ++ rest) =
        literal (['t', 'r', 'u', 'e'] ++ rest) := by
      rw [value.eq_def]
      simp
    refine ⟨hlt, hliteral.trans ?_⟩
    have htaken : taken (['t', 'r', 'u', 'e'] ++ rest) (some rest) = some ⟨_, rest, hlt⟩ :=
      dif_pos hlt
    rw [literal, word_append, htaken]
    rfl
  | false =>
    have hlt : rest.length < (['f', 'a', 'l', 's', 'e'] ++ rest).length := by simp; omega
    have hliteral :
        value depth (['f', 'a', 'l', 's', 'e'] ++ rest) =
          literal (['f', 'a', 'l', 's', 'e'] ++ rest) := by
      rw [value.eq_def]
      simp
    have hother : word ['t', 'r', 'u', 'e'] (['f', 'a', 'l', 's', 'e'] ++ rest) = none := rfl
    refine ⟨hlt, hliteral.trans ?_⟩
    have htaken : taken (['f', 'a', 'l', 's', 'e'] ++ rest) (some rest) = some ⟨_, rest, hlt⟩ :=
      dif_pos hlt
    rw [literal, hother, word_append, htaken]
    rfl

end Toml

namespace Settings

open Toml

def stringEntry (name s : String) : Entry := ⟨name.toList, quote s.toList, .string s.toList⟩

def booleanEntry (name : String) (b : Bool) : Entry :=
  ⟨name.toList, if b then "true".toList else "false".toList, .boolean b⟩

theorem legible_stringEntry {name : String} (hname : Bare name.toList) (s : String) :
    (stringEntry name s).Legible where
  name := hname
  text rest := by
    obtain ⟨m, isLong, b, -, hquote⟩ := exists_inside s.toList
    simp only [stringEntry, hquote, between]
    cases m <;> cases isLong <;> rfl
  value rest := value_quote maxDepth s.toList fun m => by cases m <;> simp [Mark.char]

theorem legible_booleanEntry {name : String} (hname : Bare name.toList) (b : Bool) :
    (booleanEntry name b).Legible where
  name := hname
  text rest := by cases b <;> rfl
  value rest := value_boolean maxDepth b ('\n' :: rest)

theorem line_stringEntry (name s : String) :
    line name (quote s.toList) = (stringEntry name s).line := by
  simp [line, Entry.line, stringEntry]

theorem line_booleanEntry (name : String) (b : Bool) :
    line name (if b then "true".toList else "false".toList) = (booleanEntry name b).line := by
  simp [line, Entry.line, booleanEntry]

section

variable (s : Settings)

def apiEntries : List Entry := [stringEntry "base_url" s.baseUrl]

def uiEntries : List Entry :=
  [stringEntry "timestamp_format" s.timestampFormat, stringEntry "start_page" s.startPage.name]

def loggingEntries : List Entry :=
  [booleanEntry "enabled" s.log.enabled, stringEntry "log_dir" s.log.dir,
    stringEntry "level" s.log.level]

def sections : List Section :=
  [⟨0, "api".toList, s.apiEntries⟩, ⟨1, "ui".toList, s.uiEntries⟩,
    ⟨1, "logging".toList, s.loggingEntries⟩]

theorem text_eq : s.text = s.sections.flatMap Section.text := by
  have hapi : "[api]\n".toList = '[' :: ("api".toList ++ [']', '\n']) := by decide
  have hui : "\n[ui]\n".toList = '\n' :: '[' :: ("ui".toList ++ [']', '\n']) := by decide
  have hlogging : "\n[logging]\n".toList = '\n' :: '[' :: ("logging".toList ++ [']', '\n']) := by
    decide
  unfold text
  rw [hapi, hui, hlogging, line_booleanEntry]
  simp only [line_stringEntry, sections, Section.text, apiEntries, uiEntries, loggingEntries,
    List.flatMap_cons, List.flatMap_nil, List.append_assoc, List.cons_append, List.nil_append,
    List.append_nil, List.replicate]

theorem legible_apiEntries : ∀ e ∈ s.apiEntries, e.Legible := by
  simp only [apiEntries, List.forall_mem_cons]
  exact ⟨legible_stringEntry (by decide) _, by simp⟩

theorem legible_uiEntries : ∀ e ∈ s.uiEntries, e.Legible := by
  simp only [uiEntries, List.forall_mem_cons]
  exact ⟨legible_stringEntry (by decide) _, legible_stringEntry (by decide) _, by simp⟩

theorem legible_loggingEntries : ∀ e ∈ s.loggingEntries, e.Legible := by
  simp only [loggingEntries, List.forall_mem_cons]
  exact ⟨legible_booleanEntry (by decide) _, legible_stringEntry (by decide) _,
    legible_stringEntry (by decide) _, by simp⟩

theorem legible_sections : ∀ t ∈ s.sections, t.Legible := by
  have hapi : Bare "api".toList := by decide
  have hui : Bare "ui".toList := by decide
  have hlogging : Bare "logging".toList := by decide
  simp only [sections, List.forall_mem_cons]
  refine ⟨⟨hapi, s.legible_apiEntries, ?_⟩, ⟨hui, s.legible_uiEntries, ?_⟩,
    ⟨hlogging, s.legible_loggingEntries, ?_⟩, List.forall_mem_nil _⟩
  · show (["base_url".toList] : List (List Char)).Nodup
    decide
  · show (["timestamp_format".toList, "start_page".toList] : List (List Char)).Nodup
    decide
  · show (["enabled".toList, "log_dir".toList, "level".toList] : List (List Char)).Nodup
    decide

theorem read_text : Toml.read s.text = some (s.sections.map Section.table) := by
  have hnames : (s.sections.map (·.name)).Nodup := by
    show (["api".toList, "ui".toList, "logging".toList] : List (List Char)).Nodup
    decide
  rw [text_eq, read_sections s.legible_sections hnames]

theorem gives_sections : Gives (s.sections.map Section.table)
    ⟨some s.baseUrl, some s.timestampFormat, some s.startPage, some s.log.enabled, some s.log.dir,
      some s.log.level⟩ where
  api := ⟨_, .table rfl, rfl⟩
  ui := ⟨_, .table rfl, rfl, rfl⟩
  log := ⟨_, .table rfl, rfl, rfl, rfl⟩

theorem ofText_text : ofText s.text = some s.repaired := by
  exact ofText_of_gives s.read_text s.gives_sections

end

end Settings
end PackageMarket
