import PackageMarket.Proofs.Files.Disk
import PackageMarket.Proofs.Settings.File
import PackageMarket.Settings.Store

set_option autoImplicit false

namespace PackageMarket.Settings

open Files

theorem isBroken_default : Clock.isBroken default.timestampFormat = false := by
  simp [Clock.isBroken, default, Clock.pieces, Clock.directive, Clock.isPlain, Clock.isNumeric]

theorem not_forReading_default : ¬Clock.ForReading default.timestampFormat := by
  simp [Clock.ForReading, default, Clock.pieces, Clock.directive, Clock.isPlain, Clock.isNumeric]

variable {s : Settings}

theorem repaired_of_not_isBroken (h : Clock.isBroken s.timestampFormat = false) :
    s.repaired = s := by
  rw [repaired, h]
  rfl

theorem repaired_eq (s : Settings) :
    s.repaired =
      { s with
        timestampFormat :=
          if Clock.isBroken s.timestampFormat then default.timestampFormat
          else s.timestampFormat } := by
  unfold repaired
  split <;> rfl

theorem isBroken_repaired (s : Settings) : Clock.isBroken s.repaired.timestampFormat = false := by
  unfold repaired
  split
  · exact isBroken_default
  · exact eq_false_of_ne_true ‹_›

theorem isSome_render_of_not_isBroken (h : Clock.isBroken s.timestampFormat = false)
    (now : Clock.Moment) :
    (Clock.render now s.timestampFormat).isSome ↔ ¬Clock.ForReading s.timestampFormat := by
  rw [Clock.isSome_render_iff]
  exact and_iff_right h

/-- What the repair is for, and what it misses. -/
theorem isSome_render_repaired (s : Settings) (now : Clock.Moment) :
    (Clock.render now s.repaired.timestampFormat).isSome ↔
      Clock.isBroken s.timestampFormat ∨ ¬Clock.ForReading s.timestampFormat := by
  rw [isSome_render_of_not_isBroken (isBroken_repaired s), repaired_eq]
  cases hbroken : Clock.isBroken s.timestampFormat with
  | false => simp
  | true => simpa using not_forReading_default

theorem repaired_of_isSome_render {now : Clock.Moment}
    (h : (Clock.render now s.timestampFormat).isSome) :
    s.repaired = s :=
  repaired_of_not_isBroken ((Clock.isSome_render_iff now _).mp h).1

theorem repaired_repaired (s : Settings) : s.repaired.repaired = s.repaired :=
  repaired_of_not_isBroken (isBroken_repaired s)

theorem isBroken_of_ofText {text : List Char} (h : ofText text = some s) :
    Clock.isBroken s.timestampFormat = false := by
  simp only [ofText, bind, Option.bind_eq_some_iff] at h
  obtain ⟨_, -, t, -, ht⟩ := h
  rw [← Option.some.inj ht]
  exact isBroken_repaired t

theorem run_bind_of_eq {σ α β : Type} {x : StateM σ α} {f : α → StateM σ β}
    {before after : σ} {a : α} (h : x.run before = (a, after)) :
    (x >>= f).run before = (f a).run after := by
  rw [StateT.run_bind, h]
  rfl

theorem fromUTF8?_toUTF8 (s : String) : String.fromUTF8? s.toUTF8 = some s := dif_pos s.isValidUTF8

section

variable {σ : Type} (files : Access (StateM σ)) {p : Path} {before after : σ}

/-- A clock that cannot be shown never comes out of a file, and never without one. -/
theorem isBroken_of_load (h : (load files p).run before = (.ok s, after)) :
    Clock.isBroken s.timestampFormat = false := by
  rcases hpresent : (files.isPresent p).run before with ⟨present, found⟩
  rw [load, run_bind_of_eq hpresent] at h
  split at h
  · rcases hread : (files.read p).run found with ⟨content, now⟩
    rw [run_bind_of_eq hread] at h
    split at h
    · cases h
    · split at h
      · cases h
      · cases h
        exact isBroken_of_ofText ‹_›
  · cases h
    exact isBroken_default

variable {files}

inductive Leads (files : Access (StateM σ)) (p : Path) (before : σ) : Option String → σ → Prop where
  | missing {after : σ} : (files.isPresent p).run before = (false, after) →
      Leads files p before none after
  | text {found after : σ} {content : ByteArray} {text : String} :
    (files.isPresent p).run before = (true, found) →
      (files.read p).run found = (some content, after) →
    String.fromUTF8? content = some text → Leads files p before (some text) after

theorem load_of_text {text : String} (h : Leads files p before (some text) after)
    (hs : ofText text.toList = some s) : (load files p).run before = (.ok s, after) := by
  cases h with
  | text hpresent hread htext =>
    rw [load, run_bind_of_eq hpresent, if_pos rfl, run_bind_of_eq hread]
    simp only [Option.bind_some, htext, hs]
    rfl

theorem load_of_missing (h : Leads files p before none after) :
    (load files p).run before = (.ok default, after) := by
  cases h with
  | missing hpresent =>
    rw [load, run_bind_of_eq hpresent]
    rfl

theorem leads_of_stores {content : ByteArray} {text : String} (h : files.Stores p content before)
    (htext : String.fromUTF8? content = some text) :
    ∃ after, Leads files p ((files.write p content).run before).2 (some text) after :=
  ⟨_, .text (Prod.ext h.isPresent rfl) (Prod.ext h.read rfl) htext⟩

theorem leads_of_content? {d : Disk} {text : String} (h : d.content? p = some text.toUTF8) :
    Leads Disk.files p d (some text) d :=
  .text (Prod.ext (Disk.isPresent_of_content? h) rfl) (Prod.ext h rfl) (fromUTF8?_toUTF8 text)

variable (files)

def saved (p : Path) (s : Settings) (before : σ) : σ :=
  ((files.write p (String.ofList s.text).toUTF8).run (files.withDirectories p before)).2

variable (h : files.Keeps p before)

include h

theorem save_of_keeps (s : Settings) :
    (save files p s).run before = (.ok (), saved files p s before) := by
  have hwrite : (save.write files p s).run (files.withDirectories p before) =
      (.ok (), saved files p s before) := by
    rw [save.write, run_bind_of_eq (Prod.ext (h.stores _).write rfl), if_pos rfl]
    rfl
  cases hdir : p.parent? with
  | none => simpa only [save, hdir, Access.withDirectories] using hwrite
  | some dir =>
    have hmade : (files.makeDirectories dir).run before = (true, files.withDirectories p before) :=
      Prod.ext (h.makeDirectories dir hdir) (by simp only [Access.withDirectories, hdir])
    simp only [save, hdir]
    rw [run_bind_of_eq hmade, if_pos rfl, hwrite]

theorem load_saved (s : Settings) :
    ((load files p).run (saved files p s before)).1 = .ok s.repaired := by
  obtain ⟨after, hleads⟩ := leads_of_stores (h.stores _) (fromUTF8?_toUTF8 (String.ofList s.text))
  have htext : ofText (String.ofList s.text).toList = some s.repaired := by
    rw [String.toList_ofList, ofText_text]
  exact congrArg Prod.fst (load_of_text hleads htext)

end

end PackageMarket.Settings
