import PackageMarket.Proofs.Session.Run
import PackageMarket.Proofs.Settings.Store

set_option autoImplicit false

namespace PackageMarket.Session

open Files Settings

variable {s : Settings} {now : Clock.Moment}

theorem exists_initial (h : (Clock.render now s.timestampFormat).isSome) :
    ∃ t : State, State.initial now s = some t := by
  obtain ⟨clock, hclock⟩ := Option.isSome_iff_exists.mp h
  exact ⟨_, (State.initial_eq_some_iff _).mpr ⟨clock, hclock, rfl⟩⟩

theorem initial_eq_none (h : Clock.render now s.timestampFormat = none) :
    State.initial now s = none := by
  rw [State.initial, h]
  rfl

theorem step_tick_eq_error {t : State} (h : Clock.render now t.settings.timestampFormat = none) :
    step t (.tick now) = .error .clock := by
  simp only [step, tick, h]

/-- The clock of loaded settings is shown at every moment unless its format is for reading. If it is
not, a session starts and handles whatever events; if it is, none starts, and no tick would be
handled. The repair of any settings keeps a format that is shown, is complete after the first time,
and misses nothing but formats for reading. -/
theorem loaded_clocks_are_shown_unless_for_reading {σ : Type} {files : Access (StateM σ)} {p : Path}
    {before after : σ} (h : (load files p).run before = (.ok s, after)) :
    (∀ now : Clock.Moment,
      (Clock.render now s.timestampFormat).isSome ↔ ¬Clock.ForReading s.timestampFormat) ∧
    (¬Clock.ForReading s.timestampFormat → ∀ now : Clock.Moment, ∃ t : State,
      State.initial now s = some t ∧
      ∀ es : List Event, ∃ ts : List Turn, run t es = .ok ts ∧ ts.map Turn.event = es) ∧
    (Clock.ForReading s.timestampFormat →
      (∃ a b : List Char, s.timestampFormat.toList = a ++ "%#z".toList ++ b) ∧
      ∀ now : Clock.Moment, State.initial now s = none ∧
        ∀ t : State, t.settings = s → step t (.tick now) = .error .clock) ∧
    ∀ t : Settings,
      (∀ now : Clock.Moment, (Clock.render now t.timestampFormat).isSome → t.repaired = t) ∧
      t.repaired.repaired = t.repaired ∧
      ∀ now : Clock.Moment, (Clock.render now t.repaired.timestampFormat).isSome ↔
        Clock.isBroken t.timestampFormat ∨ ¬Clock.ForReading t.timestampFormat := by
  have hshown := isSome_render_of_not_isBroken (isBroken_of_load files h)
  refine ⟨hshown, fun hread now => ?_, fun hread => ⟨?_, fun now => ?_⟩, fun t =>
    ⟨fun _ => repaired_of_isSome_render, repaired_repaired t, isSome_render_repaired t⟩⟩
  · obtain ⟨t, ht⟩ := exists_initial ((hshown now).mpr hread)
    exact ⟨t, ht, run_ok (shows_of_initial ht).1⟩
  · obtain ⟨a, b, -, hformat, -⟩ := Clock.exists_of_readOnly_mem hread
    exact ⟨a, b, hformat⟩
  · have hnone : Clock.render now s.timestampFormat = none :=
      Option.not_isSome_iff_eq_none.mp fun hsome => (hshown now).mp hsome hread
    refine ⟨initial_eq_none hnone, ?_⟩
    rintro t rfl
    exact step_tick_eq_error hnone

def clockSection (format : String) : Toml.Section :=
  ⟨0, "ui".toList, [stringEntry "timestamp_format" format]⟩

theorem legible_clockSection (format : String) : (clockSection format).Legible where
  name := by
    show Toml.Bare "ui".toList
    decide
  entries := List.forall_mem_singleton.mpr (legible_stringEntry (by decide) format)
  distinct := List.pairwise_singleton _ _

theorem load_clockSection {d : Disk} {p : Path} {format text : String}
    (htext : text.toList = (clockSection format).text) (h : d.content? p = some text.toUTF8) :
    (load Disk.files p).run d =
      (.ok { Settings.default with timestampFormat := format }.repaired, d) := by
  have hread : Toml.read text.toList = some [(clockSection format).table] := by
    have hsections :=
      Toml.read_sections (List.forall_mem_singleton.mpr (legible_clockSection format))
      (List.pairwise_singleton _ _)
    rwa [List.flatMap_singleton, List.map_singleton, ← htext] at hsections
  have hgives : Gives [(clockSection format).table] ⟨none, some format, none, none, none, none⟩ :=
    ⟨⟨_, .absent rfl, rfl⟩, ⟨_, .table rfl, rfl, rfl⟩, ⟨_, .absent rfl, rfl, rfl, rfl⟩⟩
  exact load_of_text (leads_of_content? h) (ofText_of_gives hread hgives)

/-- Behind a percent sign that stands for itself, the same letters are text. -/
theorem loaded_clocks_are_shown_unless_for_reading_of_sign :
    let disk : Disk := ⟨[([['f']], .file "[ui]\ntimestamp_format = \"%%#z %H\"\n".toUTF8)]⟩
    let s : Settings := { Settings.default with timestampFormat := "%%#z %H" }
    (load Disk.files ['f']).run disk = (.ok s, disk) ∧ ¬Clock.ForReading s.timestampFormat ∧
      ∀ now : Clock.Moment, ∃ t : State, State.initial now s = some t ∧
        ∀ es : List Event, ∃ ts : List Turn, run t es = .ok ts ∧ ts.map Turn.event = es := by
  intro disk s
  have hread : ¬Clock.ForReading s.timestampFormat := by
    simp [s, Clock.ForReading, Clock.pieces, Clock.directive, Clock.isPlain, Clock.isNumeric]
  have hrepaired : s.repaired = s := repaired_of_not_isBroken (by
    simp [s, Clock.isBroken, Clock.pieces, Clock.directive, Clock.isPlain, Clock.isNumeric])
  have hload : (load Disk.files ['f']).run disk = (.ok s, disk) := by
    rw [← hrepaired]
    exact load_clockSection (by decide) rfl
  exact ⟨hload, hread, (loaded_clocks_are_shown_unless_for_reading hload).2.1 hread⟩

/-- An offset for reading is loaded as it is, and there is no moment that it could be shown at. -/
theorem offset_for_reading_is_loaded_and_never_shown :
    let disk : Disk := ⟨[([['f']], .file "[ui]\ntimestamp_format = \"%#z\"\n".toUTF8)]⟩
    let s : Settings := { Settings.default with timestampFormat := "%#z" }
    (load Disk.files ['f']).run disk = (.ok s, disk) ∧
      ∀ now : Clock.Moment, Clock.render now s.timestampFormat = none ∧ State.initial now s = none ∧
        ∀ t : State, t.settings = s → step t (.tick now) = .error .clock := by
  intro disk s
  have hpieces : Clock.pieces s.timestampFormat.toList = [.readOnly] := by
    simp [s, Clock.pieces, Clock.directive]
  have hrepaired : s.repaired = s := repaired_of_not_isBroken (by rw [Clock.isBroken, hpieces]; rfl)
  have hnone (now : Clock.Moment) : Clock.render now s.timestampFormat = none := by
    rw [Clock.render, hpieces]
    rfl
  refine ⟨?_, fun now => ⟨hnone now, initial_eq_none (hnone now), ?_⟩⟩
  · rw [← hrepaired]
    exact load_clockSection (by decide) rfl
  · rintro t ht
    exact step_tick_eq_error (ht ▸ hnone now)

end PackageMarket.Session
