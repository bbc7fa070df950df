import PackageMarket.Files.Disk
import PackageMarket.Launch.Launch
import PackageMarket.Proofs.Settings.File
import PackageMarket.Proofs.Settings.Store

set_option autoImplicit false

namespace PackageMarket.Launch

open Files Settings

section

variable {σ : Type} {w : World (StateM σ)} {o : Options} {s : Settings} {before after : σ}

theorem isBroken_apply (o : Options) (s : Settings) :
    Clock.isBroken (o.apply s).timestampFormat = Clock.isBroken s.timestampFormat := rfl

theorem apply_of_no_arguments (hurl : o.apiUrl = none) (hdev : o.dev = false) (s : Settings) :
    o.apply s = s := by
  rw [Options.apply, hurl, hdev]
  rfl

theorem settings_of_load (h : (load w.files (w.path o)).run before = (.ok s, after)) :
    (settings w o).run before = (.ok (o.apply s), after) := by
  rw [settings, run_bind_of_eq h]
  rfl

theorem run_of_writeConfig {arguments : List String} (ho : Options.ofArguments arguments = .ok o)
    (hwrite : o.writeConfig = true) (hload : (load w.files (w.path o)).run before = (.ok s, after))
    (hkeeps : w.files.Keeps (w.path o) after) :
    (run w arguments).run before =
      (.said ("Wrote " ++ String.ofList (w.path o) ++ "\n"),
        saved w.files (w.path o) (o.apply s) after) := by
  simp only [run, ho]
  rw [perform, run_bind_of_eq (settings_of_load hload)]
  simp only [hwrite, if_true]
  rw [run_bind_of_eq (save_of_keeps w.files hkeeps (o.apply s))]
  rfl

end

/--
Settings that were saved are loaded again, except that a broken clock format gives way to the
default one. So what is written from the command line is what was in force.
-/
theorem written_settings_are_read_back {σ : Type} (w : World (StateM σ)) :
    (∀ (p : Path) (s : Settings) (before : σ), w.files.Keeps p before →
      ∃ (after : σ) (t : Settings),
        (save w.files p s).run before = (.ok (), after) ∧
        ((load w.files p).run after).1 = .ok t ∧
        t.baseUrl = s.baseUrl ∧ t.startPage = s.startPage ∧ t.log = s.log ∧
        t.timestampFormat =
          if Clock.isBroken s.timestampFormat then Settings.default.timestampFormat
            else s.timestampFormat) ∧
    ∀ (arguments : List String) (o : Options) (s : Settings) (before loaded : σ),
      Options.ofArguments arguments = .ok o → o.writeConfig = true →
      (load w.files (w.path o)).run before = (.ok s, loaded) → w.files.Keeps (w.path o) loaded →
      ∃ after : σ,
        (run w arguments).run before =
          (.said ("Wrote " ++ String.ofList (w.path o) ++ "\n"), after) ∧
        ∀ o' : Options, w.path o' = w.path o → o'.apiUrl = none → o'.dev = false →
          ((settings w o').run after).1 = .ok (o.apply s) := by
  refine ⟨fun p s before hkeeps => ?_, fun arguments o s before loaded ho hwrite hload hkeeps => ?_⟩
  · refine ⟨_, s.repaired, save_of_keeps w.files hkeeps s, load_saved w.files hkeeps s, ?_⟩
    unfold repaired
    split <;> simp [*]
  · refine ⟨_, run_of_writeConfig ho hwrite hload hkeeps, fun o' hpath hurl hdev => ?_⟩
    have hsound : Clock.isBroken (o.apply s).timestampFormat = false :=
      (isBroken_apply o s).trans (isBroken_of_load w.files hload)
    have hloaded :
        ((load w.files (w.path o')).run (saved w.files (w.path o) (o.apply s) loaded)).1 =
        .ok (o.apply s) := by
      rw [hpath, load_saved w.files hkeeps, repaired_of_not_isBroken hsound]
    rw [settings_of_load (Prod.ext hloaded rfl), apply_of_no_arguments hurl hdev]

/-- On an empty disk, once with strings that no marks can hold as they are, and
once from the command line. -/
theorem written_settings_are_read_back_on_an_empty_disk :
    let w : World (StateM Disk) := ⟨Disk.files, "/h".toList, none, ""⟩
    let odd : Settings := ⟨"\"'''\\\r\n\x01\"\"\"\"", "%Q", .developer, ⟨false, "", "\t'\"\x7f"⟩⟩
    (∃ (after : Disk) (t : Settings),
      (save w.files ['a'] odd).run .empty = (.ok (), after) ∧
        ((load w.files ['a']).run after).1 = .ok t ∧
      t.baseUrl = odd.baseUrl ∧ t.startPage = odd.startPage ∧ t.log = odd.log ∧
      t.timestampFormat =
        if Clock.isBroken odd.timestampFormat then Settings.default.timestampFormat
        else odd.timestampFormat) ∧
    ∃ after : Disk,
      (run w ["--config=a", "--api-url=\"", "--dev", "--write-config"]).run .empty =
        (.said "Wrote a\n", after) ∧
      ((settings w ⟨some ['a'], none, false, false⟩).run after).1 =
        .ok { Settings.default with baseUrl := "\"", startPage := .developer } := by
  have hkeeps : Disk.files.Keeps ['a'] .empty := by
    have hplace : (Disk.files.withDirectories ['a'] .empty).place? ['a'] = some [['a']] := by decide
    exact Disk.keeps (by decide) hplace rfl
  have hwritten := written_settings_are_read_back ⟨Disk.files, "/h".toList, none, ""⟩
  refine ⟨hwritten.1 ['a'] _ .empty hkeeps, ?_⟩
  obtain ⟨after, hrun, hload⟩ :=
    hwritten.2 ["--config=a", "--api-url=\"", "--dev", "--write-config"]
    ⟨some ['a'], some "\"", true, true⟩ Settings.default .empty .empty rfl rfl rfl hkeeps
  exact ⟨after, hrun, hload _ rfl rfl rfl⟩

/-- Every setting is what an argument sets, else what the file gives, else the default. Only a
broken clock format does not count. -/
structure Resolved (o : Options) (g : Given) (s : Settings) : Prop where
  baseUrl : s.baseUrl = (o.apiUrl.or g.baseUrl).getD default.baseUrl
  timestampFormat :
    s.timestampFormat =
      (g.timestampFormat.filter fun f => !Clock.isBroken f).getD default.timestampFormat
  startPage :
    s.startPage = ((if o.dev then some .developer else none).or g.startPage).getD default.startPage
  enabled : s.log.enabled = g.enabled.getD default.log.enabled
  dir : s.log.dir = g.dir.getD default.log.dir
  level : s.log.level = g.level.getD default.log.level

theorem Resolved.unique {o : Options} {g : Given} {s t : Settings} (h : Resolved o g s)
    (h' : Resolved o g t) : s = t := by
  obtain ⟨_, _, _, ⟨_, _, _⟩⟩ := s
  obtain ⟨_, _, _, ⟨_, _, _⟩⟩ := t
  cases h.baseUrl.trans h'.baseUrl.symm
  cases h.timestampFormat.trans h'.timestampFormat.symm
  cases h.startPage.trans h'.startPage.symm
  cases h.enabled.trans h'.enabled.symm
  cases h.dir.trans h'.dir.symm
  cases h.level.trans h'.level.symm
  rfl

theorem run_of_resolved {σ : Type} {w : World (StateM σ)} {o : Options} {g : Given} {t : Settings}
    {before after : σ} (h : ∃ s, (settings w o).run before = (.ok s, after) ∧ Resolved o g s)
    (ht : Resolved o g t) : (settings w o).run before = (.ok t, after) := by
  obtain ⟨s, hs, hresolved⟩ := h
  rw [hs, hresolved.unique ht]

theorem resolved_apply (o : Options) (g : Given) : Resolved o g (o.apply g.filled.repaired) := by
  rw [repaired_eq]
  constructor
  case baseUrl => exact Option.getD_or.symm
  case timestampFormat =>
    show (if Clock.isBroken (g.timestampFormat.getD default.timestampFormat) then
      default.timestampFormat
      else g.timestampFormat.getD default.timestampFormat) = _
    cases hformat : g.timestampFormat with
    | none => exact if_neg (by simp [isBroken_default])
    | some f => cases hbroken : Clock.isBroken f <;> simp [Option.filter, hbroken]
  case startPage =>
    show (if o.dev then Page.developer else g.startPage.getD default.startPage) = _
    cases o.dev <;> rfl
  all_goals rfl

/-- Each setting is what an argument says, or else the file, or else the default, whatever becomes
of the others. The file may hold any tables that are read, or generated sections in any order; one
that is missing is as good as an empty one. -/
theorem settings_are_resolved_one_by_one {σ : Type} (w : World (StateM σ)) (o : Options) :
    (∀ (text : String) (ms : Table) (g : Given) (before after : σ),
      Toml.read text.toList = some ms → Gives ms g →
      Leads w.files (w.path o) before (some text) after →
      ∃ s, (settings w o).run before = (.ok s, after) ∧ Resolved o g s) ∧
    (∀ (ss : List Toml.Section) (g : Given) (before after : σ), (∀ s ∈ ss, s.Legible) →
      (ss.map (·.name)).Nodup → Gives (ss.map Toml.Section.table) g →
      Leads w.files (w.path o) before (some (String.ofList (ss.flatMap Toml.Section.text))) after →
      ∃ s, (settings w o).run before = (.ok s, after) ∧ Resolved o g s) ∧
    ∀ before after : σ, Leads w.files (w.path o) before none after →
      ∃ s, (settings w o).run before = (.ok s, after) ∧ Resolved o .nothing s ∧
        ∀ before' after' : σ, Leads w.files (w.path o) before' (some "") after' →
          (settings w o).run before' = (.ok s, after') := by
  have hfile (text : String) (ms : Table) (g : Given) (before after : σ)
      (htext : Toml.read text.toList = some ms)
      (hg : Gives ms g) (hleads : Leads w.files (w.path o) before (some text) after) :
      (settings w o).run before = (.ok (o.apply g.filled.repaired), after) :=
    settings_of_load (load_of_text hleads (ofText_of_gives htext hg))
  refine ⟨fun text ms g before after htext hg hleads => ?_,
    fun ss g before after hss hnames hg hleads => ?_, fun before after hleads => ?_⟩
  · exact ⟨_, hfile text ms g before after htext hg hleads, resolved_apply o g⟩
  · have htext : Toml.read (String.ofList (ss.flatMap Toml.Section.text)).toList =
        some (ss.map Toml.Section.table) := by
      rw [String.toList_ofList, Toml.read_sections hss hnames]
    exact ⟨_, hfile _ _ g before after htext hg hleads, resolved_apply o g⟩
  · have hdefault : Given.nothing.filled.repaired = default :=
      repaired_of_not_isBroken isBroken_default
    refine ⟨_, settings_of_load (load_of_missing hleads), ?_, fun before' after' hempty => ?_⟩
    · rw [← hdefault]
      exact resolved_apply o .nothing
    · rw [← hdefault]
      exact hfile "" [] .nothing before' after' read_nil gives_nothing hempty

/-- On disks of one file: a dotted key before an unknown table, and no arguments; tables out of
order, one of them unknown and one with a broken clock format, and both arguments; a file that is
not there, or is empty. -/
theorem settings_are_resolved_one_by_one_on_a_disk :
    let dotted := "logging.enabled = false\n[a.b]\n"
    let ss : List Toml.Section :=
      [⟨0, "ui".toList, [stringEntry "timestamp_format" "%Q"]⟩,
        ⟨1, "a".toList, [booleanEntry "enabled" false]⟩,
        ⟨0, "api".toList, [stringEntry "b" "c", stringEntry "base_url" "http://f/"]⟩]
    let sections := String.ofList (ss.flatMap Toml.Section.text)
    let disk (text : String) : Disk := ⟨[([['f']], .file text.toUTF8)]⟩
    let w : World (StateM Disk) := ⟨Disk.files, "/h".toList, none, ""⟩
    (settings w ⟨some ['f'], none, false, false⟩).run (disk dotted) =
        (.ok { Settings.default with log := { Settings.default.log with enabled := false } },
          disk dotted) ∧
      (settings w ⟨some ['f'], some "http://d/", true, false⟩).run (disk sections) =
        (.ok { Settings.default with baseUrl := "http://d/", startPage := .developer },
          disk sections) ∧
      (settings w ⟨some ['f'], none, true, false⟩).run .empty =
        (.ok { Settings.default with startPage := .developer }, .empty) ∧
      (settings w ⟨some ['f'], none, true, false⟩).run (disk "") =
        (.ok { Settings.default with startPage := .developer }, disk "") := by
  intro dotted ss sections disk w
  have hleads (text : String) : Leads w.files ['f'] (disk text) (some text) (disk text) :=
    leads_of_content? rfl
  refine ⟨?_, ?_, ?_⟩
  · let ms : Table :=
      [("logging".toList, .table .block [("enabled".toList, .boolean false)]),
        ("a".toList, .table .block [("b".toList, .table .block [])])]
    have htext : Toml.read dotted.toList = some ms := by
      unfold dotted ms
      decide +kernel
    have hgives : Gives ms ⟨none, none, none, some false, none, none⟩ :=
      ⟨⟨_, .absent rfl, rfl⟩, ⟨_, .absent rfl, rfl, rfl⟩, ⟨_, .table rfl, rfl, rfl, rfl⟩⟩
    have h := (settings_are_resolved_one_by_one w ⟨some ['f'], none, false, false⟩).1
      dotted ms _ _ _ htext hgives (hleads dotted)
    exact run_of_resolved h ⟨rfl, rfl, rfl, rfl, rfl, rfl⟩
  · have hlegible : ∀ s ∈ ss, s.Legible := by
      simp only [ss, List.forall_mem_cons]
      refine ⟨⟨by decide, ?_, by decide⟩, ⟨by decide, ?_, by decide⟩, ⟨by decide, ?_, by decide⟩,
        List.forall_mem_nil _⟩
      · exact List.forall_mem_singleton.mpr (legible_stringEntry (by decide) _)
      · exact List.forall_mem_singleton.mpr (legible_booleanEntry (by decide) _)
      · exact List.forall_mem_cons.mpr ⟨legible_stringEntry (by decide) _,
          List.forall_mem_singleton.mpr (legible_stringEntry (by decide) _)⟩
    have hgives :
        Gives (ss.map Toml.Section.table) ⟨some "http://f/", some "%Q", none, none, none, none⟩ :=
      ⟨⟨_, .table rfl, rfl⟩, ⟨_, .table rfl, rfl, rfl⟩, ⟨[], .absent rfl, rfl, rfl, rfl⟩⟩
    have hbroken : Clock.isBroken "%Q" = true := by
      simp [Clock.isBroken, Clock.pieces, Clock.directive, Clock.isPlain, Clock.isNumeric]
    have h := (settings_are_resolved_one_by_one w ⟨some ['f'], some "http://d/", true, false⟩).2.1
      ss _ _ _ hlegible (by decide) hgives (hleads sections)
    exact run_of_resolved h ⟨rfl, by simp [Option.filter, hbroken], rfl, rfl, rfl, rfl⟩
  · obtain ⟨s, hs, h, hempty⟩ :=
      (settings_are_resolved_one_by_one w ⟨some ['f'], none, true, false⟩).2.2
      .empty .empty (.missing rfl)
    exact ⟨run_of_resolved ⟨s, hs, h⟩ ⟨rfl, rfl, rfl, rfl, rfl, rfl⟩,
      run_of_resolved ⟨s, hempty _ _ (hleads ""), h⟩ ⟨rfl, rfl, rfl, rfl, rfl, rfl⟩⟩

end PackageMarket.Launch
