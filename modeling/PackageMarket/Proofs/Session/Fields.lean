import PackageMarket.Proofs.Form.TextField
import PackageMarket.Proofs.Session.Run

set_option autoImplicit false

namespace PackageMarket

open Market Text

def Dialog.fields : Dialog → List TextField
  | .selfIssueCash f | .feeAgreement f => f.fields
  | .registerPkg d | .updatePkg d => [d.editor]
  | _ => []

namespace Form

structure Sound (f : Form) : Prop where
  focused : f.focus < f.fields.length
  fields : ∀ g ∈ f.fields, g.Placed ∧ g.OneLine
  hasErrors_iff : f.hasErrors = true ↔ f.errors ≠ []

variable {f : Form}

theorem sound_ofFields {l : List (String × String)} (hl : l ≠ []) :
    (ofFields (l.map fun x => .line x.1 x.2)).Sound := by
  refine ⟨by simpa [ofFields, List.length_pos_iff] using hl, fun g hg => ?_, by simp [ofFields]⟩
  obtain ⟨x, -, rfl⟩ := List.mem_map.mp hg
  exact ⟨rfl, rfl, List.not_mem_nil⟩

namespace Sound

theorem refocus (h : f.Sound) {i : Nat} (hi : i < f.fields.length) : { f with focus := i }.Sound :=
  ⟨hi, h.fields, h.hasErrors_iff⟩

theorem focusNext (h : f.Sound) : f.focusNext.Sound := by
  unfold Form.focusNext
  split
  · exact h
  · exact h.refocus (Nat.mod_lt _ (Nat.zero_lt_of_lt h.focused))

theorem focusPrev (h : f.Sound) : f.focusPrev.Sound := by
  unfold Form.focusPrev
  split
  · exact h
  · exact h.refocus (Nat.mod_lt _ (Nat.zero_lt_of_lt h.focused))

theorem validate (h : f.Sound) (rules : List FieldRule) : (f.validate rules).Sound :=
  ⟨h.focused, h.fields, by simp [Form.validate]⟩

theorem editFocused (h : f.Sound) {edit : TextField → TextField}
    (hedit : ∀ g : TextField, g.Placed → g.OneLine → (edit g).Placed ∧ (edit g).OneLine) :
    (f.editFocused edit).Sound := by
  refine ⟨by simpa [Form.editFocused] using h.focused, fun g hg => ?_, h.hasErrors_iff⟩
  obtain ⟨i, hi, rfl⟩ := List.mem_iff_getElem.mp hg
  simp only [Form.editFocused, List.getElem_modify]
  have hold := h.fields _ (List.getElem_mem (by simpa [Form.editFocused] using hi))
  split
  · exact hedit _ hold.1 hold.2
  · exact hold

end Sound

end Form

namespace Session

variable {s : State}

/-- What is typed into a field is an operation of the field, or nothing;
it never sets the whole text. -/
theorem FieldEdit.exists_edit {edit : TextField → TextField} (h : FieldEdit edit) (f : TextField) :
    edit f = f ∨
      ∃ e : TextField.Edit, (∀ s : List Char, e ≠ .setText s) ∧ edit f = f.apply e := by
  cases h with
  | text s => exact .inr ⟨.insertText s, by simp, rfl⟩
  | lineBreak => exact .inr ⟨.insertChar '\n', by simp, rfl⟩
  | up => exact .inr ⟨.moveUp, by simp, rfl⟩
  | down => exact .inr ⟨.moveDown, by simp, rfl⟩
  | key k =>
    obtain ⟨code, ctrl, shift, alt, kind⟩ := k
    cases code with
    | char c => cases ctrl with
      | false => exact .inr ⟨.insertChar c, by simp, rfl⟩
      | true =>
        by_cases hw : c = 'w'
        · subst hw
          exact .inr ⟨.deleteWordBack, by simp, rfl⟩
        by_cases ha : c = 'a'
        · subst ha
          exact .inr ⟨.moveHome, by simp, rfl⟩
        by_cases he : c = 'e'
        · subst he
          exact .inr ⟨.moveEnd, by simp, rfl⟩
        · exact .inl (by simp [editField])
    | backspace => exact .inr ⟨.deleteBack, by simp, rfl⟩
    | delete => exact .inr ⟨.deleteForward, by simp, rfl⟩
    | left => exact .inr ⟨.moveLeft, by simp, rfl⟩
    | right => exact .inr ⟨.moveRight, by simp, rfl⟩
    | home => exact .inr ⟨.moveHome, by simp, rfl⟩
    | last => exact .inr ⟨.moveEnd, by simp, rfl⟩
    | _ => exact .inl rfl

theorem FieldEdit.placed {edit : TextField → TextField} (h : FieldEdit edit) {f : TextField}
    (hf : f.Placed) : (edit f).Placed := by
  rcases h.exists_edit f with heq | ⟨e, -, heq⟩
  · rwa [heq]
  · rw [heq]
    exact hf.apply e

theorem FieldEdit.oneLine {edit : TextField → TextField} (h : FieldEdit edit) {f : TextField}
    (hf : f.Placed) (hline : f.OneLine) : (edit f).OneLine := by
  rcases h.exists_edit f with heq | ⟨e, he, heq⟩
  · rwa [heq]
  · rw [heq]
    exact hline.apply hf he

def Sound : Dialog → Prop
  | .selfIssueCash f | .feeAgreement f => f.Sound
  | .registerPkg d | .updatePkg d => d.editor.Placed
  | _ => True

theorem FormEdit.sound {edit : Form → Form} (h : FormEdit edit) {f : Form} (hf : f.Sound) :
    (edit f).Sound := by
  cases h with
  | next => exact hf.focusNext
  | prev => exact hf.focusPrev
  | field he => exact hf.editFocused fun g hg hline => ⟨he.placed hg, he.oneLine hg hline⟩
  | check rules => exact hf.validate rules

theorem Edit.sound {edit : Dialog → Dialog} (h : Edit edit) {d : Dialog} (hd : Sound d) :
    Sound (edit d) := by
  cases h with
  | form he => cases d <;> first | exact he.sound hd | exact hd
  | editor he => cases d <;> first | exact he.placed hd | exact hd
  | scroll code => cases d <;> exact hd

theorem sound_of_opening {code : KeyCode} {d : Dialog} (h : Opening s code d) : Sound d := by
  cases h with
  | cash _ =>
    exact Form.sound_ofFields (l := [("amount", "Amount"), ("currency", "Currency")]) (by simp)
  | fee _ =>
    exact Form.sound_ofFields (l := [("maxAcceptableFee", "Max acceptable fee (%)")]) (by simp)
  | register _ | update _ => exact TextField.placed_of_cursor_eq_zero rfl
  | _ => trivial

theorem lasting_sound : Lasting Sound where
  opening := sound_of_opening
  message _ _ := trivial
  edit he hd := he.sound hd

def AllSound (s : State) : Prop := ∀ d ∈ s.dialogs, Sound d.dialog

theorem Run.allSound {ts : List Turn} (h : Run s ts) (hs : AllSound s) :
    ∀ r ∈ states s ts, AllSound r :=
  h.forall_dialogs lasting_sound hs

/-- What holds of the cursor of a field: it is between two characters, counted in bytes, and so is
every range that an operation reads or takes out, whether it goes by characters or by bytes. -/
structure CursorHolds (f : TextField) : Prop where
  le : f.cursor ≤ (utf8 f.text).length
  between : ∃ a b : List Char, f.text = a ++ b ∧ (utf8 a).length = f.cursor
  ranges : ∀ start stop : Nat, f.Range start stop → TextField.Cuttable f.text start stop
  word : f.wordStart = TextField.wordStartInBytes (utf8 f.before)

theorem cursorHolds_of_placed {f : TextField} (h : f.Placed) : CursorHolds f := by
  refine ⟨?_, atBoundary_iff.mp h, fun _ _ hr => hr.cuttable h, f.wordStart_eq⟩
  rw [length_utf8]
  exact (TextField.Range.after.cuttable h).le

theorem placed_of_sound {d : Dialog} (h : Sound d) : ∀ f ∈ d.fields, f.Placed := by
  cases d with
  | selfIssueCash f | feeAgreement f => exact fun g hg => (h.fields g hg).1
  | registerPkg x | updatePkg x => exact List.forall_mem_singleton.mpr h
  | _ => exact List.forall_mem_nil _

theorem sound_of_form? {d : Dialog} (h : Sound d) {f : Form} (hf : d.form? = some f) : f.Sound := by
  cases d with
  | selfIssueCash g | feeAgreement g =>
    cases hf
    exact h
  | _ => cases hf

/-- Whatever the events: the cursor of every field of an open dialog is between two
characters; the fields of forms hold no line break, one of them is in focus, and a form is
marked exactly when it lists errors. A field on its own keeps its cursor so under any
operations, whatever text it begins with. -/
theorem editing_keeps_fields_whole {now : Clock.Moment} {settings : Settings} {s : State}
    (h : State.initial now settings = some s) (es : List Event) :
    (∃ ts : List Turn,
      run s es = .ok ts ∧
      ∀ r ∈ states s ts, ∀ d ∈ r.dialogs,
        (∀ f ∈ d.dialog.fields, CursorHolds f) ∧
        ∀ form : Form, d.dialog.form? = some form →
          (∀ f ∈ form.fields, '\n' ∉ f.text) ∧ form.focus < form.fields.length ∧
            (form.hasErrors = true ↔ form.errors ≠ [])) ∧
    ∀ (name label : String) (text : List Char) (multiline : Bool) (edits : List TextField.Edit),
      CursorHolds (edits.foldl TextField.apply ⟨name, label, text, 0, multiline⟩) := by
  obtain ⟨ts, hts, -⟩ := run_ok (shows_of_initial h).1 es
  obtain ⟨clock, -, rfl⟩ := s.initial_eq_some_iff.mp h
  constructor
  · refine ⟨ts, hts, fun r hr d hd => ?_⟩
    have hsound := (run_of_eq_ok hts).allSound (List.forall_mem_nil _) r hr d hd
    refine ⟨fun f hf => cursorHolds_of_placed (placed_of_sound hsound f hf), fun form hform => ?_⟩
    have hf := sound_of_form? hsound hform
    exact ⟨fun f hmem => (hf.fields f hmem).2.unbroken, hf.focused, hf.hasErrors_iff⟩
  · intro name label text multiline edits
    exact cursorHolds_of_placed (.foldl (TextField.placed_of_cursor_eq_zero rfl) edits)

/-- Characters of two and three bytes are typed and pasted, and a word is
deleted that ends with them. -/
theorem editing_keeps_fields_whole_of_wide :
    let press (c : KeyCode) : Event := .input (.key (.press c))
    let ctrl (c : Char) : Event := .input (.key { Key.press (.char c) with ctrl := true })
    let s := State.fresh .default "00:00:00"
    let es : List Event :=
      [press (.char 'i'), press (.char 'é'), .input (.paste ['a', '\r', '\n', ' ', '€', '€']),
        press .left, ctrl 'w', press .enter]
    State.initial (fun _ => ['0', '0']) .default = some s ∧
    (∃ (ts : List Turn) (form : Form) (f : TextField),
      run s es = .ok ts ∧ (last s ts).dialogs = [⟨0, .selfIssueCash form⟩] ∧ f ∈ form.fields ∧
      f.text = ['é', 'a', ' ', '€'] ∧ f.cursor = 4 ∧ CursorHolds f ∧
      form.focus < form.fields.length ∧ form.errors ≠ []) ∧
    CursorHolds ([.moveDown, .moveEnd, .deleteWordBack].foldl TextField.apply
      (.page "json" "JSON" ['é', '\n', 'ü', ' ', '€'])) := by
  intro press ctrl s es
  have h := State.initial_default
  obtain ⟨⟨ts, hts, hall⟩, hfield⟩ := editing_keeps_fields_whole h es
  obtain ⟨us, form, f, hus, hdialogs, hf, htext, hcursor, herrors⟩ :
      ∃ (us : List Turn) (form : Form) (f : TextField),
        run s es = .ok us ∧ (last s us).dialogs = [⟨0, .selfIssueCash form⟩] ∧ f ∈ form.fields ∧
        f.text = ['é', 'a', ' ', '€'] ∧ f.cursor = 4 ∧ form.hasErrors = true :=
    ⟨[_, _, _, _, _, _], _, _, rfl, rfl, List.mem_cons_self, rfl, rfl, rfl⟩
  obtain rfl : us = ts := Except.ok.inj (hus.symm.trans hts)
  obtain ⟨hholds, hform⟩ :=
    hall _ (last_mem_states s us) _ (hdialogs ▸ List.mem_singleton_self _)
  obtain ⟨-, hfocus, hmarked⟩ := hform form rfl
  exact ⟨h, ⟨us, form, f, hts, hdialogs, hf, htext, hcursor, hholds f hf, hfocus,
    hmarked.mp herrors⟩, hfield _ _ _ _ _⟩

end Session

end PackageMarket
