import PackageMarket.Proofs.Dialog.Submission
import PackageMarket.Proofs.Session.Fields

set_option autoImplicit false

namespace PackageMarket

open Market Decimal Text

namespace Form

variable {f : Form}

def captions (f : Form) : List (String × String) := f.fields.map fun g => (g.name, g.label)

structure Captioned (f : Form) (captions : List (String × String)) : Prop where
  captions_eq : f.captions = captions
  value_eq : ∀ g ∈ f.fields, f.value g.name = trim g.text
  label_eq : ∀ g ∈ f.fields, f.label g.name = g.label

theorem find?_name {l : List TextField} (h : (l.map TextField.name).Nodup) {g : TextField}
    (hg : g ∈ l) : l.find? (·.name = g.name) = some g := by
  induction l with
  | nil => cases hg
  | cons x xs ih =>
    obtain ⟨hx, hxs⟩ := List.nodup_cons.mp h
    rcases List.mem_cons.mp hg with rfl | hg
    · simp
    · have hne : x.name ≠ g.name := fun heq => hx (heq ▸ List.mem_map_of_mem hg)
      rw [List.find?_cons_of_neg (by simpa using hne)]
      exact ih hxs hg

theorem captioned_of_nodup {captions : List (String × String)} (hf : f.captions = captions)
    (h : (captions.map Prod.fst).Nodup) : f.Captioned captions := by
  have hnames : (f.fields.map TextField.name).Nodup := by
    simpa [← hf, Form.captions, Function.comp_def] using h
  have hfind {g : TextField} (hg : g ∈ f.fields) : f.field? g.name = some g := find?_name hnames hg
  exact ⟨hf, fun g hg => by simp [value, hfind hg], fun g hg => by simp [label, hfind hg]⟩

theorem captions_editFocused {edit : TextField → TextField}
    (h : ∀ g : TextField, (edit g).name = g.name ∧ (edit g).label = g.label) :
    (f.editFocused edit).captions = f.captions := by
  apply List.ext_getElem
  · simp [captions, editFocused]
  · intro i hi hi'
    simp only [captions, editFocused, List.getElem_map, List.getElem_modify]
    split
    · rw [(h _).1, (h _).2]
    · rfl

end Form

namespace Session

variable {s : State} {d : OpenDialog} {ds : List OpenDialog} {f : Form} {k : Key}

structure Enters (k : Key) : Prop where
  code : k.code = .enter
  kind : k.kind ≠ .release

theorem dialogKey_of_form (hf : d.dialog.form? = some f) (s : State) (k : Key) :
    dialogKey s d.dialog k = formKey s k := by
  obtain ⟨id, dialog⟩ := d
  cases dialog <;> first | rfl | cases hf

theorem step_of_enters (hd : s.dialogs = d :: ds) (hf : d.dialog.form? = some f) (hk : Enters k) :
    step s (.input (.key k)) = submitTop { s with dirty := true } := by
  rw [step_of_dialog hd hk.kind (by simp [hk.code]) (by simp [hk.code]), dialogKey_of_form hf]
  simp only [formKey, hk.code]

structure Sent (s : State) (id : Nat) (ds : List OpenDialog) (op : Operation) (r : Request)
    (o : Outcome) : Prop where
  actions : o.actions = [.submit id op r]
  state : o.state =
    { s with
      dialogs := ds
      pending := State.insertPending id op s.pending
      statusMessage := none
      dirty := true }

/-- The topmost dialog has a sentence for each broken rule, in place of those that it had. -/
structure Refused (s : State) (id : Nat) (ds : List OpenDialog) (make : Form → Dialog) (f : Form)
    (rules : List FieldRule) (o : Outcome) : Prop where
  actions : o.actions = []
  state : ∃ errors : List String,
    errors ≠ [] ∧
    List.Forall₂ f.Complains (rules.filter fun r => ¬f.Holds r) errors ∧
    o.state =
      { s with
        dialogs := ⟨id, make { f with hasErrors := true, errors }⟩ :: ds
        dirty := true }

section Form

variable {id : Nat} {make : Form → Dialog} {o : Outcome}

theorem sent_of_enters {op : Operation} {r : Request} {after : Dialog} (hk : Enters k)
    (hd : s.dialogs = ⟨id, make f⟩ :: ds) (hf : (make f).form? = some f)
    (hop : (make f).operation? = some op) (hs : (make f).submit = .ok (after, .send r))
    (ho : step s (.input (.key k)) = .ok o) : Sent s id ds op r o := by
  obtain ⟨o', ho', hactions, hstate⟩ := submitTop_of_send (s := { s with dirty := true }) hd hs hop
  rw [step_of_enters hd hf hk, ho'] at ho
  cases ho
  exact ⟨hactions, hstate⟩

theorem refused_of_enters {rules : List FieldRule} (hk : Enters k)
    (hd : s.dialogs = ⟨id, make f⟩ :: ds) (hf : (make f).form? = some f)
    (hs : (make f).submit =
      .ok (make { f with hasErrors := true, errors := f.violations rules }, .refused))
    (h : ¬∀ r ∈ rules, f.Holds r) (ho : step s (.input (.key k)) = .ok o) :
    Refused s id ds make f rules o := by
  obtain ⟨o', ho', hactions, hstate⟩ := submitTop_of_refused (s := { s with dirty := true }) hd hs
  rw [step_of_enters hd hf hk, ho'] at ho
  cases ho
  exact ⟨hactions, f.violations rules, (f.validate_of_broken h).1,
    f.violations_complain rules, hstate⟩

end Form

theorem FieldEdit.caption_eq {edit : TextField → TextField} (h : FieldEdit edit) (g : TextField) :
    (edit g).name = g.name ∧ (edit g).label = g.label := by
  rcases h.exists_edit g with heq | ⟨e, -, heq⟩
  · rw [heq]
    exact ⟨rfl, rfl⟩
  · obtain ⟨text, cursor, happly⟩ := g.exists_apply_eq e
    rw [heq, happly]
    exact ⟨rfl, rfl⟩

theorem FormEdit.captions_eq {edit : Form → Form} (h : FormEdit edit) (f : Form) :
    (edit f).captions = f.captions := by
  cases h with
  | next => unfold Form.focusNext; split <;> rfl
  | prev => unfold Form.focusPrev; split <;> rfl
  | field he => exact Form.captions_editFocused he.caption_eq
  | check rules => rfl

def KeepsFields : Dialog → Prop
  | .selfIssueCash f => f.captions = Dialog.cashForm.captions
  | .feeAgreement f => f.captions = Dialog.feeForm.captions
  | _ => True

theorem lasting_keepsFields : Lasting KeepsFields where
  opening h := by
    cases h with
    | cash _ | fee _ => rfl
    | _ => trivial
  message _ _ := trivial
  edit {f d} he hd := by
    cases he with
    | form he => cases d <;> first | exact (he.captions_eq _).trans hd | exact hd
    | editor _ | scroll _ => cases d <;> exact hd

/-- `Enter` on a form does one of two things in every state. If the values keep all rules,
the dialog goes, and what goes out is the integer that was typed, without a sign or leading
zeros, and the currency without blanks around it. If not, nothing goes out and nothing else
changes: the form has a sentence for each broken rule, in the order of the rules, and there
is one. In a session the forms have the fields that the rules are about, and their sentences
begin with the labels of these. -/
theorem enter_sends_or_says_why {now : Clock.Moment} {settings : Settings} {s : State}
    (h : State.initial now settings = some s) (es : List Event) :
    (∀ (r : State) (id : Nat) (f : Form) (ds : List OpenDialog) (k : Key),
      Enters k → r.dialogs = ⟨id, .selfIssueCash f⟩ :: ds →
      ∃ o : Outcome,
        step r (.input (.key k)) = .ok o ∧
        (∀ amount : Nat, f.HasCash amount →
          Sent r id ds .selfIssueCash
            ⟨.selfIssueCash,
              [("amount", toString amount), ("currency", String.ofList (f.value "currency"))],
              none⟩ o) ∧
        ((¬∃ amount : Nat, f.HasCash amount) →
          Refused r id ds .selfIssueCash f Dialog.cashRules o)) ∧
    (∀ (r : State) (id : Nat) (f : Form) (ds : List OpenDialog) (k : Key),
      Enters k → r.dialogs = ⟨id, .feeAgreement f⟩ :: ds →
      ∃ o : Outcome,
        step r (.input (.key k)) = .ok o ∧
        (∀ fee : Nat, f.HasFee fee →
          Sent r id ds .establishFeeAgreement
            ⟨.establishFeeAgreement, [("maxAcceptableFee", toString fee)], none⟩ o) ∧
        ((¬∃ fee : Nat, f.HasFee fee) →
          Refused r id ds .feeAgreement f Dialog.feeRules o)) ∧
    ∃ ts : List Turn,
      run s es = .ok ts ∧
      ∀ r ∈ states s ts, ∀ d ∈ r.dialogs, ∀ f : Form,
        (d.dialog = .selfIssueCash f →
          f.Captioned [("amount", "Amount"), ("currency", "Currency")]) ∧
        (d.dialog = .feeAgreement f →
          f.Captioned [("maxAcceptableFee", "Max acceptable fee (%)")]) := by
  obtain ⟨ts, hts, -⟩ := run_ok (shows_of_initial h).1 es
  obtain ⟨clock, -, rfl⟩ := s.initial_eq_some_iff.mp h
  refine ⟨?_, ?_, ts, hts, fun r hr d hd f => ?_⟩
  · intro r id f ds k hk hd
    obtain ⟨o, ho⟩ := input_ok r (.key k)
    refine ⟨o, ho, fun amount hcash => ?_, fun hnone => ?_⟩
    · exact sent_of_enters hk hd rfl rfl (Dialog.submit_of_hasCash hcash) ho
    · rw [← Form.cashRules_hold_iff] at hnone
      exact refused_of_enters hk hd rfl (by rw [Dialog.submit, Dialog.submitForm_of_broken hnone])
        hnone ho
  · intro r id f ds k hk hd
    obtain ⟨o, ho⟩ := input_ok r (.key k)
    refine ⟨o, ho, fun fee hfee => ?_, fun hnone => ?_⟩
    · exact sent_of_enters hk hd rfl rfl (Dialog.submit_of_hasFee hfee) ho
    · rw [← Form.feeRules_hold_iff] at hnone
      exact refused_of_enters hk hd rfl (by rw [Dialog.submit, Dialog.submitForm_of_broken hnone])
        hnone ho
  · have hkeeps := (run_of_eq_ok hts).forall_dialogs lasting_keepsFields
        (List.forall_mem_nil _) r hr d hd
    constructor
    · intro hf
      rw [hf] at hkeeps
      exact Form.captioned_of_nodup hkeeps (by decide)
    · intro hf
      rw [hf] at hkeeps
      exact Form.captioned_of_nodup hkeeps (by decide)

/-- A sign, leading zeros and wide blanks; no amount and a currency too short; a
negative zero; one fee too much. -/
theorem enter_sends_or_says_why_of_four :
    let withDialog (d : Dialog) : State :=
      { State.fresh .default "00:00:00" with dialogs := [⟨0, d⟩], nextId := 1 }
    let filled (name label : String) (text : List Char) : TextField :=
      { TextField.line name label with text }
    let cash (amount currency : List Char) : Form :=
      ⟨[filled "amount" "Amount" amount, filled "currency" "Currency" currency], 1, true,
        ["Earlier"]⟩
    let fee (text : List Char) : Form :=
      ⟨[filled "maxAcceptableFee" "Max acceptable fee (%)" text], 0, true, ["Earlier"]⟩
    let enter : Event := .input (.key (.press .enter))
    let sevens := cash [' ', '+', '0', '0', '7', '\u3000'] ['€', 'U', 'R', '\n']
    let nothing := cash ['-', '0'] [' ', 'U', 'S']
    State.initial (fun _ => ['0', '0']) .default = some (.fresh .default "00:00:00") ∧
    (∃ o : Outcome,
      sevens.HasCash 7 ∧ step (withDialog (.selfIssueCash sevens)) enter = .ok o ∧
      o.actions =
        [.submit 0 .selfIssueCash ⟨.selfIssueCash, [("amount", "7"), ("currency", "€UR")], none⟩]) ∧
    (∃ o : Outcome,
      (¬∃ amount : Nat, nothing.HasCash amount) ∧
      step (withDialog (.selfIssueCash nothing)) enter = .ok o ∧ o.actions = [] ∧
      o.state.dialogs =
        [⟨0, .selfIssueCash
          { nothing with
            errors := ["Amount must be at least 1", "Currency must be exactly 3 characters"] }⟩]) ∧
    (∃ o : Outcome,
      (fee ['-', '0']).HasFee 0 ∧ step (withDialog (.feeAgreement (fee ['-', '0']))) enter = .ok o ∧
      o.actions =
        [.submit 0 .establishFeeAgreement
          ⟨.establishFeeAgreement, [("maxAcceptableFee", "0")], none⟩]) ∧
    (∃ o : Outcome,
      (¬∃ n : Nat, (fee ['1', '0', '1']).HasFee n) ∧
      step (withDialog (.feeAgreement (fee ['1', '0', '1']))) enter = .ok o ∧ o.actions = [] ∧
      o.state.dialogs =
        [⟨0, .feeAgreement
          { fee ['1', '0', '1'] with
            errors := ["Max acceptable fee (%) must be between 0 and 100"] }⟩]) := by
  intro withDialog filled cash fee enter sevens nothing
  have h := State.initial_default
  have hk : Enters (.press .enter) := ⟨rfl, by decide⟩
  obtain ⟨hcash, hfee, -⟩ := enter_sends_or_says_why h []
  refine ⟨h, ?_, ?_, ?_, ?_⟩
  · obtain ⟨o, ho, hsent, -⟩ := hcash (withDialog (.selfIssueCash sevens)) 0 sevens [] _ hk rfl
    have hseven : sevens.HasCash 7 := by
      refine ⟨?_, by decide, by decide, by decide⟩
      exact .plus (s := ['0', '0', '7']) ⟨by decide, List.all_eq_true.mp rfl⟩
    exact ⟨o, hseven, ho, (hsent 7 hseven).actions⟩
  · obtain ⟨o, ho, -, hrefused⟩ := hcash (withDialog (.selfIssueCash nothing)) 0 nothing [] _ hk rfl
    have hnone : ¬∃ amount : Nat, nothing.HasCash amount := by
      rw [← Form.cashRules_hold_iff]
      decide
    refine ⟨o, hnone, ho, (hrefused hnone).actions, ?_⟩
    cases ho
    rfl
  · obtain ⟨o, ho, hsent, -⟩ := hfee (withDialog (.feeAgreement (fee ['-', '0']))) 0 _ [] _ hk rfl
    have hzero : (fee ['-', '0']).HasFee 0 := by
      refine ⟨?_, by decide⟩
      exact .minus (s := ['0']) ⟨by decide, List.all_eq_true.mp rfl⟩
    exact ⟨o, hzero, ho, (hsent 0 hzero).actions⟩
  · obtain ⟨o, ho, -, hrefused⟩ :=
      hfee (withDialog (.feeAgreement (fee ['1', '0', '1']))) 0 _ [] _ hk rfl
    have hnone : ¬∃ n : Nat, (fee ['1', '0', '1']).HasFee n := by
      rw [← Form.feeRules_hold_iff]
      decide
    refine ⟨o, hnone, ho, (hrefused hnone).actions, ?_⟩
    cases ho
    rfl

end Session

end PackageMarket
