import PackageMarket.Proofs.Json.Flawed
import PackageMarket.Proofs.Session.Run

set_option autoImplicit false

namespace PackageMarket.Session

open Market

variable {s : State} {d : OpenDialog} {ds : List OpenDialog} {x : Draft} {k : Key}

structure Saves (k : Key) : Prop where
  ctrl : k.ctrl = true
  code : k.code = .char 's'
  kind : k.kind ≠ .release

theorem dialogKey_of_draft (hx : d.dialog.draft? = some x) (s : State) (k : Key) :
    dialogKey s d.dialog k = editorKey s k := by
  obtain ⟨id, dialog⟩ := d
  cases dialog <;> first | rfl | cases hx

theorem step_of_saves (hd : s.dialogs = d :: ds) (hx : d.dialog.draft? = some x) (hk : Saves k) :
    step s (.input (.key k)) = submitTop { s with dirty := true } := by
  rw [step_of_dialog hd hk.kind (by simp [hk.code]) (by simp [hk.code]), dialogKey_of_draft hx]
  simp only [editorKey, hk.ctrl, hk.code, decide_true, Bool.and_self, if_true]

theorem submitTop_of_ok {op : Operation} {v : Json.Value} (hd : s.dialogs = d :: ds)
    (hx : d.dialog.draft? = some x) (hop : d.dialog.operation? = some op)
    (hv : Json.Value.ofText x.editor.text = .ok v) :
    ∃ o : Outcome,
      submitTop s = .ok o ∧ o.actions = [.submit d.id op (.withBody x.operation.endpoint v)] ∧
      o.state.dialogs = ds := by
  have hs : d.dialog.submit = .ok (d.dialog, .send (.withBody x.operation.endpoint v)) := by
    rw [Dialog.submit_of_draft hx, Dialog.submitDraft_of_ok hv]
    rfl
  obtain ⟨o, ho, hactions, hstate⟩ := submitTop_of_send hd hs hop
  exact ⟨o, ho, hactions, by rw [hstate]⟩

theorem submitTop_of_error {op : Operation} {f : Json.Fault} (hd : s.dialogs = d :: ds)
    (hx : d.dialog.draft? = some x) (hop : d.dialog.operation? = some op)
    (hf : Json.Value.ofText x.editor.text = .error f) :
    ∃ o : Outcome,
      submitTop s = .ok o ∧ o.actions = [] ∧ o.state.pending = s.pending ∧
      o.state.dialogs = ⟨s.nextId, .message op.title (.ofFault f x.editor.text) .top⟩ :: ds := by
  have hs : d.dialog.submit = .ok (d.dialog, .tell (.ofFault f x.editor.text)) := by
    rw [Dialog.submit_of_draft hx, Dialog.submitDraft_of_error hf]
    rfl
  simp only [submitTop, hd, hs, hop]
  refine ⟨_, rfl, rfl, ?_, ?_⟩
  · simp [Outcome.quiet, State.closeTop, hd]
  · simp [Outcome.quiet, State.closeTop, hd, Dialog.newMessage]

theorem category_of_ofText {text : List Char} {f : Json.Fault}
    (h : Json.Value.ofText text = .error f) :
    f.cause.category = .malformed ∨ f.cause.category = .unfinished := by
  have hshape := Json.ofText_syntactic text f h
  cases hc : f.cause.category with
  | malformed => exact .inl rfl
  | unfinished => exact .inr rfl
  | shape => exact absurd hc hshape

theorem text_of_sent {t : State} {e : Event} {as : List Action} {id : Nat} {op : Operation}
    {r : Request} (h : Change s e t as) (ha : .submit id op r ∈ as)
    (hop : op = .registerPkg ∨ op = .updatePkg) :
    ∃ (d : OpenDialog) (ds : List OpenDialog) (x : Draft) (v : Json.Value),
      s.dialogs = d :: ds ∧ d.dialog.draft? = some x ∧
      Json.Value.ofText x.editor.text = .ok v ∧ r.body = some v := by
  obtain ⟨d, ds, after, hd, -, hsend, ho, -⟩ := sent_of_change h ha
  obtain ⟨x, hx⟩ := Dialog.draft_of_operation? ho hop
  obtain ⟨v, hv, rfl⟩ := Dialog.draft_of_send hx hsend
  exact ⟨d, ds, x, v, hd, hx, hv, rfl⟩

/-- Whatever the events, each of them is handled in every state on the way, and what a draft sends
is what its text reads as. Whatever the state, `Ctrl` with `s` takes a draft away; a text that is no
JSON gives way to what is wrong with it, and nothing is sent. Of a shape that does not fit no text
is refused, so that a submission never fails; and a flawed text is refused for its flaw. -/
theorem drafts_are_sent_or_refused {now : Clock.Moment} {settings : Settings}
    (h : State.initial now settings = some s) (es : List Event) :
    (∃ ts : List Turn,
      run s es = .ok ts ∧
      (∀ r ∈ states s ts, ∀ e : Event, ∃ o : Outcome, step r e = .ok o) ∧
      ∀ t ∈ ts, ∀ (id : Nat) (op : Operation) (r : Request), .submit id op r ∈ t.actions →
        op = .registerPkg ∨ op = .updatePkg →
        ∃ (d : OpenDialog) (ds : List OpenDialog) (x : Draft) (v : Json.Value),
          t.before.dialogs = d :: ds ∧ d.dialog.draft? = some x ∧
          Json.Value.ofText x.editor.text = .ok v ∧ r.body = some v) ∧
    (∀ (r : State) (d : OpenDialog) (ds : List OpenDialog) (x : Draft) (k : Key),
      r.dialogs = d :: ds → d.dialog.draft? = some x → Saves k →
      ∃ (op : Operation) (o : Outcome),
        d.dialog.operation? = some op ∧ step r (.input (.key k)) = .ok o ∧
        (∀ v : Json.Value, Json.Value.ofText x.editor.text = .ok v →
          o.actions = [.submit d.id op (.withBody x.operation.endpoint v)] ∧ o.state.dialogs = ds) ∧
        ∀ f : Json.Fault, Json.Value.ofText x.editor.text = .error f →
          o.actions = [] ∧ o.state.pending = r.pending ∧
          o.state.dialogs =
            ⟨r.nextId,
              .message op.title (.atHome (Message.syntaxErrorText ++ f.message x.editor.text))
                .top⟩ :: ds) ∧
    (∀ (text : List Char) (f : Json.Fault), Json.Value.ofText text = .error f →
      f.cause.category = .malformed ∨ f.cause.category = .unfinished) ∧
    (∀ d : Dialog, ∃ x : Dialog × Submission, d.submit = .ok x) ∧
    ∀ (text : List Char) (k : Json.Cause), Json.Flawed (.value Json.maxDepth) text k →
      ∃ f : Json.Fault, Json.Value.ofText text = .error f ∧ f.cause = k := by
  obtain ⟨ts, hts, -⟩ := run_ok (shows_of_initial h).1 es
  have hr := run_of_eq_ok hts
  refine ⟨⟨ts, hts, ?_, fun t ht id op r ha hop => text_of_sent (hr.change ht) ha hop⟩, ?_,
    fun text f => category_of_ofText, submit_ok, fun text k => Json.ofText_fails⟩
  · intro r hmem e
    exact step_ok (hr.shows (shows_of_initial h).1 r hmem) e
  · intro r d ds x k hd hx hk
    obtain ⟨op, hop⟩ : ∃ op : Operation, d.dialog.operation? = some op := by
      rcases Dialog.operation?_of_draft hx with hop | hop
      all_goals exact ⟨_, hop⟩
    have hstep := step_of_saves hd hx hk
    cases ht : Json.Value.ofText x.editor.text with
    | ok v =>
      obtain ⟨o, ho, hactions, hdialogs⟩ :=
        submitTop_of_ok (s := { r with dirty := true }) hd hx hop ht
      refine ⟨op, o, hop, hstep.trans ho, fun w hw => ?_, fun f hf => ?_⟩
      · cases hw
        exact ⟨hactions, hdialogs⟩
      · cases hf
    | error f =>
      obtain ⟨o, ho, hactions, hpending, hdialogs⟩ :=
        submitTop_of_error (s := { r with dirty := true }) hd hx hop ht
      refine ⟨op, o, hop, hstep.trans ho, fun w hw => ?_, fun g hg => ?_⟩
      · cases hw
      · cases hg
        exact ⟨hactions, hpending, hdialogs⟩

/-- A text that breaks off, one bracket too many, a number beyond all floats, half of a pair. -/
theorem drafts_are_sent_or_refused_of_four :
    let withDraft (text : List Char) : State :=
      { State.fresh .default "00:00:00" with
        dialogs := [⟨0, .registerPkg ⟨.registerPkg, .page "json" "JSON" text⟩⟩]
        nextId := 1 }
    let save : Event := .input (.key ⟨.char 's', true, false, false, .press⟩)
    let told (f : Json.Fault) (text : List Char) : Dialog :=
      .message "Register package" (.atHome (Message.syntaxErrorText ++ f.message text)) .top
    let Refused (text : List Char) (k : Json.Cause) : Prop :=
      ∃ (f : Json.Fault) (o : Outcome),
        f.cause = k ∧ step (withDraft text) save = .ok o ∧ o.actions = [] ∧
        o.state.dialogs = [⟨1, told f text⟩]
    Refused ['\x7b', '"', 'a'] .endInString ∧
    Refused (List.replicate 128 '[') .tooDeep ∧
    Refused ['[', '1', 'e', '9', '9', '9', ']'] .numberOutOfRange ∧
    Refused ['"', '\\', 'u', 'd', '8', '0', '0', '"'] .endOfHexEscape ∧
    ∃ o : Outcome,
      step (withDraft ['7']) save = .ok o ∧
      o.actions = [.submit 0 .registerPkg (.withBody .registerPkg (.number (.int 7)))] := by
  intro withDraft save told Refused
  obtain ⟨-, hsave, -, -, hflaw⟩ := drafts_are_sent_or_refused State.initial_default []
  have hstep (text : List Char) := hsave (withDraft text) _ _ _ _ rfl rfl
    (⟨rfl, rfl, by decide⟩ : Saves ⟨.char 's', true, false, false, .press⟩)
  have hrefused {text : List Char} {k : Json.Cause}
      (h : Json.Flawed (.value Json.maxDepth) text k) :
      Refused text k := by
    obtain ⟨f, hf, hk⟩ := hflaw text k h
    obtain ⟨op, o, hop, ho, -, htold⟩ := hstep text
    obtain ⟨hactions, -, hdialogs⟩ := htold f hf
    cases hop
    exact ⟨f, o, hk, ho, hactions, hdialogs⟩
  refine ⟨hrefused ?_, hrefused ?_, hrefused ?_, hrefused ?_, ?_⟩
  · have hnext : Json.nextMember true ['"', 'a'] = .ok (.item ['a'] (by decide)) := rfl
    exact .object rfl (.name hnext (.char (by decide) (by decide) (by decide) .endInString))
  · exact Json.flawed_of_nested 127 []
  · have hnext : Json.nextItem true ['1', 'e', '9', '9', '9', ']'] =
        .ok (.item ['1', 'e', '9', '9', '9', ']'] (by decide)) := rfl
    have hread : Json.Literal.read .endInValue ['1', 'e', '9', '9', '9', ']'] =
        .ok ⟨⟨false, ['1'], [], some (false, ['9', '9', '9'])⟩, [']'], by decide⟩ := rfl
    exact .list rfl (.item hnext (.number rfl hread ⟨by decide, _, rfl, by decide⟩))
  · have hunit : Json.hexUnit ['d', '8', '0', '0', '"'] = .ok ⟨0xD800, ['"'], by decide⟩ := rfl
    exact .string rfl (.surrogate (.alone hunit rfl rfl (by decide)))
  · obtain ⟨op, o, hop, ho, hsent, -⟩ := hstep ['7']
    cases hop
    exact ⟨o, ho, (hsent _ rfl).1⟩

end PackageMarket.Session
