import PackageMarket.Proofs.Session.Run

set_option autoImplicit false

namespace PackageMarket.Session

open Market

/-- A dialog before and after something was typed: of one kind, and about the same thing. -/
inductive Revised : Dialog → Dialog → Prop where
  | selfIssueCash (f g : Form) : Revised (.selfIssueCash f) (.selfIssueCash g)
  | feeAgreement (f g : Form) : Revised (.feeAgreement f) (.feeAgreement g)
  | buyPkg (p : Purchase) : Revised (.buyPkg p) (.buyPkg p)
  | registerPkg (op : Operation) (e f : TextField) :
      Revised (.registerPkg ⟨op, e⟩) (.registerPkg ⟨op, f⟩)
  | updatePkg (op : Operation) (e f : TextField) : Revised (.updatePkg ⟨op, e⟩) (.updatePkg ⟨op, f⟩)
  | deletePkg (r : Removal) : Revised (.deletePkg r) (.deletePkg r)
  | details (name text : String) (v w : Scroll) :
      Revised (.details name text v) (.details name text w)
  | message (title : String) (m : Message) (v w : Scroll) :
      Revised (.message title m v) (.message title m w)

namespace Revised

variable {d d' d'' : Dialog}

theorem refl (d : Dialog) : Revised d d := by
  cases d <;> constructor

theorem trans (h : Revised d d') (h' : Revised d' d'') : Revised d d'' := by
  cases h <;> cases h' <;> constructor

theorem of_edit {edit : Dialog → Dialog} (h : Edit edit) (d : Dialog) : Revised d (edit d) := by
  cases h <;> cases d <;> constructor

theorem draft?_eq_none (h : Revised d d') (hd : d.draft? = none) : d'.draft? = none := by
  cases h <;> first | rfl | cases hd

end Revised

inductive Opened (s : State) : Event → Dialog → Prop where
  | key (k : Key) {d : Dialog} : s.dialogs = [] → Opening s k.code d → Opened s (.input (.key k)) d
  | answer (id : Nat) (op : Operation) (m : Message) :
      Opened s (.response id op m) (.newMessage op.title m)

inductive StackChange (s : State) (e : Event) (t : State) : Prop where
  | kept : t.dialogs = s.dialogs → t.nextId = s.nextId → StackChange s e t
  | edited {i : Input} {d : OpenDialog} {ds : List OpenDialog} {after : Dialog} :
      e = .input i → Typed i → s.dialogs = d :: ds → Revised d.dialog after →
      t.dialogs = ⟨d.id, after⟩ :: ds → t.nextId = s.nextId → StackChange s e t
  | closed {d : OpenDialog} {ds : List OpenDialog} :
      s.dialogs = d :: ds → t.dialogs = ds → t.nextId = s.nextId → StackChange s e t
  | replaced {d : OpenDialog} {ds : List OpenDialog} {x : Draft} {op : Operation} {f : Json.Fault} :
      s.dialogs = d :: ds → d.dialog.draft? = some x → d.dialog.operation? = some op →
      Json.Value.ofText x.editor.text = .error f →
      t.dialogs = ⟨s.nextId, .newMessage op.title (.ofFault f x.editor.text)⟩ :: ds →
      t.nextId = s.nextId + 1 → StackChange s e t
  | opened {d : Dialog} :
      Opened s e d → t.dialogs = ⟨s.nextId, d⟩ :: s.dialogs → t.nextId = s.nextId + 1 →
      StackChange s e t

variable {s t : State} {e : Event} {as : List Action}

theorem opening_of_cleared {code : KeyCode} {d : Dialog}
    (h : Opening { s with statusMessage := none, dirty := true } code d) : Opening s code d := by
  cases h with
  | buy hp ho => exact .buy hp ho
  | cash hp => exact .cash hp
  | register hp => exact .register hp
  | update hp => exact .update hp
  | delete hc hp ho => exact .delete hc hp ho
  | fee hp => exact .fee hp
  | details ho => exact .details ho

theorem stack_of_pageChange {code : KeyCode} (h : PageChange s code t as) :
    (t.dialogs = s.dialogs ∧ t.nextId = s.nextId) ∨
      ∃ d : Dialog, Opening s code d ∧ t.dialogs = ⟨s.nextId, d⟩ :: s.dialogs ∧
        t.nextId = s.nextId + 1 := by
  cases h with
  | opened ho => exact .inr ⟨_, ho, rfl, rfl⟩
  | moved _ => exact .inl ⟨by simp, by simp⟩
  | _ => exact .inl ⟨rfl, rfl⟩

theorem stackChange_of_change (h : Change s e t as) : StackChange s e t := by
  cases h with
  | closed k hd | sent k hd => exact .closed hd rfl rfl
  | edited hi hd he => exact .edited rfl hi hd (.of_edit he _) rfl rfl
  | told k hd hs =>
    obtain ⟨x, hx⟩ := Dialog.draft_of_tell hs
    obtain ⟨f, hf, rfl⟩ := Dialog.fault_of_tell hx hs
    rcases Dialog.operation?_of_draft hx with hop | hop
    all_goals exact .replaced hd hx hop hf (by rw [hop]; rfl) rfl
  | paged k hd hp =>
    rcases stack_of_pageChange hp with ⟨ht, hn⟩ | ⟨d, ho, ht, hn⟩
    · exact .kept ht hn
    · exact .opened (.key k hd (opening_of_cleared ho)) ht hn
  | answered id op m => exact .opened (.answer id op m) rfl rfl
  | refreshed v => exact .kept (by simp) (by simp)
  | ticked hc => split <;> exact .kept rfl rfl
  | _ => exact .kept rfl rfl

/-- Where a dialog that is open after an event comes from. -/
inductive Origin (s : State) (e : Event) (d : OpenDialog) : Prop where
  | before {d' : OpenDialog} : d' ∈ s.dialogs → d.id = d'.id → Revised d'.dialog d.dialog →
      Origin s e d
  | told {title : String} {m : Message} : d.id = s.nextId → d.dialog = .newMessage title m →
      Origin s e d
  | opened : d.id = s.nextId → Opened s e d.dialog → Origin s e d

theorem StackChange.tail_suffix (h : StackChange s e t) : s.dialogs.tail <:+ t.dialogs := by
  cases h with
  | kept ht _ =>
    rw [ht]
    exact List.tail_suffix _
  | edited _ _ hs _ ht _ | replaced hs _ _ _ ht _ =>
    rw [hs, ht]
    exact List.suffix_cons _ _
  | closed hs ht _ =>
    rw [hs, ht]
    exact List.suffix_rfl
  | opened _ ht _ =>
    rw [ht]
    exact (List.tail_suffix _).trans (List.suffix_cons _ _)

/-- A dialog is open over certain others, and has not been changed but by typing. -/
def Stands (id : Nat) (d : Dialog) (below : List OpenDialog) (s : State) : Prop :=
  ∃ (above : List OpenDialog) (d' : Dialog), s.dialogs = above ++ ⟨id, d'⟩ :: below ∧ Revised d d'

variable {id : Nat} {d : Dialog} {below : List OpenDialog}

theorem Stands.step (hs : Stands id d below s) (hd : d.draft? = none) (h : StackChange s e t) :
    Stands id d below t ∨ t.dialogs = below := by
  obtain ⟨above, d', hs, hr⟩ := hs
  cases h with
  | kept ht _ => exact .inl ⟨above, d', ht.trans hs, hr⟩
  | opened _ ht _ => exact .inl ⟨_ :: above, d', by rw [ht, hs]; rfl, hr⟩
  | edited _ _ hs' hr' ht _ =>
    rw [hs'] at hs
    cases above with
    | nil =>
      cases hs
      exact .inl ⟨[], _, ht, hr.trans hr'⟩
    | cons a above =>
      cases hs
      exact .inl ⟨_ :: above, d', ht, hr⟩
  | closed hs' ht _ =>
    rw [hs'] at hs
    cases above with
    | nil =>
      cases hs
      exact .inr ht
    | cons a above =>
      cases hs
      exact .inl ⟨above, d', ht, hr⟩
  | replaced hs' hx _ _ ht _ =>
    rw [hs'] at hs
    cases above with
    | nil =>
      cases hs
      rw [hr.draft?_eq_none hd] at hx
      cases hx
    | cons a above =>
      cases hs
      exact .inl ⟨_ :: above, d', ht, hr⟩

theorem stands_of_answer (s : State) (id : Nat) (op : Operation) (m : Message) :
    Stands s.nextId (.newMessage op.title m) s.dialogs (response s id op m).state :=
  ⟨[], _, rfl, .refl _⟩

theorem step_esc {ds : List OpenDialog} {top : OpenDialog} {k : Key} (hs : s.dialogs = top :: ds)
    (hc : k.code = .esc) (hk : k.kind ≠ .release) :
    ∃ o : Outcome, step s (.input (.key k)) = .ok o ∧
      o.state = { s with dialogs := ds, dirty := true } ∧ o.actions = [] := by
  have hq : (k.ctrl && k.code = .char 'c') = false := by simp [hc]
  simp only [step, input, if_neg hk, key, hq, hs, if_pos hc]
  exact ⟨_, rfl, by simp [State.closeTop], rfl⟩

/-- Whatever the state and the event, one dialog at most is touched, and that is the one on top. A
dialog that is interrupted by an answer is found as it was once the answer is dismissed, and `Esc`
dismisses what is on top and does nothing else. -/
theorem only_the_topmost_dialog_is_touched (s : State) :
    (∀ e : Event,
      (∃ o : Outcome,
        step s e = .ok o ∧ StackChange s e o.state ∧ s.dialogs.tail <:+ o.state.dialogs) ∨
      ∃ now : Clock.Moment, e = .tick now ∧ Clock.render now s.settings.timestampFormat = none) ∧
    (∀ (id : Nat) (op : Operation) (m : Message),
      ∃ o : Outcome,
        step s (.response id op m) = .ok o ∧
        o.state.dialogs = ⟨s.nextId, .message op.title m .top⟩ :: s.dialogs ∧
        ∀ (es : List Event) (ts : List Turn), run o.state es = .ok ts →
          (∀ r ∈ states o.state ts,
            Stands s.nextId (.message op.title m .top) s.dialogs r) ∨
          ∃ (us : List Turn) (t : Turn) (vs : List Turn),
            ts = us ++ t :: vs ∧
            (∀ r ∈ states o.state us,
              Stands s.nextId (.message op.title m .top) s.dialogs r) ∧
            t.after.dialogs = s.dialogs) ∧
    ∀ (top : OpenDialog) (ds : List OpenDialog) (k : Key),
      s.dialogs = top :: ds → k.code = .esc → k.kind ≠ .release →
        ∃ o : Outcome,
          step s (.input (.key k)) = .ok o ∧
          o.state = { s with dialogs := ds, dirty := true } ∧ o.actions = [] := by
  refine ⟨fun e => ?_, fun id op m => ⟨_, rfl, rfl, fun es ts hts => ?_⟩,
    fun top ds k hs hc hk => ?_⟩
  · rcases step_ok_or s e with ⟨o, ho⟩ | hclock
    · have hc := stackChange_of_change (change_of_step ho)
      exact .inl ⟨o, ho, hc, hc.tail_suffix⟩
    · exact .inr hclock
  · exact (run_of_eq_ok hts).lasts_or_ends (Q := fun r => r.dialogs = s.dialogs)
      (fun _ _ _ _ hst hc => hst.step rfl (stackChange_of_change hc)) (stands_of_answer s id op m)
  · exact step_esc hs hc hk

/-- Half a form is filled in when two answers come, one over the other. -/
theorem only_the_topmost_dialog_is_touched_of_interrupted :
    let form : Form :=
      { Dialog.cashForm with
        fields := [⟨"amount", "Amount", ['1', '2'], 1, false⟩, .line "currency" "Currency"]
        hasErrors := true
        errors := ["Currency must be exactly 3 characters"] }
    let s : State :=
      { State.fresh .default "00:00:00" with dialogs := [⟨4, .selfIssueCash form⟩], nextId := 5 }
    let press (c : KeyCode) : Event := .input (.key (.press c))
    let es : List Event :=
      [press .down, .response 2 .deletePkg (.failed "request failed"), .input (.paste ['9']),
        press .esc, press .esc]
    ∃ (o : Outcome) (us : List Turn) (t : Turn) (vs : List Turn),
      step s (.response 1 .buyPkg (.reply ⟨204, ""⟩)) = .ok o ∧
      run o.state es = .ok (us ++ t :: vs) ∧ t.after.dialogs = s.dialogs ∧
      ∃ o' : Outcome,
        step s (press .esc) = .ok o' ∧ o'.state = { s with dialogs := [], dirty := true } := by
  intro form s press es
  obtain ⟨-, hanswer, hesc⟩ := only_the_topmost_dialog_is_touched s
  obtain ⟨o, ho, -, hrun⟩ := hanswer 1 .buyPkg (.reply ⟨204, ""⟩)
  obtain ⟨us, t, hts, ht⟩ :
      ∃ (us : List Turn) (t : Turn),
        run (response s 1 .buyPkg (.reply ⟨204, ""⟩)).state es = .ok (us ++ [t]) ∧
        t.after.dialogs = s.dialogs :=
    ⟨[_, _, _, _], _, rfl, rfl⟩
  cases ho
  obtain ⟨o', ho', hstate, -⟩ := hesc ⟨4, .selfIssueCash form⟩ [] (.press .esc) rfl rfl (by decide)
  rcases hrun es _ hts with hall | ⟨vs, u, ws, heq, -, hu⟩
  · -- The stack is lower in the end than it would be with the message on it.
    obtain ⟨above, d, hd, -⟩ := hall t.after (Run.after_mem_states _ (by simp))
    have hlength := congrArg List.length (ht.symm.trans hd)
    simp only [List.length_append, List.length_cons] at hlength
    omega
  · exact ⟨_, vs, u, ws, rfl, heq ▸ hts, hu, o', ho', hstate⟩

end PackageMarket.Session
