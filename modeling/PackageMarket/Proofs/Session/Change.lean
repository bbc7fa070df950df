import PackageMarket.Session.State
import PackageMarket.Session.Step

set_option autoImplicit false

/-!
Everything that one event can do to a session, case by case, with the state it leaves and the
actions it asks for. Invariants follow from these cases and need not look into the handling of keys.
-/

namespace PackageMarket.State

open Market

variable (s : State)

theorem initial_eq_some_iff {now : Clock.Moment} {settings : Settings} :
    initial now settings = some s ↔
      ∃ clock : String, Clock.render now settings.timestampFormat = some clock ∧
        fresh settings clock = s :=
  Option.map_eq_some_iff

theorem initial_default :
    initial (fun _ => ['0', '0']) .default = some (fresh .default "00:00:00") :=
  (initial_eq_some_iff _).mpr ⟨"00:00:00", by decide +kernel, rfl⟩

def openIds : List Nat := (s.dialogs.map OpenDialog.id).reverse

section Opening

variable (d : Dialog)

@[simp] theorem dialogs_openDialog : (s.openDialog d).dialogs = ⟨s.nextId, d⟩ :: s.dialogs := rfl

@[simp] theorem pending_openDialog : (s.openDialog d).pending = s.pending := rfl

@[simp] theorem settings_openDialog : (s.openDialog d).settings = s.settings := rfl

@[simp] theorem refreshedAt_openDialog : (s.openDialog d).refreshedAt = s.refreshedAt := rfl

end Opening

section Cursor

variable (f : Nat → Nat → Nat)

@[simp] theorem dialogs_moveCursor : (s.moveCursor f).dialogs = s.dialogs := by
  unfold moveCursor
  split <;> rfl

@[simp] theorem nextId_moveCursor : (s.moveCursor f).nextId = s.nextId := by
  unfold moveCursor
  split <;> rfl

@[simp] theorem pending_moveCursor : (s.moveCursor f).pending = s.pending := by
  unfold moveCursor
  split <;> rfl

@[simp] theorem settings_moveCursor : (s.moveCursor f).settings = s.settings := by
  unfold moveCursor
  split <;> rfl

@[simp] theorem refreshedAt_moveCursor : (s.moveCursor f).refreshedAt = s.refreshedAt := by
  unfold moveCursor
  split <;> rfl

end Cursor

section View

variable (v : View)

@[simp] theorem dialogs_refresh : (s.refresh v).dialogs = s.dialogs := by
  cases v <;> rfl

@[simp] theorem nextId_refresh : (s.refresh v).nextId = s.nextId := by
  cases v <;> rfl

@[simp] theorem pending_refresh : (s.refresh v).pending = s.pending := by
  cases v <;> rfl

@[simp] theorem settings_refresh : (s.refresh v).settings = s.settings := by
  cases v <;> rfl

end View

end PackageMarket.State

theorem Except.map_eq_ok_iff {ε α β : Type} {f : α → β} {x : Except ε α} {b : β} :
    x.map f = .ok b ↔ ∃ a : α, x = .ok a ∧ f a = b := by
  cases x with
  | error e => simp [Except.map]
  | ok a => simp [Except.map]

namespace PackageMarket.Session

open Market

inductive FieldEdit : (TextField → TextField) → Prop where
  | key (k : Key) : FieldEdit (editField k)
  | text (s : List Char) : FieldEdit (·.insertText s)
  | lineBreak : FieldEdit (·.insertChar '\n')
  | up : FieldEdit TextField.moveUp
  | down : FieldEdit TextField.moveDown

inductive FormEdit : (Form → Form) → Prop where
  | next : FormEdit Form.focusNext
  | prev : FormEdit Form.focusPrev
  | field {edit : TextField → TextField} : FieldEdit edit → FormEdit (·.editFocused edit)
  | check (rules : List FieldRule) : FormEdit (·.validate rules)

inductive Edit : (Dialog → Dialog) → Prop where
  | form {edit : Form → Form} : FormEdit edit → Edit (·.mapForm edit)
  | editor {edit : TextField → TextField} : FieldEdit edit → Edit (·.mapEditor edit)
  | scroll (code : KeyCode) : Edit (·.mapScroll fun v => v.move (viewerMove v.max code))

inductive Opening (s : State) : KeyCode → Dialog → Prop where
  | buy {o : Offer} : s.page = .marketplace → s.selectedOffer? = some o →
      Opening s (.char 'b') (.newBuy o)
  | cash : s.page = .marketplace → Opening s (.char 'i') .newCash
  | register : s.page = .developer → Opening s (.char 'n') .newRegister
  | update : s.page = .developer → Opening s (.char 'u') (.newUpdate s.selectedOffer?)
  | delete {code : KeyCode} {o : Offer} : code = .char 'x' ∨ code = .delete →
      s.page = .developer → s.selectedOffer? = some o → Opening s code (.newDelete o)
  | fee : s.page = .developer → Opening s (.char 'f') .newFee
  | details {o : Offer} : s.selectedOffer? = some o → Opening s .enter (.newDetails o)

inductive CursorMove : KeyCode → (Nat → Nat → Nat) → Prop where
  | up : CursorMove .up fun _ => Selection.prev
  | down : CursorMove .down Selection.next
  | pageUp : CursorMove .pageUp fun _ i => i - pageStep
  | pageDown : CursorMove .pageDown pageDown
  | home : CursorMove .home fun _ _ => 0
  | last : CursorMove .last fun n _ => n - 1

/-- What keys do on a page, the status message being gone already. -/
inductive PageChange (s : State) : KeyCode → State → List Action → Prop where
  | quit : PageChange s (.char 'q') s [.quit]
  | reload : PageChange s (.char 'r') s [.refresh Target.all]
  | turned {code : KeyCode} : code = .tab ∨ code = .function 2 →
      PageChange s code { s with page := s.page.other, dirty := true } []
  | moved {code : KeyCode} {f : Nat → Nat → Nat} : CursorMove code f →
      PageChange s code (s.moveCursor f) []
  | opened {code : KeyCode} {d : Dialog} : Opening s code d → PageChange s code (s.openDialog d) []
  | missing (code : KeyCode) : s.selectedOffer? = none →
      PageChange s code { s with statusMessage := some "No package selected" } []
  | unbound (code : KeyCode) : PageChange s code s []

def Typed : Input → Prop
  | .key _ | .paste _ => True
  | .resize | .other => False

/-- What an event does: the state after it, and the actions. -/
inductive Change (s : State) : Event → State → List Action → Prop where
  | ignored (i : Input) : Change s (.input i) s []
  | redrawn (i : Input) : Change s (.input i) { s with dirty := true } []
  | quit {k : Key} : k.kind ≠ .release → k.ctrl = true → k.code = .char 'c' →
      Change s (.input (.key k)) { s with dirty := true } [.quit]
  | closed (k : Key) {d : OpenDialog} {ds : List OpenDialog} : s.dialogs = d :: ds →
      Change s (.input (.key k)) { s with dialogs := ds, dirty := true } []
  | edited {i : Input} {d : OpenDialog} {ds : List OpenDialog} {edit : Dialog → Dialog} :
      Typed i → s.dialogs = d :: ds → Edit edit →
      Change s (.input i) { s with dialogs := ⟨d.id, edit d.dialog⟩ :: ds, dirty := true } []
  | sent (k : Key) {d : OpenDialog} {ds : List OpenDialog} {after : Dialog} {r : Request}
      {op : Operation} : s.dialogs = d :: ds → d.dialog.submit = .ok (after, .send r) →
      d.dialog.operation? = some op →
      Change s (.input (.key k))
        { s with
          dialogs := ds
          pending := State.insertPending d.id op s.pending
          statusMessage := none
          dirty := true }
        [.submit d.id op r]
  | told (k : Key) {d : OpenDialog} {ds : List OpenDialog} {after : Dialog} {m : Message} :
      s.dialogs = d :: ds → d.dialog.submit = .ok (after, .tell m) →
      Change s (.input (.key k))
        ({ s with dialogs := ds, dirty := true }.openDialog
          (.newMessage ((d.dialog.operation?.map Operation.title).getD "Message") m)) []
  | paged (k : Key) {t : State} {as : List Action} : s.dialogs = [] →
      PageChange { s with statusMessage := none, dirty := true } k.code t as →
      Change s (.input (.key k)) t as
  | answered (id : Nat) (op : Operation) (m : Message) :
      Change s (.response id op m)
        ({ s with pending := State.removePending id s.pending }.openDialog (.newMessage op.title m))
        (if m.isSuccess then [.refresh op.affected] else [])
  | refreshed (v : View) : Change s (.refreshed v) (s.refresh v) []
  | refreshFailed (t : Target) (error : String) : Change s (.refreshFailed t error) s []
  | ticked {now : Clock.Moment} {clock : String} :
      Clock.render now s.settings.timestampFormat = some clock →
      Change s (.tick now) (if clock = s.clock then s else { s with clock, dirty := true }) []

/-- Submitting changes forms only, and only in what they say is wrong. -/
theorem submit_after {d after : Dialog} {x : Submission} (h : d.submit = .ok (after, x)) :
    after = d ∨ ∃ rules : List FieldRule, after = d.mapForm (·.validate rules) := by
  cases d with
  | selfIssueCash f =>
    simp only [Dialog.submit, Dialog.submitForm, Except.ok.injEq, Prod.mk.injEq] at h
    exact .inr ⟨_, h.1.symm⟩
  | feeAgreement f =>
    simp only [Dialog.submit, Dialog.submitForm, Except.ok.injEq, Prod.mk.injEq] at h
    exact .inr ⟨_, h.1.symm⟩
  | registerPkg e | updatePkg e =>
    obtain ⟨y, -, hy⟩ := Except.map_eq_ok_iff.mp h
    exact .inl (Prod.ext_iff.mp hy).1.symm
  | buyPkg p => cases h; exact .inl rfl
  | deletePkg r => cases h; exact .inl rfl
  | details name text v => cases h; exact .inl rfl
  | message title m v => cases h; exact .inl rfl

theorem operation_of_send {d after : Dialog} {r : Request} (h : d.submit = .ok (after, .send r)) :
    ∃ op : Operation, d.operation? = some op := by
  cases d with
  | details name text v => simp [Dialog.submit] at h
  | message title m v => simp [Dialog.submit] at h
  | _ => exact ⟨_, rfl⟩

variable {s : State} {o : Outcome} {k : Key}

theorem step_of_dialog {d : OpenDialog} {ds : List OpenDialog} (hd : s.dialogs = d :: ds)
    (hk : k.kind ≠ .release) (hquit : k.code ≠ .char 'c') (hesc : k.code ≠ .esc) :
    step s (.input (.key k)) = dialogKey { s with dirty := true } d.dialog k := by
  have hq : (k.ctrl && k.code = .char 'c') = false := by simp [hquit]
  simp only [step, input, if_neg hk, key, hq, Bool.false_eq_true, if_false, hd, if_neg hesc]

theorem submitTop_of_refused {d : OpenDialog} {ds : List OpenDialog} {after : Dialog}
    (hd : s.dialogs = d :: ds) (hs : d.dialog.submit = .ok (after, .refused)) :
    ∃ o : Outcome,
      submitTop s = .ok o ∧ o.actions = [] ∧
      o.state = { s with dialogs := ⟨d.id, after⟩ :: ds } := by
  simp only [submitTop, hd, hs]
  exact ⟨_, rfl, rfl, rfl⟩

theorem submitTop_of_send {d : OpenDialog} {ds : List OpenDialog} {after : Dialog} {r : Request}
    {op : Operation} (hd : s.dialogs = d :: ds) (hs : d.dialog.submit = .ok (after, .send r))
    (hop : d.dialog.operation? = some op) :
    ∃ o : Outcome,
      submitTop s = .ok o ∧ o.actions = [.submit d.id op r] ∧
      o.state =
        { s with
          dialogs := ds
          pending := State.insertPending d.id op s.pending
          statusMessage := none
          dirty := true } := by
  simp only [submitTop, hd, hs, hop, State.closeTop]
  exact ⟨_, rfl, rfl, rfl⟩

theorem submitTop_change {d : OpenDialog} {ds : List OpenDialog} (hd : s.dialogs = d :: ds)
    (h : submitTop { s with dirty := true } = .ok o) :
    Change s (.input (.key k)) o.state o.actions := by
  unfold submitTop at h
  simp only [hd] at h
  split at h
  · cases h
  · rename_i after hs
    cases h
    rcases submit_after hs with rfl | ⟨rules, rfl⟩
    · simpa only [hd] using Change.redrawn (s := s) (.key k)
    · exact .edited trivial hd (.form (.check rules))
  · rename_i after r hs
    obtain ⟨op, hop⟩ := operation_of_send hs
    simp only [hop, State.closeTop] at h
    cases h
    exact .sent k hd hs hop
  · rename_i after m hs
    cases h
    simp only [State.closeTop]
    exact .told k hd hs

theorem editTop_change {d : OpenDialog} {ds : List OpenDialog} {edit : Dialog → Dialog}
    (hd : s.dialogs = d :: ds) (he : Edit edit) (k : Key) :
    Change s (.input (.key k)) ({ s with dirty := true }.editTop edit) [] := by
  simp only [State.editTop, hd]
  exact .edited trivial hd he

theorem closeTop_change {d : OpenDialog} {ds : List OpenDialog}
    (hd : s.dialogs = d :: ds) (k : Key) :
    Change s (.input (.key k)) ({ s with dirty := true }.closeTop) [] := by
  simp only [State.closeTop, hd]
  exact .closed k hd

theorem formKey_change {d : OpenDialog} {ds : List OpenDialog} (hd : s.dialogs = d :: ds)
    (h : formKey { s with dirty := true } k = .ok o) :
    Change s (.input (.key k)) o.state o.actions := by
  unfold formKey at h
  split at h
  · exact submitTop_change hd h
  · cases h; exact editTop_change hd (.form .next) _
  · cases h; exact editTop_change hd (.form .next) _
  · cases h; exact editTop_change hd (.form .prev) _
  · cases h; exact editTop_change hd (.form .prev) _
  · cases h; exact editTop_change hd (.form (.field (.key k))) _

theorem editorKey_change {d : OpenDialog} {ds : List OpenDialog} (hd : s.dialogs = d :: ds)
    (h : editorKey { s with dirty := true } k = .ok o) :
    Change s (.input (.key k)) o.state o.actions := by
  unfold editorKey at h
  split at h
  · exact submitTop_change hd h
  · cases h
    refine editTop_change hd (.editor ?_) _
    cases k.code
    case enter => exact .lineBreak
    case tab => exact .text _
    case up => exact .up
    case down => exact .down
    all_goals exact .key k

theorem confirmKey_change {d : OpenDialog} {ds : List OpenDialog} (hd : s.dialogs = d :: ds)
    (h : confirmKey { s with dirty := true } k = .ok o) :
    Change s (.input (.key k)) o.state o.actions := by
  unfold confirmKey at h
  split at h
  · exact submitTop_change hd h
  · exact submitTop_change hd h
  · exact submitTop_change hd h
  · cases h; exact closeTop_change hd k
  · cases h; exact closeTop_change hd k
  · cases h; exact .redrawn _

theorem viewerKey_change {d : OpenDialog} {ds : List OpenDialog}
    (hd : s.dialogs = d :: ds) (k : Key) :
    Change s (.input (.key k)) (viewerKey { s with dirty := true } k).state
      (viewerKey { s with dirty := true } k).actions := by
  unfold viewerKey
  split
  · exact closeTop_change hd k
  · exact closeTop_change hd k
  · exact editTop_change hd (.scroll _) _

theorem dialogKey_change {d : OpenDialog} {ds : List OpenDialog} (hd : s.dialogs = d :: ds)
    (h : dialogKey { s with dirty := true } d.dialog k = .ok o) :
    Change s (.input (.key k)) o.state o.actions := by
  unfold dialogKey at h
  split at h
  · exact formKey_change hd h
  · exact formKey_change hd h
  · exact editorKey_change hd h
  · exact editorKey_change hd h
  · exact confirmKey_change hd h
  · exact confirmKey_change hd h
  · cases h; exact viewerKey_change hd k
  · cases h; exact viewerKey_change hd k

theorem openFor_change {code : KeyCode} {make : Offer → Dialog}
    (h : ∀ o : Offer, s.selectedOffer? = some o → Opening s code (make o)) :
    PageChange s code (openFor s make) [] := by
  unfold openFor
  split
  · rename_i o ho
    exact .opened (h o ho)
  · rename_i ho
    exact .missing _ ho

theorem marketplaceKey_change (hp : s.page = .marketplace) (code : KeyCode) :
    PageChange s code (marketplaceKey s code) [] := by
  unfold marketplaceKey
  split
  · exact openFor_change fun o ho => .buy hp ho
  · exact .opened (.cash hp)
  · exact .unbound _

theorem developerKey_change (hp : s.page = .developer) (code : KeyCode) :
    PageChange s code (developerKey s code) [] := by
  unfold developerKey
  split
  · exact .opened (.register hp)
  · exact .opened (.update hp)
  · exact openFor_change fun o ho => .delete (.inl rfl) hp ho
  · exact openFor_change fun o ho => .delete (.inr rfl) hp ho
  · exact .opened (.fee hp)
  · exact .unbound _

theorem pageKey_change (s : State) (k : Key) :
    PageChange { s with statusMessage := none } k.code (pageKey s k).state
      (pageKey s k).actions := by
  obtain ⟨code, ctrl, shift, alt, kind⟩ := k
  unfold pageKey
  dsimp only
  split
  · exact .quit
  · exact .turned (.inl rfl)
  · exact .turned (.inr rfl)
  · exact .reload
  · exact .moved .up
  · exact .moved .down
  · exact .moved .pageUp
  · exact .moved .pageDown
  · exact .moved .home
  · exact .moved .last
  · split
    · rename_i o ho
      exact .opened (.details ho)
    · exact .unbound _
  · split
    · rename_i hp
      exact marketplaceKey_change (s := { s with statusMessage := none }) hp _
    · rename_i hp
      exact developerKey_change (s := { s with statusMessage := none }) hp _

theorem key_change (hk : k.kind ≠ .release) (h : key { s with dirty := true } k = .ok o) :
    Change s (.input (.key k)) o.state o.actions := by
  unfold key at h
  split at h
  · rename_i hc
    rw [Bool.and_eq_true, decide_eq_true_eq] at hc
    cases h
    exact .quit hk hc.1 hc.2
  split at h
  · rename_i hd
    cases h
    exact .paged k hd (pageKey_change { s with dirty := true } k)
  · rename_i d ds hd
    split at h
    · cases h
      exact closeTop_change (s := s) hd k
    · exact dialogKey_change hd h

theorem paste_change (s : State) (text : List Char) :
    Change s (.input (.paste text)) (paste s text) [] := by
  unfold paste
  split
  · exact .ignored _
  · rename_i d ds hd
    simp only [State.editTop, hd]
    split
    · exact .edited trivial hd (.editor (.text text))
    · exact .edited trivial hd (.editor (.text text))
    · split
      · exact .edited trivial hd (.form (.field (.text text)))
      · exact .ignored _
    · split
      · exact .edited trivial hd (.form (.field (.text text)))
      · exact .ignored _
    · exact .ignored _

/-- The cases are complete. -/
theorem change_of_step {e : Event} (h : step s e = .ok o) : Change s e o.state o.actions := by
  cases e with
  | input i =>
    cases i with
    | key k =>
      simp only [step, input] at h
      split at h
      · cases h; exact .ignored _
      · rename_i hk
        exact key_change hk h
    | paste text => cases h; exact paste_change s text
    | resize => cases h; exact .redrawn _
    | other => cases h; exact .ignored _
  | response id op m => cases h; exact .answered id op m
  | refreshed v => cases h; exact .refreshed v
  | refreshFailed t error => cases h; exact .refreshFailed t error
  | tick now =>
    simp only [step, tick] at h
    split at h
    · cases h
    · rename_i clock hc
      cases h
      exact .ticked hc

theorem actions_of_pageChange {t : State} {code : KeyCode} {as : List Action}
    (h : PageChange s code t as) : as = [] ∨ as = [.quit] ∨ as = [.refresh Target.all] := by
  cases h <;> simp

theorem length_actions_of_change {t : State} {e : Event} {as : List Action} (h : Change s e t as) :
    as.length ≤ 1 := by
  cases h with
  | paged k hd hp => rcases actions_of_pageChange hp with rfl | rfl | rfl <;> simp
  | answered id op m => split <;> simp
  | _ => simp

/-- Only the dialog on top sends a request, and it is gone with that. -/
theorem sent_of_change {t : State} {e : Event} {as : List Action} {id : Nat} {op : Operation}
    {r : Request} (h : Change s e t as) (ha : .submit id op r ∈ as) :
    ∃ (d : OpenDialog) (ds : List OpenDialog) (after : Dialog),
      s.dialogs = d :: ds ∧ d.id = id ∧ d.dialog.submit = .ok (after, .send r) ∧
      d.dialog.operation? = some op ∧ t.dialogs = ds ∧ t.nextId = s.nextId ∧
      t.pending = State.insertPending id op s.pending := by
  cases h with
  | @sent k d ds after r' op' hd hs ho =>
    obtain ⟨rfl, rfl, rfl⟩ : id = d.id ∧ op = op' ∧ r = r' := by simpa using ha
    exact ⟨d, ds, after, hd, rfl, hs, ho, rfl, rfl, rfl⟩
  | paged k hd hp => rcases actions_of_pageChange hp with rfl | rfl | rfl <;> simp at ha
  | answered id op m => split at ha <;> simp at ha
  | _ => simp at ha

end PackageMarket.Session
