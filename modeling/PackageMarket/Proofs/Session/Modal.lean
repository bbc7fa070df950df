import PackageMarket.Proofs.Session.Refresh

set_option autoImplicit false

namespace PackageMarket

open Market

namespace State

variable (s : State) (v : View)

theorem refresh_of_dirty : ({ s with dirty := true } : State).refresh v = s.refresh v := by
  cases v <;> rfl

theorem dirty_of_refresh : { s.refresh v with dirty := true } = s.refresh v := rfl

theorem editTop_refresh (f : Dialog → Dialog) :
    (s.refresh v).editTop f = (s.editTop f).refresh v := by
  unfold editTop
  rw [dialogs_refresh]
  split
  · rfl
  · cases v <;> rfl

theorem closeTop_refresh : (s.refresh v).closeTop = s.closeTop.refresh v := by
  unfold closeTop
  rw [dialogs_refresh]
  split
  · rfl
  · cases v <;> rfl

theorem openDialog_refresh (d : Dialog) :
    (s.refresh v).openDialog d = (s.openDialog d).refresh v := by
  cases v <;> rfl

theorem pending_of_refresh (ps : List (Nat × Operation)) :
    { s.refresh v with pending := ps, statusMessage := none } =
      ({ s with pending := ps, statusMessage := none } : State).refresh v := by
  cases v <;> rfl

theorem dialogs_of_refresh (ds : List OpenDialog) :
    { s.refresh v with dialogs := ds } = ({ s with dialogs := ds } : State).refresh v := by
  cases v <;> rfl

end State

def Outcome.refresh (o : Outcome) (v : View) : Outcome := { o with state := o.state.refresh v }

namespace Session

variable (s : State) (v : View)

theorem submitTop_refresh : submitTop (s.refresh v) = (submitTop s).map (·.refresh v) := by
  unfold submitTop
  rw [State.dialogs_refresh]
  cases s.dialogs with
  | nil => rfl
  | cons d ds =>
    dsimp only
    rw [State.closeTop_refresh]
    split
    · rfl
    · rw [State.dialogs_of_refresh]
      rfl
    · split
      · rfl
      · rw [State.pending_refresh, State.pending_of_refresh]
        rfl
    · rw [State.openDialog_refresh]
      rfl

theorem formKey_refresh (k : Key) : formKey (s.refresh v) k = (formKey s k).map (·.refresh v) := by
  unfold formKey
  split
  · exact submitTop_refresh s v
  all_goals
    rw [State.editTop_refresh]
    rfl

theorem editorKey_refresh (k : Key) :
    editorKey (s.refresh v) k = (editorKey s k).map (·.refresh v) := by
  unfold editorKey
  split
  · exact submitTop_refresh s v
  · dsimp only
    rw [State.editTop_refresh]
    rfl

theorem confirmKey_refresh (k : Key) :
    confirmKey (s.refresh v) k = (confirmKey s k).map (·.refresh v) := by
  unfold confirmKey
  rw [State.closeTop_refresh]
  split
  case h_1 | h_2 | h_3 => exact submitTop_refresh s v
  all_goals rfl

theorem viewerKey_refresh (k : Key) : viewerKey (s.refresh v) k = (viewerKey s k).refresh v := by
  unfold viewerKey
  split
  · rw [State.closeTop_refresh]
    rfl
  · rw [State.closeTop_refresh]
    rfl
  · rw [State.editTop_refresh]
    rfl

theorem dialogKey_refresh (d : Dialog) (k : Key) :
    dialogKey (s.refresh v) d k = (dialogKey s d k).map (·.refresh v) := by
  cases d with
  | selfIssueCash f | feeAgreement f => exact formKey_refresh s v k
  | registerPkg x | updatePkg x => exact editorKey_refresh s v k
  | buyPkg p | deletePkg r => exact confirmKey_refresh s v k
  | details name text w | message title m w =>
    simp only [dialogKey, viewerKey_refresh]
    rfl

variable {s}

theorem key_refresh (hs : s.dialogs ≠ []) (k : Key) :
    key (s.refresh v) k = (key s k).map (·.refresh v) := by
  obtain ⟨d, ds, hd⟩ := List.exists_cons_of_ne_nil hs
  unfold key
  rw [State.dialogs_refresh, hd]
  split
  · rfl
  · dsimp only
    split
    · rw [State.closeTop_refresh]
      rfl
    · exact dialogKey_refresh s v d.dialog k

theorem paste_refresh (text : List Char) : paste (s.refresh v) text = (paste s text).refresh v := by
  unfold paste
  rw [State.dialogs_refresh]
  simp only [State.editTop_refresh, State.dirty_of_refresh]
  split
  · rfl
  · split
    case h_3 | h_4 =>
      split
      · rw [State.refresh_of_dirty]
      · rfl
    all_goals first | rfl | rw [State.refresh_of_dirty]

theorem input_refresh (hs : s.dialogs ≠ []) (i : Input) :
    input (s.refresh v) i = (input s i).map (·.refresh v) := by
  cases i with
  | key k =>
    simp only [input, State.dirty_of_refresh]
    split
    · rfl
    · rw [← State.refresh_of_dirty]
      exact key_refresh (s := { s with dirty := true }) v hs k
  | paste text =>
    simp only [input, paste_refresh]
    rfl
  | resize =>
    simp only [input, State.dirty_of_refresh]
    rw [← State.refresh_of_dirty]
    rfl
  | other => rfl

theorem eitherOrder_input (hs : s.dialogs ≠ []) (i : Input) :
    EitherOrder s (.refreshed v) (.input i) := by
  obtain ⟨o, ho⟩ := input_ok s i
  have hafter : step (s.refresh v) (.input i) = .ok (o.refresh v) := by
    rw [step, input_refresh v hs, show input s i = .ok o from ho]
    rfl
  refine ⟨_, _, run_pair rfl hafter, run_pair ho rfl, rfl, ?_⟩
  simp [Turn.actions, Outcome.refresh]

/-- What is behind the dialogs: the page with its cursors, what was fetched and
when, the clock, the settings. -/
structure SameBehind (s t : State) : Prop where
  page : t.page = s.page
  marketCursor : t.marketCursor = s.marketCursor
  developerCursor : t.developerCursor = s.developerCursor
  identity : t.identity = s.identity
  marketplace : t.marketplace = s.marketplace
  licenses : t.licenses = s.licenses
  balances : t.balances = s.balances
  pkgOffers : t.pkgOffers = s.pkgOffers
  feeAgreement : t.feeAgreement = s.feeAgreement
  refreshedAt : t.refreshedAt = s.refreshedAt
  clock : t.clock = s.clock
  settings : t.settings = s.settings

def Quits (i : Input) : Prop :=
  ∃ k : Key, i = .key k ∧ k.kind ≠ .release ∧ k.ctrl = true ∧ k.code = .char 'c'

variable {t : State} {i : Input} {as : List Action}

theorem sameBehind_of_change (hs : s.dialogs ≠ []) (h : Change s (.input i) t as) :
    SameBehind s t := by
  cases h with
  | paged k hd _ => exact absurd hd hs
  | _ => constructor <;> rfl

theorem status_of_change (hs : s.dialogs ≠ []) (h : Change s (.input i) t as) :
    t.statusMessage = s.statusMessage ∨
      t.statusMessage = none ∧ ∃ (id : Nat) (op : Operation) (r : Request),
        .submit id op r ∈ as := by
  cases h with
  | paged k hd _ => exact absurd hd hs
  | sent k _ _ _ => exact .inr ⟨rfl, _, _, _, List.mem_singleton_self _⟩
  | _ => exact .inl rfl

theorem quits_of_change (hs : s.dialogs ≠ []) (h : Change s (.input i) t as) (ha : .quit ∈ as) :
    Quits i := by
  cases h with
  | paged k hd _ => exact absurd hd hs
  | @quit k hk hctrl hc => exact ⟨k, rfl, hk, hctrl, hc⟩
  | _ => simp at ha

theorem no_refresh_of_change (hs : s.dialogs ≠ []) (h : Change s (.input i) t as)
    (targets : List Target) : .refresh targets ∉ as := by
  cases h with
  | paged k hd _ => exact absurd hd hs
  | _ => simp

theorem actions_of_quits (hi : Quits i) {o : Outcome} (h : step s (.input i) = .ok o) :
    o.actions = [.quit] := by
  obtain ⟨k, rfl, hk, hctrl, hc⟩ := hi
  simp only [step, input, if_neg hk, key, hctrl, hc, decide_true, Bool.and_self, if_true] at h
  cases h
  rfl

/-- Whatever the state, dialogs included: with one open, input changes nothing behind it, quits only
as it does everywhere, fetches nothing, and may change places with any view that comes in; the
status message is gone only when a request goes out. Without one, no input sends a request. -/
theorem dialogs_are_modal (s : State) (i : Input) :
    (s.dialogs ≠ [] →
      (∃ o : Outcome,
        step s (.input i) = .ok o ∧
        SameBehind s o.state ∧
        (o.state.statusMessage = s.statusMessage ∨
          o.state.statusMessage = none ∧
            ∃ (id : Nat) (op : Operation) (r : Request), .submit id op r ∈ o.actions) ∧
        (.quit ∈ o.actions ↔ Quits i) ∧
        ∀ targets : List Target, .refresh targets ∉ o.actions) ∧
      ∀ v : View, EitherOrder s (.refreshed v) (.input i)) ∧
    (s.dialogs = [] →
      ∃ o : Outcome,
        step s (.input i) = .ok o ∧
        ∀ (id : Nat) (op : Operation) (r : Request), .submit id op r ∉ o.actions) := by
  obtain ⟨o, ho⟩ := input_ok s i
  have hc := change_of_step ho
  refine ⟨fun hs => ⟨⟨o, ho, ?_, ?_, ⟨?_, ?_⟩, ?_⟩, fun v => ?_⟩,
    fun hs => ⟨o, ho, fun id op r ha => ?_⟩⟩
  · exact sameBehind_of_change hs hc
  · exact status_of_change hs hc
  · exact quits_of_change hs hc
  · intro hi
    rw [actions_of_quits hi ho]
    exact List.mem_singleton_self _
  · exact no_refresh_of_change hs hc
  · exact eitherOrder_input v hs i
  · obtain ⟨d, ds, -, hd, -⟩ := sent_of_change hc ha
    rw [hs] at hd
    cases hd

/-- On a page `q` quits and `r` fetches everything anew; a form takes both as text. -/
theorem dialogs_are_modal_of_letters :
    let page := State.fresh .default "00:00:00"
    let form : State := { page with dialogs := [⟨0, .newCash⟩], nextId := 1 }
    let q : Input := .key (.press (.char 'q'))
    let r : Input := .key (.press (.char 'r'))
    (step page (.input q)).map Outcome.actions = .ok [.quit] ∧
    (step page (.input r)).map Outcome.actions = .ok [.refresh Target.all] ∧
    (∃ o : Outcome, step form (.input q) = .ok o ∧ SameBehind form o.state ∧ .quit ∉ o.actions) ∧
    (∃ o : Outcome, step form (.input r) = .ok o ∧ ∀ ts : List Target, .refresh ts ∉ o.actions) ∧
    EitherOrder form (.refreshed (.marketplace [.blank])) (.input r) ∧
    ∃ o : Outcome, step page (.input q) = .ok o ∧
      ∀ (id : Nat) (op : Operation) (r : Request), .submit id op r ∉ o.actions := by
  intro page form q r
  have hopen : form.dialogs ≠ [] := List.cons_ne_nil _ _
  obtain ⟨⟨o, ho, hbehind, -, hquit, -⟩, -⟩ := (dialogs_are_modal form q).1 hopen
  obtain ⟨⟨o', ho', -, -, -, hrefresh⟩, horder⟩ := (dialogs_are_modal form r).1 hopen
  refine ⟨rfl, rfl, ⟨o, ho, hbehind, fun ha => ?_⟩, ⟨o', ho', hrefresh⟩, horder _,
    (dialogs_are_modal page q).2 rfl⟩
  obtain ⟨k, hk, -, -, hc⟩ := hquit.mp ha
  obtain rfl := Input.key.inj hk
  cases hc

end Session

end PackageMarket
