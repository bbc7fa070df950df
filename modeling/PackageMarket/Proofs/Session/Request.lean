import PackageMarket.Proofs.Dialog.Submission
import PackageMarket.Proofs.Session.Stack

set_option autoImplicit false

/-!
Requests as the backend expects them. A draft is sent to the endpoint of its own operation, so it
matters that this is the operation of the dialog that holds the draft.
-/

namespace PackageMarket

open Market Decimal

/-- What a request for an operation looks like. -/
inductive Market.Conforms : Operation → Request → Prop where
  | selfIssueCash {amount : Nat} {currency : String} : 1 ≤ amount → currency.length = 3 →
      Conforms .selfIssueCash
        ⟨.selfIssueCash, [("amount", toString amount), ("currency", currency)], none⟩
  | establishFeeAgreement {fee : Nat} : fee ≤ 100 →
      Conforms .establishFeeAgreement
        ⟨.establishFeeAgreement, [("maxAcceptableFee", toString fee)], none⟩
  | buyPkg (linearId pkgInfoId pkgType price : Json.Value) :
      Conforms .buyPkg
        ⟨.buyPkg, [],
          some (.object
            [("linearId", linearId), ("pkgInfoId", pkgInfoId), ("pkgType", pkgType),
              ("price", price)])⟩
  | registerPkg (v : Json.Value) : Conforms .registerPkg ⟨.registerPkg, [], some v⟩
  | updatePkg (v : Json.Value) : Conforms .updatePkg ⟨.updatePkg, [], some v⟩
  | deletePkg (v : Json.Value) : Conforms .deletePkg ⟨.deletePkg, [], some v⟩

theorem Market.Conforms.endpoint_eq {op : Operation} {r : Request} (h : Conforms op r) :
    r.endpoint = op.endpoint := by
  cases h <;> rfl

theorem Market.Operation.method_endpoint (op : Operation) :
    op.endpoint.method = .post ∨ op.endpoint.method = .put := by
  cases op <;> decide

namespace Dialog

def Agrees (d : Dialog) : Prop := ∀ x : Draft, d.draft? = some x → d.operation? = some x.operation

theorem agrees_of_draft?_eq_none {d : Dialog} (h : d.draft? = none) : d.Agrees := by
  intro x hx
  rw [h] at hx
  cases hx

theorem conforms_of_send {d after : Dialog} {op : Operation} {r : Request} (hd : d.Agrees)
    (h : d.submit = .ok (after, .send r)) (hop : d.operation? = some op) : Conforms op r := by
  cases d with
  | selfIssueCash f =>
    cases hop
    obtain ⟨amount, hcash, rfl⟩ := hasCash_of_send h
    exact .selfIssueCash hcash.pos (by rw [String.length_ofList, hcash.currency])
  | feeAgreement f =>
    cases hop
    obtain ⟨fee, hfee, rfl⟩ := hasFee_of_send h
    exact .establishFeeAgreement hfee.le
  | buyPkg p =>
    cases hop
    cases h
    exact .buyPkg _ _ _ _
  | deletePkg x =>
    cases hop
    cases h
    exact .deletePkg _
  | registerPkg x =>
    obtain ⟨v, -, rfl⟩ := draft_of_send rfl h
    cases hop
    rw [← Option.some.inj (hd x rfl)]
    exact .registerPkg v
  | updatePkg x =>
    obtain ⟨v, -, rfl⟩ := draft_of_send rfl h
    cases hop
    rw [← Option.some.inj (hd x rfl)]
    exact .updatePkg v
  | details name text v => cases hop
  | message title m v => cases hop

end Dialog

namespace Session

variable {s : State}

theorem Revised.agrees {d d' : Dialog} (h : Revised d d') (hd : d.Agrees) : d'.Agrees := by
  cases h with
  | registerPkg op e f | updatePkg op e f =>
    intro x hx
    cases hx
    exact hd ⟨op, e⟩ rfl
  | _ => exact Dialog.agrees_of_draft?_eq_none rfl

theorem agrees_of_opening {code : KeyCode} {d : Dialog} (h : Opening s code d) : d.Agrees := by
  cases h with
  | register _ | update _ =>
    intro x hx
    cases hx
    rfl
  | _ => exact Dialog.agrees_of_draft?_eq_none rfl

theorem lasting_agrees : Lasting Dialog.Agrees where
  opening := agrees_of_opening
  message _ _ := Dialog.agrees_of_draft?_eq_none rfl
  edit he hd := (Revised.of_edit he _).agrees hd

def AllAgree (s : State) : Prop := ∀ d ∈ s.dialogs, d.dialog.Agrees

theorem allAgree_of_initial {now : Clock.Moment} {settings : Settings}
    (h : State.initial now settings = some s) : AllAgree s := by
  obtain ⟨clock, -, rfl⟩ := s.initial_eq_some_iff.mp h
  exact fun d hd => absurd hd List.not_mem_nil

theorem Run.allAgree {ts : List Turn} (h : Run s ts) (hs : AllAgree s) :
    ∀ r ∈ states s ts, AllAgree r :=
  h.forall_dialogs lasting_agrees hs

/-- Whatever the events: every request goes to the endpoint of its operation, by `POST` or `PUT`,
and has the query or the body that the operation calls for. -/
theorem requests_conform {now : Clock.Moment} {settings : Settings}
    (h : State.initial now settings = some s) (es : List Event) :
    ∃ ts : List Turn,
      run s es = .ok ts ∧
      ∀ t ∈ ts, ∀ (id : Nat) (op : Operation) (r : Request), .submit id op r ∈ t.actions →
        r.endpoint = op.endpoint ∧ (r.method = .post ∨ r.method = .put) ∧ Conforms op r := by
  obtain ⟨ts, hts, -⟩ := run_ok (shows_of_initial h).1 es
  have hr := run_of_eq_ok hts
  refine ⟨ts, hts, fun t ht id op r ha => ?_⟩
  obtain ⟨d, ds, after, hd, -, hsend, hop, -⟩ := sent_of_change (hr.change ht) ha
  have hagree := hr.allAgree (allAgree_of_initial h) t.before (hr.before_mem_states ht)
  have hconf := Dialog.conforms_of_send (hagree d (hd ▸ List.mem_cons_self)) hsend hop
  refine ⟨hconf.endpoint_eq, ?_, hconf⟩
  rw [Request.method, hconf.endpoint_eq]
  exact op.method_endpoint

/-- Cash, a fee and a removal, one after the other. -/
theorem requests_conform_of_three :
    let s := State.fresh .default "00:00:00"
    let press (c : KeyCode) : Event := .input (.key (.press c))
    let es : List Event :=
      .refreshed (.pkgOffers [{ Offer.blank with linearId := .string "L1" }]) ::
        [.char 'i', .char '0', .char '7', .tab, .char 'E', .char 'U', .char 'R', .enter,
          .function 2, .char 'f', .char '9', .enter, .delete, .enter].map press
    let cash : Request := ⟨.selfIssueCash, [("amount", "7"), ("currency", "EUR")], none⟩
    let fee : Request := ⟨.establishFeeAgreement, [("maxAcceptableFee", "9")], none⟩
    let removal : Request := ⟨.deletePkg, [], some (.string "L1")⟩
    State.initial (fun _ => ['0', '0']) .default = some s ∧
    ∃ ts : List Turn,
      run s es = .ok ts ∧
      ts.flatMap Turn.actions =
        [.submit 0 .selfIssueCash cash, .submit 1 .establishFeeAgreement fee,
          .submit 2 .deletePkg removal] ∧
      Conforms .selfIssueCash cash ∧ Conforms .establishFeeAgreement fee ∧
      Conforms .deletePkg removal := by
  intro s press es cash fee removal
  have h := State.initial_default
  have hactions : (run s es).map (fun ts => ts.flatMap Turn.actions) =
      .ok [.submit 0 .selfIssueCash cash, .submit 1 .establishFeeAgreement fee,
        .submit 2 .deletePkg removal] := rfl
  obtain ⟨ts, hts, hall⟩ := requests_conform h es
  rw [hts] at hactions
  have hactions := Except.ok.inj hactions
  have hconf (id : Nat) (op : Operation) (r : Request)
      (ha : .submit id op r ∈ ts.flatMap Turn.actions) :
      Conforms op r := by
    obtain ⟨t, ht, ha⟩ := List.mem_flatMap.mp ha
    exact (hall t ht id op r ha).2.2
  refine ⟨h, ts, hts, hactions, hconf 0 _ _ ?_, hconf 1 _ _ ?_, hconf 2 _ _ ?_⟩
  all_goals simp [hactions]

end Session

end PackageMarket
