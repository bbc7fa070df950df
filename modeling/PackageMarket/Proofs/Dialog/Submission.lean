import PackageMarket.Dialog.Dialog
import PackageMarket.Proofs.Form.Complaint
import PackageMarket.Proofs.Json.Syntax

set_option autoImplicit false

namespace PackageMarket.Dialog

open Market

variable {d after : Dialog} {x : Draft}

theorem submitDraft_of_ok {v : Json.Value} (h : Json.Value.ofText x.editor.text = .ok v) :
    submitDraft x = .ok (.send (.withBody x.operation.endpoint v)) := by
  rw [submitDraft, h]

theorem submitDraft_of_error {f : Json.Fault} (h : Json.Value.ofText x.editor.text = .error f) :
    submitDraft x = .ok (.tell (.ofFault f x.editor.text)) := by
  simp only [submitDraft, h, if_neg (Json.ofText_syntactic _ f h)]

theorem submitDraft_ok (x : Draft) : ∃ y : Submission, submitDraft x = .ok y := by
  cases h : Json.Value.ofText x.editor.text with
  | ok v => exact ⟨_, submitDraft_of_ok h⟩
  | error f => exact ⟨_, submitDraft_of_error h⟩

theorem submit_of_draft (h : d.draft? = some x) :
    d.submit = (submitDraft x).map fun y => (d, y) := by
  cases d <;> cases h <;> rfl

theorem operation?_of_draft (h : d.draft? = some x) :
    d.operation? = some .registerPkg ∨ d.operation? = some .updatePkg := by
  cases d <;> cases h <;> simp [operation?]

/-- A draft is told from the other dialogs by its operation. -/
theorem draft_of_operation? {op : Operation} (h : d.operation? = some op)
    (hop : op = .registerPkg ∨ op = .updatePkg) : ∃ x : Draft, d.draft? = some x := by
  cases d with
  | registerPkg x | updatePkg x => exact ⟨x, rfl⟩
  | _ => cases h <;> simp at hop

theorem draft_of_send {r : Request} (hx : d.draft? = some x) (h : d.submit = .ok (after, .send r)) :
    ∃ v : Json.Value,
      Json.Value.ofText x.editor.text = .ok v ∧ r = .withBody x.operation.endpoint v := by
  rw [submit_of_draft hx] at h
  cases ht : Json.Value.ofText x.editor.text with
  | ok v =>
    rw [submitDraft_of_ok ht] at h
    cases h
    exact ⟨v, rfl, rfl⟩
  | error f =>
    rw [submitDraft_of_error ht] at h
    cases h

theorem fault_of_tell {m : Message} (hx : d.draft? = some x) (h : d.submit = .ok (after, .tell m)) :
    ∃ f : Json.Fault,
      Json.Value.ofText x.editor.text = .error f ∧ m = .ofFault f x.editor.text := by
  rw [submit_of_draft hx] at h
  cases ht : Json.Value.ofText x.editor.text with
  | ok v =>
    rw [submitDraft_of_ok ht] at h
    cases h
  | error f =>
    rw [submitDraft_of_error ht] at h
    cases h
    exact ⟨f, rfl, rfl⟩

theorem submitForm_ne_tell {rules : List FieldRule} {request : Form → Submission} {f : Form}
    (h : ∀ (f : Form) (m : Message), request f ≠ .tell m) (m : Message) :
    (submitForm rules request f).2 ≠ .tell m := by
  simp only [submitForm]
  split
  · simp
  · exact h _ m

theorem cashRequest_ne_tell (f : Form) (m : Message) : cashRequest f ≠ .tell m := by
  unfold cashRequest
  split <;> simp

theorem feeRequest_ne_tell (f : Form) (m : Message) : feeRequest f ≠ .tell m := by
  unfold feeRequest
  split <;> simp

/-- Only a draft gives way to a message. -/
theorem draft_of_tell {m : Message} (h : d.submit = .ok (after, .tell m)) :
    ∃ x : Draft, d.draft? = some x := by
  cases d with
  | registerPkg x | updatePkg x => exact ⟨x, rfl⟩
  | selfIssueCash f =>
    cases hs : (submitForm cashRules cashRequest f).2 with
    | tell m => exact absurd hs (submitForm_ne_tell cashRequest_ne_tell m)
    | _ => simp [submit, hs] at h
  | feeAgreement f =>
    cases hs : (submitForm feeRules feeRequest f).2 with
    | tell m => exact absurd hs (submitForm_ne_tell feeRequest_ne_tell m)
    | _ => simp [submit, hs] at h
  | _ => cases h

end PackageMarket.Dialog

namespace PackageMarket

open Market Decimal

namespace Form

/-- An amount and a currency that may be sent. -/
structure HasCash (f : Form) (amount : Nat) : Prop where
  numeral : Numeral (f.value "amount") amount
  pos : 1 ≤ amount
  le_max : (amount : Int) ≤ int64Max
  currency : (f.value "currency").length = 3

structure HasFee (f : Form) (fee : Nat) : Prop where
  numeral : Numeral (f.value "maxAcceptableFee") fee
  le : fee ≤ 100

variable {f : Form}

theorem cashRules_hold_iff :
    (∀ r ∈ Dialog.cashRules, f.Holds r) ↔ ∃ amount : Nat, f.HasCash amount := by
  simp only [Dialog.cashRules, Rule.positiveInteger, List.forall_mem_cons, List.not_mem_nil,
    Holds, Rule.Holds]
  constructor
  · rintro ⟨⟨n, hn, hmin, hmax⟩, hlength, -⟩
    obtain ⟨amount, rfl⟩ := Int.eq_ofNat_of_zero_le (by omega : 0 ≤ n)
    exact ⟨amount, hn.numeral, by omega, hmax, hlength⟩
  · rintro ⟨amount, hnumeral, hpos, hmax, hlength⟩
    have hmin : int64Min ≤ (amount : Int) := by
      rw [int64Min]
      omega
    exact ⟨⟨amount, ⟨hnumeral, hmin, hmax⟩, by omega, hmax⟩, hlength, by simp⟩

theorem feeRules_hold_iff : (∀ r ∈ Dialog.feeRules, f.Holds r) ↔ ∃ fee : Nat, f.HasFee fee := by
  simp only [Dialog.feeRules, List.forall_mem_singleton, Holds, Rule.Holds]
  constructor
  · rintro ⟨n, hn, hmin, hmax⟩
    obtain ⟨fee, rfl⟩ := Int.eq_ofNat_of_zero_le hmin
    exact ⟨fee, hn.numeral, by omega⟩
  · rintro ⟨fee, hnumeral, hle⟩
    have hmin : int64Min ≤ (fee : Int) := by
      rw [int64Min]
      omega
    have hmax : (fee : Int) ≤ int64Max := by
      rw [int64Max]
      omega
    exact ⟨fee, ⟨hnumeral, hmin, hmax⟩, by omega, by omega⟩

end Form

namespace Dialog

variable {f : Form} {rules : List FieldRule} {request : Form → Submission}

theorem submitForm_of_holds (h : ∀ r ∈ rules, f.Holds r) :
    submitForm rules request f = (f.validate rules, request (f.validate rules)) := by
  simp [submitForm, (f.hasErrors_validate_iff rules).mpr h]

theorem submitForm_of_broken (h : ¬∀ r ∈ rules, f.Holds r) :
    submitForm rules request f =
      ({ f with hasErrors := true, errors := f.violations rules }, .refused) := by
  simp [submitForm, (f.validate_of_broken h).2]

theorem submit_of_hasCash {amount : Nat} (h : f.HasCash amount) :
    (selfIssueCash f).submit =
      .ok (.selfIssueCash (f.validate cashRules),
        .send ⟨.selfIssueCash,
          [("amount", toString amount), ("currency", String.ofList (f.value "currency"))],
          none⟩) := by
  have hread : (f.validate cashRules).integer? "amount" = some (amount : Int) :=
    int64?_eq_some_iff.mpr ⟨h.numeral, by rw [int64Min]; omega, h.le_max⟩
  rw [submit, submitForm_of_holds (Form.cashRules_hold_iff.mpr ⟨amount, h⟩), cashRequest, hread]
  rfl

theorem submit_of_hasFee {fee : Nat} (h : f.HasFee fee) :
    (feeAgreement f).submit =
      .ok (.feeAgreement (f.validate feeRules),
        .send ⟨.establishFeeAgreement, [("maxAcceptableFee", toString fee)], none⟩) := by
  have hle := h.le
  have hread : (f.validate feeRules).integer? "maxAcceptableFee" = some (fee : Int) :=
    int64?_eq_some_iff.mpr ⟨h.numeral, by rw [int64Min]; omega, by rw [int64Max]; omega⟩
  rw [submit, submitForm_of_holds (Form.feeRules_hold_iff.mpr ⟨fee, h⟩), feeRequest, hread]
  rfl

theorem hasCash_of_send {after : Dialog} {r : Request}
    (h : (selfIssueCash f).submit = .ok (after, .send r)) :
    ∃ amount : Nat, f.HasCash amount ∧
      r = ⟨.selfIssueCash,
        [("amount", toString amount), ("currency", String.ofList (f.value "currency"))], none⟩ := by
  by_cases hholds : ∀ r ∈ cashRules, f.Holds r
  · obtain ⟨amount, hcash⟩ := Form.cashRules_hold_iff.mp hholds
    rw [submit_of_hasCash hcash] at h
    cases h
    exact ⟨amount, hcash, rfl⟩
  · rw [submit, submitForm_of_broken hholds] at h
    cases h

theorem hasFee_of_send {after : Dialog} {r : Request}
    (h : (feeAgreement f).submit = .ok (after, .send r)) :
    ∃ fee : Nat, f.HasFee fee ∧
      r = ⟨.establishFeeAgreement, [("maxAcceptableFee", toString fee)], none⟩ := by
  by_cases hholds : ∀ r ∈ feeRules, f.Holds r
  · obtain ⟨fee, hfee⟩ := Form.feeRules_hold_iff.mp hholds
    rw [submit_of_hasFee hfee] at h
    cases h
    exact ⟨fee, hfee, rfl⟩
  · rw [submit, submitForm_of_broken hholds] at h
    cases h

end Dialog

end PackageMarket
