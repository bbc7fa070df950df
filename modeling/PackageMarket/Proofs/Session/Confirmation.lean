import PackageMarket.Proofs.Session.Ids

set_option autoImplicit false

namespace PackageMarket

open Market

namespace Session

variable {s t : State} {e : Event} {as : List Action}

/-- What a dialog that only waits to be confirmed is about, given the event that opened it and the
state which that event met. -/
def ChosenAt (s : State) (e : Event) : Dialog → Prop
  | .buyPkg p =>
    (∃ k : Key, e = .input (.key k)) ∧ s.page = .marketplace ∧
      ∃ o : Offer, s.selectedOffer? = some o ∧ p = .ofOffer o
  | .deletePkg r =>
    (∃ k : Key, e = .input (.key k)) ∧ s.page = .developer ∧
      ∃ o : Offer, s.selectedOffer? = some o ∧ r = .ofOffer o
  | _ => True

def Turn.Opens (u : Turn) (id : Nat) : Prop := id ∉ u.before.openIds ∧ id ∈ u.after.openIds

/-- The dialog of an id is about what it was opened for. -/
structure Faithful (u : Turn) (id : Nat) (r : State) : Prop where
  given : id < r.nextId
  chosen : ∀ d ∈ r.dialogs, d.id = id → ChosenAt u.before u.event d.dialog

end Session

end PackageMarket
