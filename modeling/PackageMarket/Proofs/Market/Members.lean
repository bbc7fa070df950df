import PackageMarket.Market.Offer
import PackageMarket.Market.View
import PackageMarket.Proofs.Json.Agreement
import PackageMarket.Proofs.Json.Fields

set_option autoImplicit false

namespace PackageMarket.Market

open Json Decimal RecordField

section

variable {depth : Nat} {ms : List Member}

end

theorem money_agrees : Money.decoder.Agrees :=
  Decoder.record_agrees (by
    simp [Money.fields, of_agrees, Decoder.string_faithful.agrees, Decoder.float_faithful.agrees])

theorem price_agrees : Price.decoder.Agrees := by
  have text : (Decoder.option .string).Agrees :=
    Decoder.option_faithful Decoder.string_faithful |>.agrees
  have flag : (Decoder.option .bool).Agrees :=
    Decoder.option_faithful Decoder.bool_faithful |>.agrees
  have rate : (Decoder.option .float).Agrees :=
    Decoder.option_faithful Decoder.float_faithful |>.agrees
  have count : (Decoder.option .int64).Agrees :=
    Decoder.option_faithful Decoder.int64_faithful |>.agrees
  have value : (Decoder.option .any).Agrees :=
    Decoder.option_faithful Decoder.any_faithful |>.agrees
  refine Decoder.record_agrees ?_
  simp [Price.fields, of_agrees, text, flag, rate, count, value, money_agrees]

theorem offer_agrees : Offer.decoder.Agrees := by
  have text : Decoder.string.Agrees := Decoder.string_faithful.agrees
  have value : Decoder.any.Agrees := Decoder.any_faithful.agrees
  have kind : (Decoder.option PackageKind.decoder).Agrees :=
    Decoder.option_agrees (Decoder.variant_agrees _)
  refine Decoder.record_agrees ?_
  simp [Offer.fields, of_agrees, text, value, kind, price_agrees]

/-- What a license is for: the data of a state, or all there is where there is no such data. -/
inductive License.For (l : License) : Value → Prop where
  | enveloped {state v : Value} : l.pkgLicensed.get? "state" = some state →
      state.get? "data" = some v → l.For v
  | bare : (∀ state, l.pkgLicensed.get? "state" = some state → state.get? "data" = none) →
      l.For l.pkgLicensed

theorem License.for_of_no_state {l : License} (h : l.pkgLicensed.get? "state" = none) :
    l.For l.pkgLicensed :=
  .bare fun state hstate => by cases h.symm.trans hstate

theorem License.For.payload_eq {l : License} {v : Value} (h : l.For v) : l.payload = v := by
  cases h with
  | enveloped hstate hdata =>
    simp only [License.payload, hstate, hdata, Option.bind_some, Option.getD_some]
  | bare h =>
    have hnone : (l.pkgLicensed.get? "state").bind (·.get? "data") = none :=
      Option.bind_eq_none_iff.mpr h
    simp only [License.payload, hnone, Option.getD_none]

/-- A license holds the offer that the text of its payload decodes to, and none if that is refused
or the payload is no object. -/
theorem licensed_offers_are_the_decoded_ones :
    (∀ (l : License) (v : Value), l.For v → v.isObject → v.AsRead maxDepth → v.FloatsReadBack →
      (∀ o, l.offer = some o ↔ Offer.decoder.decode v.compact = .ok o) ∧
      (l.offer = none ↔ ∃ f, Offer.decoder.decode v.compact = .error f)) ∧
    ∀ (l : License) (v : Value), l.For v → ¬v.isObject → l.offer = none := by
  constructor
  · intro l v hfor hobject hread hfloats
    have hoffer : l.offer = Offer.decoder.value v := by
      rw [License.offer, hfor.payload_eq, if_pos hobject]
    have hspelled := Value.spelled_compact (hread.within.readsBack hfloats)
    have hdecode (o : Offer) := offer_agrees.decode hread.ordered hspelled (a := o)
    rw [hoffer]
    refine ⟨fun o => (hdecode o).symm, ?_⟩
    cases h : Offer.decoder.decode v.compact with
    | ok o =>
      rw [(hdecode o).mp h]
      exact iff_of_false (by simp) (by simp)
    | error f =>
      refine iff_of_true (Option.eq_none_iff_forall_ne_some.mpr fun o ho => ?_) ⟨f, rfl⟩
      cases h.symm.trans ((hdecode o).mpr ho)
  · intro l v hfor hobject
    rw [License.offer, hfor.payload_eq, if_neg hobject]

/-- An offer in an envelope, its kind an object of one member and its price an array; one of an
unknown kind; and no object at all. -/
theorem licensed_offers_are_the_decoded_ones_of_three :
    let v : Value := .object [("name", .string "A"), ("pkgType", .object [("VNF", .null)]),
      ("poPrice", .object [("price", .array [.string "EUR"])])]
    let w : Value := .object [("name", .string "A"), ("pkgType", .string "CNF")]
    let l : License := ⟨.object [("ref", .null), ("state", .object [("data", v)])], .null⟩
    (∃ o, l.offer = some o ∧ Offer.decoder.decode v.compact = .ok o ∧ o.kind = some .vnf ∧
      o.price.unit = "EUR") ∧
      ((License.mk w .null).offer = none ∧ ∃ f, Offer.decoder.decode w.compact = .error f) ∧
      (License.mk (.string "A") .null).offer = none := by
  intro v w l
  have hoffer : l.offer = some { Offer.blank with
      name := "A", kind := some .vnf, poPrice :=
        { Price.free with price := { Money.none with unit := "EUR" } } } := by
    decide +kernel
  have hbare : (License.mk w .null).offer = none := by decide +kernel
  have hv : v.AsRead maxDepth := asRead_of_ofText (s := v.compact) (by decide +kernel)
  have hw : w.AsRead maxDepth := asRead_of_ofText (s := w.compact) (by decide +kernel)
  have hfloats : v.FloatsReadBack ∧ w.FloatsReadBack := by simp [Value.FloatsReadBack, v, w]
  obtain ⟨hsome, -⟩ :=
    licensed_offers_are_the_decoded_ones.1 l v (.enveloped rfl rfl) rfl hv hfloats.1
  obtain ⟨-, hnone⟩ := licensed_offers_are_the_decoded_ones.1 ⟨w, .null⟩ w
    (License.for_of_no_state rfl) rfl hw hfloats.2
  exact ⟨⟨_, hoffer, (hsome _).mp hoffer, rfl, rfl⟩, ⟨hbare, hnone.mp hbare⟩,
    licensed_offers_are_the_decoded_ones.2 _ _ (License.for_of_no_state rfl) (by decide)⟩

end PackageMarket.Market
