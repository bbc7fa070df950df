import PackageMarket.Dialog.Dialog
import PackageMarket.Market.Offer
import PackageMarket.Market.View
import PackageMarket.Proofs.Json.Decoded
import PackageMarket.Proofs.Json.Decoder

set_option autoImplicit false

namespace PackageMarket.Market

open Json Decimal Record RecordField

theorem money_restores (depth : Nat) (m : Money) : Money.decoder.Restores (depth + 1) m.json m := by
  refine record_restores rfl
    (.field "unit" rfl (of_restores (Decoder.string_restores m.unit)) <|
      .field "value" rfl (of_restores (Decoder.float_restores m.value)) .nil) ?_ ?_ rfl rfl
  · simp
  · simp [Cell.Commutes]

structure Price.Sound (depth : Nat) (p : Price) : Prop where
  period : ∀ n ∈ p.recurringChargePeriodLength, int64Min ≤ n ∧ n ≤ int64Max
  unit : ∀ v ∈ p.unitOfMeasure, v.AsRead depth ∧ v ≠ .null
  valid : ∀ v ∈ p.validFor, v.AsRead depth ∧ v ≠ .null

theorem Price.Sound.mono {d e : Nat} {p : Price} (h : p.Sound d) (he : d ≤ e) : p.Sound e :=
  ⟨h.period, fun v hv => ⟨(h.unit v hv).1.mono he, (h.unit v hv).2⟩,
    fun v hv => ⟨(h.valid v hv).1.mono he, (h.valid v hv).2⟩⟩

theorem price_gives (depth : Nat) : Price.decoder.Gives (depth + 1) (Price.Sound depth) := by
  refine Decoder.record_gives ⟨nofun, nofun, nofun⟩ ?_
  simp only [Price.fields, List.forall_mem_cons]
  refine ⟨?_, ?_, ?_, ?_, ?_, ?_, ?_, ?_, ?_, ?period, ?_, ?_, ?_, ?unit, ?valid, nofun⟩
  case period =>
    exact of_keeps (Decoder.option_gives Decoder.int64_gives) fun _ _ hx hp =>
      ⟨hx, hp.unit, hp.valid⟩
  case unit => exact of_keeps Decoder.option_any_gives fun _ _ hx hp => ⟨hp.period, hx, hp.valid⟩
  case valid => exact of_keeps Decoder.option_any_gives fun _ _ hx hp => ⟨hp.period, hp.unit, hx⟩
  all_goals exact of_keeps_any fun _ _ hp => ⟨hp.period, hp.unit, hp.valid⟩

theorem price_restores {depth : Nat} {p : Price} (h : p.Sound (depth + 1)) :
    Price.decoder.Restores (depth + 2) p.json p := by
  have text (o : Option String) :
      (Decoder.option .string).Restores (depth + 1) (.ofOption .string o) o :=
    Decoder.ofOption_restores fun s _ => ⟨Decoder.string_restores s, nofun⟩
  have flag (o : Option Bool) : (Decoder.option .bool).Restores (depth + 1) (.ofOption .bool o) o :=
    Decoder.ofOption_restores fun b _ => ⟨Decoder.bool_restores b, nofun⟩
  have rate (o : Option Binary64) :
      (Decoder.option .float).Restores (depth + 1) (.ofOption .float o) o :=
    Decoder.ofOption_restores fun x _ => ⟨Decoder.float_restores x, nofun⟩
  have count {o : Option Int} (ho : ∀ n ∈ o, int64Min ≤ n ∧ n ≤ int64Max) :
      (Decoder.option .int64).Restores (depth + 1) (.ofOption .int o) o :=
    Decoder.ofOption_restores fun n hn => ⟨Decoder.int64_restores (ho n hn).1 (ho n hn).2, nofun⟩
  have any {o : Option Value} (ho : ∀ v ∈ o, v.AsRead (depth + 1) ∧ v ≠ .null) :
      (Decoder.option .any).Restores (depth + 1) (.ofOption (fun v => v) o) o :=
    Decoder.ofOption_restores fun v hv => ⟨Decoder.any_restores (ho v hv).1, (ho v hv).2⟩
  refine record_restores rfl
    (.field "id" rfl (of_restores (text p.id)) <|
      .field "href" rfl (of_restores (text p.href)) <|
      .field "description" rfl (of_restores (text p.description)) <|
      .field "isBundle" rfl (of_restores (flag p.isBundle)) <|
      .field "lastUpdate" rfl (of_restores (text p.lastUpdate)) <|
      .field "lifecycleStatus" rfl (of_restores (text p.lifecycleStatus)) <|
      .field "name" rfl (of_restores (text p.name)) <|
      .field "percentage" rfl (of_restores (rate p.percentage)) <|
      .field "priceType" rfl (of_restores (text p.priceType)) <|
      .field "recurringChargePeriodLength" rfl (of_restores (count h.period)) <|
      .field "recurringChargePeriodType" rfl (of_restores (text p.recurringChargePeriodType)) <|
      .field "version" rfl (of_restores (text p.version)) <|
      .field "price" rfl (of_restores (money_restores depth p.price)) <|
      .field "unitOfMeasure" rfl (of_restores (any h.unit)) <|
      .field "validFor" rfl (of_restores (any h.valid)) .nil) ?_ ?_ rfl rfl
  · simp
  · simp [Cell.Commutes]

theorem kind_restores {depth : Nat} (k : PackageKind) :
    PackageKind.decoder.Restores depth k.json k := by
  cases k <;> exact Decoder.variant_restores (by rfl)

/-- What holds of an offer whose price has been read with so many
brackets allowed behind its own. -/
structure Offer.Sound (depth : Nat) (o : Offer) : Prop where
  linearId : o.linearId.AsRead (depth + 1)
  price : o.poPrice.Sound depth
  author : o.author.AsRead (depth + 1)
  repositoryNode : o.repositoryNode.AsRead (depth + 1)

theorem Offer.Sound.mono {d e : Nat} {o : Offer} (h : o.Sound d) (he : d ≤ e) : o.Sound e :=
  ⟨h.linearId.mono (by omega), h.price.mono he, h.author.mono (by omega),
    h.repositoryNode.mono (by omega)⟩

theorem asRead_null (depth : Nat) : Value.null.AsRead depth := ⟨.null, .null⟩

theorem offer_gives (depth : Nat) : Offer.decoder.Gives (depth + 2) (Offer.Sound depth) := by
  refine Decoder.record_gives
    ⟨asRead_null _, ⟨nofun, nofun, nofun⟩, asRead_null _, asRead_null _⟩ ?_
  simp only [Offer.fields, List.forall_mem_cons]
  refine ⟨?linearId, ?_, ?_, ?_, ?_, ?_, ?_, ?price, ?author, ?repositoryNode, nofun⟩
  case linearId =>
    exact of_keeps Decoder.any_gives fun _ _ hx ho => ⟨hx, ho.price, ho.author, ho.repositoryNode⟩
  case price =>
    exact of_keeps (price_gives depth) fun _ _ hx ho =>
      ⟨ho.linearId, hx, ho.author, ho.repositoryNode⟩
  case author =>
    exact of_keeps Decoder.any_gives fun _ _ hx ho => ⟨ho.linearId, ho.price, hx, ho.repositoryNode⟩
  case repositoryNode =>
    exact of_keeps Decoder.any_gives fun _ _ hx ho => ⟨ho.linearId, ho.price, ho.author, hx⟩
  all_goals exact of_keeps_any fun _ _ ho => ⟨ho.linearId, ho.price, ho.author, ho.repositoryNode⟩

theorem offer_restores {depth : Nat} {o : Offer} (h : o.Sound (depth + 1)) :
    Offer.decoder.Restores (depth + 3) o.json o := by
  have kind :
      (Decoder.option PackageKind.decoder).Restores (depth + 2)
        (.ofOption PackageKind.json o.kind) o.kind :=
    Decoder.ofOption_restores fun k _ => ⟨kind_restores k, nofun⟩
  refine record_restores rfl
    (.field "linearId" rfl (of_restores (Decoder.any_restores h.linearId)) <|
      .field "name" rfl (of_restores (Decoder.string_restores o.name)) <|
      .field "description" rfl (of_restores (Decoder.string_restores o.description)) <|
      .field "version" rfl (of_restores (Decoder.string_restores o.version)) <|
      .field "pkgInfoId" rfl (of_restores (Decoder.string_restores o.pkgInfoId)) <|
      .field "imageLink" rfl (of_restores (Decoder.string_restores o.imageLink)) <|
      .field "pkgType" rfl (of_restores kind) <|
      .field "poPrice" rfl (of_restores (price_restores h.price)) <|
      .field "author" rfl (of_restores (Decoder.any_restores h.author)) <|
      .field "repositoryNode" rfl (of_restores (Decoder.any_restores h.repositoryNode)) .nil)
        ?_ ?_ rfl rfl
  · simp
  · simp [Cell.Commutes]

theorem identity_restores (depth : Nat) (i : Identity) :
    Identity.decoder.Restores (depth + 1) i.json i := by
  refine record_restores rfl (.field "me" rfl (of_restores (Decoder.string_restores i.me)) .nil)
    ?_ ?_ rfl rfl
  · simp
  · simp

structure License.Sound (depth : Nat) (l : License) : Prop where
  pkgLicensed : l.pkgLicensed.AsRead depth
  buyer : l.buyer.AsRead depth

theorem License.Sound.mono {d e : Nat} {l : License} (h : l.Sound d) (he : d ≤ e) : l.Sound e :=
  ⟨h.pkgLicensed.mono he, h.buyer.mono he⟩

theorem license_gives (depth : Nat) : License.decoder.Gives (depth + 1) (License.Sound depth) := by
  refine Decoder.record_gives ⟨asRead_null _, asRead_null _⟩ ?_
  simp only [List.forall_mem_cons]
  refine ⟨?_, ?_, nofun⟩
  · exact of_keeps Decoder.any_gives fun _ _ hx hl => ⟨hx, hl.buyer⟩
  · exact of_keeps Decoder.any_gives fun _ _ hx hl => ⟨hl.pkgLicensed, hx⟩

theorem license_restores {depth : Nat} {l : License} (h : l.Sound depth) :
    License.decoder.Restores (depth + 1) l.json l := by
  refine record_restores rfl
    (.field "pkgLicensed" rfl (of_restores (Decoder.any_restores h.pkgLicensed)) <|
      .field "buyer" rfl (of_restores (Decoder.any_restores h.buyer)) .nil) ?_ ?_ rfl rfl
  · simp
  · simp [Cell.Commutes]

structure FeeAgreement.Sound (depth : Nat) (f : FeeAgreement) : Prop where
  fee : int64Min ≤ f.fee ∧ f.fee ≤ int64Max
  developer : f.developer.AsRead depth
  repositoryNode : f.repositoryNode.AsRead depth

theorem feeAgreement_gives (depth : Nat) :
    FeeAgreement.decoder.Gives (depth + 1) (FeeAgreement.Sound depth) := by
  refine Decoder.record_gives ⟨by decide, asRead_null _, asRead_null _⟩ ?_
  simp only [List.forall_mem_cons]
  refine ⟨?_, ?_, ?_, nofun⟩
  · exact of_keeps Decoder.int64_gives fun _ _ hx hf => ⟨hx, hf.developer, hf.repositoryNode⟩
  · exact of_keeps Decoder.any_gives fun _ _ hx hf => ⟨hf.fee, hx, hf.repositoryNode⟩
  · exact of_keeps Decoder.any_gives fun _ _ hx hf => ⟨hf.fee, hf.developer, hx⟩

theorem feeAgreement_restores {depth : Nat} {f : FeeAgreement} (h : f.Sound depth) :
    FeeAgreement.decoder.Restores (depth + 1) f.json f := by
  refine record_restores rfl
    (.field "fee" rfl (of_restores (Decoder.int64_restores h.fee.1 h.fee.2)) <|
      .field "developer" rfl (of_restores (Decoder.any_restores h.developer)) <|
      .field "repositoryNode" rfl (of_restores (Decoder.any_restores h.repositoryNode)) .nil)
        ?_ ?_ rfl rfl
  · simp
  · simp [Cell.Commutes]

namespace View

def json : View → Value
  | .identity i => i.json
  | .marketplace os | .pkgOffers os => .array (os.map Offer.json)
  | .licenses ls => .array (ls.map License.json)
  | .balances ms => .object ms
  | .feeAgreement f => f.json

def listedOffers : View → List Offer
  | .marketplace os | .pkgOffers os => os
  | _ => []

def listedLicenses : View → List License
  | .licenses ls => ls
  | _ => []

/-- What holds of a view that was decoded. Of the 127 brackets that may be open in a text, its parts
have been read within those that are left for them. -/
def Sound : View → Prop
  | .identity _ => True
  | .marketplace os | .pkgOffers os => ∀ o ∈ os, o.Sound (maxDepth - 3)
  | .licenses ls => ∀ l ∈ ls, l.Sound (maxDepth - 2)
  | .balances ms => (Value.object ms).AsRead maxDepth
  | .feeAgreement f => f.Sound (maxDepth - 1)

theorem sound_of_decode {t : Target} {body : List Char} {v : View} (h : decode t body = .ok v) :
    v.Sound ∧ v.target = t := by
  have hidentity : Identity.decoder.Gives maxDepth fun _ => True := fun _ _ _ => trivial
  have hmembers : Decoder.members.Gives maxDepth fun ms => (Value.object ms).AsRead maxDepth :=
    Decoder.members_gives
  cases t with
  | identity =>
    obtain ⟨i, -, rfl⟩ := hidentity.of_map_decode h
    exact ⟨trivial, rfl⟩
  | marketplace | pkgOffers =>
    obtain ⟨os, hos, rfl⟩ := (Decoder.list_gives (offer_gives (maxDepth - 3))).of_map_decode h
    exact ⟨hos, rfl⟩
  | licenses =>
    obtain ⟨ls, hls, rfl⟩ := (Decoder.list_gives (license_gives (maxDepth - 2))).of_map_decode h
    exact ⟨hls, rfl⟩
  | balances =>
    obtain ⟨ms, hms, rfl⟩ := hmembers.of_map_decode h
    exact ⟨hms, rfl⟩
  | feeAgreement =>
    obtain ⟨f, hf, rfl⟩ := (feeAgreement_gives (maxDepth - 1)).of_map_decode h
    exact ⟨hf, rfl⟩

theorem decode_of_sound {v : View} (h : v.Sound) (hfloats : v.json.FloatsReadBack) :
    decode v.target v.json.compact = .ok v ∧ decode v.target v.json.sorted.pretty = .ok v := by
  have hmap {α : Type} {d : Decoder α} {j : Value} {a : α} (hd : d.Restores maxDepth j a)
      (hj : j.FloatsReadBack) (f : α → View) : (d.decode j.compact).map f = .ok (f a) ∧
        (d.decode j.sorted.pretty).map f = .ok (f a) := by
    rw [(hd.decode hj).1, (hd.decode hj).2]
    exact ⟨rfl, rfl⟩
  cases v with
  | identity i => exact hmap (identity_restores (maxDepth - 1) i) hfloats _
  | marketplace os | pkgOffers os =>
    exact hmap (Decoder.list_restores fun o ho => offer_restores (h o ho)) hfloats _
  | licenses ls =>
    exact hmap (Decoder.list_restores fun l hl => license_restores (h l hl)) hfloats _
  | balances ms => exact hmap (Decoder.members_restores h) hfloats _
  | feeAgreement f => exact hmap (feeAgreement_restores h) hfloats _

end View

/-- What is printed of `a`, on one line or laid out with all members in order, is read again, and as
`a`, of which the same is printed. -/
structure Survives {α : Type} (json : α → Value) (decode : List Char → Except Fault α) (a : α) :
    Prop where
  compact : ∃ b : α, decode (json a).compact = .ok b ∧ b = a ∧ (json b).compact = (json a).compact
  pretty : ∃ b : α,
    decode (json a).sorted.pretty = .ok b ∧ b = a ∧ (json b).sorted.pretty = (json a).sorted.pretty

theorem survives_of_decode {α : Type} {json : α → Value}
    {decode : List Char → Except Fault α} {a : α} (h : decode (json a).compact = .ok a ∧
      decode (json a).sorted.pretty = .ok a) : Survives json decode a :=
  ⟨⟨a, h.1, rfl, rfl⟩, ⟨a, h.2, rfl, rfl⟩⟩

section

variable {v : View}

theorem offer_survives (h : v.Sound) (hfloats : v.json.FloatsReadBack) {o : Offer}
    (ho : o ∈ v.listedOffers) :
    Survives Offer.json Offer.decoder.decode o := by
  have hitem {os : List Offer} (hos : ∀ o ∈ os, o.Sound (maxDepth - 3))
      (hfloats : (Value.array (os.map Offer.json)).FloatsReadBack) (ho : o ∈ os) :
      Survives Offer.json Offer.decoder.decode o := by
    have halone : o.Sound (maxDepth - 2) := (hos o ho).mono (by decide)
    have hback : o.json.FloatsReadBack := fun x hx => hfloats x (.item (List.mem_map_of_mem ho) hx)
    exact survives_of_decode ((offer_restores halone).decode hback)
  cases v with
  | marketplace os | pkgOffers os => exact hitem h hfloats ho
  | _ => cases ho

theorem license_survives (h : v.Sound) (hfloats : v.json.FloatsReadBack) {l : License}
    (hl : l ∈ v.listedLicenses) : Survives License.json License.decoder.decode l := by
  cases v with
  | licenses ls =>
    have halone : l.Sound (maxDepth - 1) := (h l hl).mono (by decide)
    have hback : l.json.FloatsReadBack := fun x hx => hfloats x (.item (List.mem_map_of_mem hl) hx)
    exact survives_of_decode ((license_restores halone).decode hback)
  | _ => cases hl

end

/-- Whatever body a view was decoded from, the view survives being printed, and so does each offer
and each license in it; and the details of an offer are a text that is decoded as the offer. -/
theorem decoded_views_survive_printing {t : Target} {body : List Char} {v : View}
    (h : View.decode t body = .ok v) (hfloats : v.json.FloatsReadBack) :
    Survives View.json (View.decode t) v ∧
    (∀ o ∈ v.listedOffers,
      Survives Offer.json Offer.decoder.decode o ∧
      ∃ text : String,
        Dialog.newDetails o = .details o.name text .top ∧
        Offer.decoder.decode text.toList = .ok o) ∧
    ∀ l ∈ v.listedLicenses, Survives License.json License.decoder.decode l := by
  obtain ⟨hsound, rfl⟩ := View.sound_of_decode h
  refine ⟨survives_of_decode (View.decode_of_sound hsound hfloats), fun o ho => ?_, fun l hl => ?_⟩
  · have hoffer := offer_survives hsound hfloats ho
    refine ⟨hoffer, _, rfl, ?_⟩
    obtain ⟨p, hp, rfl, -⟩ := hoffer.pretty
    rwa [Value.prettyText, String.toList_ofList]
  · exact license_survives hsound hfloats hl

/-- An object with members out of order and one that is not known, a zero with a sign, and an array
in place of an object. -/
theorem decoded_views_survive_printing_of_two :
    ∃ o p : Offer,
      View.decode .pkgOffers
        ("[\x7b\"new\":[],\"poPrice\":\x7b\"price\":[\"EUR\",-0]\x7d,\"linearId\":\x7b\"b\":[1,null],\"a\":2\x7d\x7d,"
          ++ "[\"y\",\"\\u0000\"]]").toList = .ok (.pkgOffers [o, p]) ∧
      o.linearId = .object [("a", .int 2), ("b", .array [.int 1, .null])] ∧ p.name = "\x00" ∧
      Survives View.json (View.decode .pkgOffers) (.pkgOffers [o, p]) ∧
      Survives Offer.json Offer.decoder.decode o ∧ Survives Offer.json Offer.decoder.decode p := by
  obtain ⟨o, ho⟩ : ∃ o : Offer, o = { Offer.blank with
      linearId := .object [("a", .int 2), ("b", .array [.int 1, .null])]
      poPrice := { Price.free with price := ⟨"EUR", ⟨true, 0, Binary64.minExponent⟩⟩ } } := ⟨_, rfl⟩
  obtain ⟨p, hp⟩ : ∃ p : Offer, p = { Offer.blank with linearId := .string "y", name := "\x00" } :=
    ⟨_, rfl⟩
  have hfloats : (View.pkgOffers [o, p]).json.FloatsReadBack := by
    intro x hx
    simp [View.json, ho, hp, Offer.json, Price.json, Money.json, Offer.blank,
      Price.free, Money.none, Value.ofOption, Value.float, Value.int] at hx
    obtain rfl | rfl := hx
    · exact Number.readsBack_zero true
    · exact Number.readsBack_zero false
  have hall {t : Target} {body : List Char} (h : View.decode t body = .ok (.pkgOffers [o, p])) :=
    decoded_views_survive_printing h hfloats
  refine ⟨o, p, ?body, by rw [ho], by rw [hp], (hall ?body).1, ((hall ?body).2.1 o ?_).1,
    ((hall ?body).2.1 p ?_).1⟩
  case body =>
    rw [ho, hp]
    decide +kernel
  all_goals simp [View.listedOffers]

end PackageMarket.Market
