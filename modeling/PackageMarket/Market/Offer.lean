import PackageMarket.Json.Decoder
import PackageMarket.Json.Value

set_option autoImplicit false

/-!
Packages on offer. Every field has a default, and what the backend owns (linear ids, parties) stays
as it came, to be sent back unchanged.
-/

namespace PackageMarket.Market

open Json

def labelWith (ofMembers : List (String × Value) → String) : Value → String
  | .string s => s
  | .object ms => ofMembers ms
  | .null => ""
  | v => v.compactText

def stringMember (name : String) (ms : List (String × Value)) : Option String :=
  (Value.lookup name ms).bind Value.string?

/-- A linear id is a string, or an object whose external id, if it has one, goes before its own. -/
def linearIdLabel : Value → String :=
  labelWith fun ms =>
    let id := (stringMember "id" ms).getD ""
    match stringMember "externalId" ms with
    | some external => external ++ "_" ++ id
    | none => id

def partyName : Value → String :=
  labelWith fun ms => (stringMember "name" ms).getD (Value.object ms).compactText

/-- An amount of an object with quantity and token; any other value but
a string is shown as it is. -/
def balanceLabel : Value → String
  | .string s => s
  | .object ms =>
    match Value.lookup "quantity" ms, stringMember "token" ms with
    | some quantity, some token => quantity.compactText ++ " " ++ token
    | _, _ => (Value.object ms).compactText
  | v => v.compactText

open Decimal

inductive PackageKind where
  | vnf
  | pnf
  deriving DecidableEq, Repr

namespace PackageKind

def name : PackageKind → String
  | .vnf => "VNF"
  | .pnf => "PNF"

def json (k : PackageKind) : Value := .string k.name

def decoder : Decoder PackageKind := .variant [("VNF", .vnf), ("PNF", .pnf)]

end PackageKind

structure Money where
  unit : String
  value : Binary64
  deriving DecidableEq, Repr

namespace Money

def none : Money := ⟨"", .zero⟩

def display (m : Money) : String := String.ofList (m.value.fixed 2) ++ " " ++ m.unit

def json (m : Money) : Value := .object [("unit", .string m.unit), ("value", .float m.value)]

def fields : List (RecordField Money) :=
  [.of "unit" .string fun u m => { m with unit := u },
   .of "value" .float fun x m => { m with value := x }]

def decoder : Decoder Money := .record "Money" none fields

end Money

structure Price where
  id : Option String
  href : Option String
  description : Option String
  isBundle : Option Bool
  lastUpdate : Option String
  lifecycleStatus : Option String
  name : Option String
  percentage : Option Binary64
  priceType : Option String
  recurringChargePeriodLength : Option Int
  recurringChargePeriodType : Option String
  version : Option String
  price : Money
  unitOfMeasure : Option Value
  validFor : Option Value
  deriving DecidableEq, Repr

namespace Price

def free : Price :=
  ⟨none, none, none, none, none, none, none, none, none, none, none, none, Money.none, none, none⟩

def json (p : Price) : Value :=
  let text := Value.ofOption .string
  .object
    [("id", text p.id), ("href", text p.href), ("description", text p.description),
     ("isBundle", .ofOption .bool p.isBundle), ("lastUpdate", text p.lastUpdate),
     ("lifecycleStatus", text p.lifecycleStatus), ("name", text p.name),
     ("percentage", .ofOption .float p.percentage), ("priceType", text p.priceType),
     ("recurringChargePeriodLength", .ofOption .int p.recurringChargePeriodLength),
     ("recurringChargePeriodType", text p.recurringChargePeriodType), ("version", text p.version),
     ("price", p.price.json), ("unitOfMeasure", .ofOption (fun v => v) p.unitOfMeasure),
     ("validFor", .ofOption (fun v => v) p.validFor)]

def fields : List (RecordField Price) :=
  [.of "id" (.option .string) fun x p => { p with id := x },
   .of "href" (.option .string) fun x p => { p with href := x },
   .of "description" (.option .string) fun x p => { p with description := x },
   .of "isBundle" (.option .bool) fun x p => { p with isBundle := x },
   .of "lastUpdate" (.option .string) fun x p => { p with lastUpdate := x },
   .of "lifecycleStatus" (.option .string) fun x p => { p with lifecycleStatus := x },
   .of "name" (.option .string) fun x p => { p with name := x },
   .of "percentage" (.option .float) fun x p => { p with percentage := x },
   .of "priceType" (.option .string) fun x p => { p with priceType := x },
   .of "recurringChargePeriodLength" (.option .int64) fun x p =>
     { p with recurringChargePeriodLength := x },
   .of "recurringChargePeriodType" (.option .string) fun x p =>
     { p with recurringChargePeriodType := x },
   .of "version" (.option .string) fun x p => { p with version := x },
   .of "price" Money.decoder fun x p => { p with price := x },
   .of "unitOfMeasure" (.option .any) fun x p => { p with unitOfMeasure := x },
   .of "validFor" (.option .any) fun x p => { p with validFor := x }]

def decoder : Decoder Price := .record "ProductOfferingPrice" free fields

end Price

structure Offer where
  linearId : Value
  name : String
  description : String
  version : String
  pkgInfoId : String
  imageLink : String
  kind : Option PackageKind
  poPrice : Price
  author : Value
  repositoryNode : Value
  deriving DecidableEq, Repr

namespace Offer

def blank : Offer := ⟨.null, "", "", "", "", "", none, .free, .null, .null⟩

def price (o : Offer) : Money := o.poPrice.price

def authorName (o : Offer) : String := partyName o.author

def json (o : Offer) : Value :=
  .object
    [("linearId", o.linearId), ("name", .string o.name), ("description", .string o.description),
     ("version", .string o.version), ("pkgInfoId", .string o.pkgInfoId),
     ("imageLink", .string o.imageLink), ("pkgType", .ofOption PackageKind.json o.kind),
     ("poPrice", o.poPrice.json), ("author", o.author), ("repositoryNode", o.repositoryNode)]

def fields : List (RecordField Offer) :=
  [.of "linearId" .any fun x o => { o with linearId := x },
   .of "name" .string fun x o => { o with name := x },
   .of "description" .string fun x o => { o with description := x },
   .of "version" .string fun x o => { o with version := x },
   .of "pkgInfoId" .string fun x o => { o with pkgInfoId := x },
   .of "imageLink" .string fun x o => { o with imageLink := x },
   .of "pkgType" (.option PackageKind.decoder) fun x o => { o with kind := x },
   .of "poPrice" Price.decoder fun x o => { o with poPrice := x },
   .of "author" .any fun x o => { o with author := x },
   .of "repositoryNode" .any fun x o => { o with repositoryNode := x }]

def decoder : Decoder Offer := .record "PkgOffer" blank fields

end Offer

structure License where
  pkgLicensed : Value
  buyer : Value
  deriving DecidableEq, Repr

namespace License

def json (l : License) : Value := .object [("pkgLicensed", l.pkgLicensed), ("buyer", l.buyer)]

def decoder : Decoder License :=
  .record "PkgLicense" ⟨.null, .null⟩
    [.of "pkgLicensed" .any fun x l => { l with pkgLicensed := x },
     .of "buyer" .any fun x l => { l with buyer := x }]

/-- The licensed offer may lie in an envelope of a state with data. -/
def payload (l : License) : Value :=
  ((l.pkgLicensed.get? "state").bind (·.get? "data")).getD l.pkgLicensed

def offer (l : License) : Option Offer :=
  if l.payload.isObject then Offer.decoder.value l.payload else none

end License

abbrev Balances := List (String × Value)

structure FeeAgreement where
  fee : Int
  developer : Value
  repositoryNode : Value
  deriving DecidableEq, Repr

namespace FeeAgreement

def json (f : FeeAgreement) : Value :=
  .object [("fee", .int f.fee), ("developer", f.developer), ("repositoryNode", f.repositoryNode)]

def decoder : Decoder FeeAgreement :=
  .record "FeeAgreement" ⟨0, .null, .null⟩
    [.of "fee" .int64 fun x f => { f with fee := x },
     .of "developer" .any fun x f => { f with developer := x },
     .of "repositoryNode" .any fun x f => { f with repositoryNode := x }]

end FeeAgreement
end PackageMarket.Market
