import PackageMarket.Json.Decoder
import PackageMarket.Json.Value
import PackageMarket.Market.Offer
import PackageMarket.Text.Basic

set_option autoImplicit false

namespace PackageMarket.Market

open Text

structure Identity where
  me : String
  deriving DecidableEq, Repr

inductive Role where
  | buyer
  | repositoryNode
  | other
  deriving DecidableEq, Repr

def organisationOf : List Char → Option (List Char)
  | 'O' :: '=' :: s => some s
  | _ => none

/-- The organisation of a name: what the first component with one says,
without the blanks around it. -/
def organisation (name : List Char) : Option (List Char) :=
  ((splitOn ',' name).map trim).findSome? organisationOf |>.map trim

def roleOf (name : List Char) : Role :=
  match organisation name with
  | some o =>
    if o = "Buyer".toList then .buyer
    else if o = "RepositoryNode".toList then .repositoryNode
    else .other
  | none => .other

namespace Identity

def organisation (i : Identity) : Option String :=
  (Market.organisation i.me.toList).map String.ofList

def role (i : Identity) : Role := roleOf i.me.toList

def json (i : Identity) : Json.Value := .object [("me", .string i.me)]

def decoder : Json.Decoder Identity :=
  .record "Identity" ⟨""⟩ [.of "me" .string fun s i => { i with me := s }]

end Identity

inductive Endpoint where
  | me
  | marketplace
  | buyPkg
  | pkgLicenseState
  | cashBalances
  | selfIssueCash
  | pkgOfferState
  | feeAgreementState
  | establishFeeAgreement
  | registerPkg
  | updatePkg
  | deletePkg
  deriving DecidableEq, Repr

inductive Method where
  | get
  | post
  | put
  deriving DecidableEq, Repr

def Method.name : Method → String
  | .get => "GET"
  | .post => "POST"
  | .put => "PUT"

namespace Endpoint

def path : Endpoint → String
  | .me => "me"
  | .marketplace => "marketplace"
  | .buyPkg => "marketplace/buy-pkg"
  | .pkgLicenseState => "pkg-license-state"
  | .cashBalances => "cash-balances"
  | .selfIssueCash => "self-issue-cash"
  | .pkgOfferState => "pkg-offer-state"
  | .feeAgreementState => "fee-agreement-state"
  | .establishFeeAgreement => "establish-fee-agreement"
  | .registerPkg => "register-pkg"
  | .updatePkg => "update-pkg"
  | .deletePkg => "delete-pkg"

def method : Endpoint → Method
  | .me | .marketplace | .pkgLicenseState | .cashBalances | .pkgOfferState | .feeAgreementState =>
    .get
  | .buyPkg | .selfIssueCash => .post
  | .establishFeeAgreement | .registerPkg | .updatePkg | .deletePkg => .put

/-- The address of a route: the base without the slashes it ends in, a slash, and the path. -/
def url (base : String) (e : Endpoint) : String :=
  String.ofList (base.toList.reverse.dropWhile (· = '/')).reverse ++ "/" ++ e.path

end Endpoint

/-- One call: a route, pairs of a query, and a body or none. -/
structure Request where
  endpoint : Endpoint
  query : List (String × String)
  body : Option Json.Value
  deriving Repr

namespace Request

def withQuery (e : Endpoint) (query : List (String × String)) : Request := ⟨e, query, none⟩

def withBody (e : Endpoint) (body : Json.Value) : Request := ⟨e, [], some body⟩

def method (r : Request) : Method := r.endpoint.method

def describe (r : Request) : String :=
  r.method.name ++ " " ++ r.endpoint.path ++
    if r.query.isEmpty then ""
    else "?" ++ String.intercalate "&" (r.query.map fun p => p.1 ++ "=" ++ p.2)

end Request

def isSuccess (status : Nat) : Bool := 200 ≤ status && status < 300

structure Reply where
  status : Nat
  body : String
  deriving DecidableEq, Repr

def Reply.isSuccess (r : Reply) : Bool := Market.isSuccess r.status

theorem Reply.isSuccess_iff (r : Reply) : r.isSuccess = true ↔ 200 ≤ r.status ∧ r.status ≤ 299 := by
  rw [isSuccess, Market.isSuccess, Bool.and_eq_true, decide_eq_true_eq, decide_eq_true_eq]
  omega

open Json

inductive Target where
  | identity
  | marketplace
  | licenses
  | balances
  | pkgOffers
  | feeAgreement
  deriving DecidableEq, Repr

namespace Target

def all : List Target := [.identity, .marketplace, .licenses, .balances, .pkgOffers, .feeAgreement]

def endpoint : Target → Endpoint
  | .identity => .me
  | .marketplace => .marketplace
  | .licenses => .pkgLicenseState
  | .balances => .cashBalances
  | .pkgOffers => .pkgOfferState
  | .feeAgreement => .feeAgreementState

def name : Target → String
  | .identity => "Identity"
  | .marketplace => "Marketplace"
  | .licenses => "Licenses"
  | .balances => "Balances"
  | .pkgOffers => "PkgOffers"
  | .feeAgreement => "FeeAgreement"

end Target

/-- A view as it was last fetched. -/
inductive View where
  | identity (i : Identity)
  | marketplace (offers : List Offer)
  | licenses (licenses : List License)
  | balances (balances : Balances)
  | pkgOffers (offers : List Offer)
  | feeAgreement (fee : FeeAgreement)
  deriving DecidableEq

namespace View

def target : View → Target
  | .identity _ => .identity
  | .marketplace _ => .marketplace
  | .licenses _ => .licenses
  | .balances _ => .balances
  | .pkgOffers _ => .pkgOffers
  | .feeAgreement _ => .feeAgreement

def decode (t : Target) (s : List Char) : Except Fault View :=
  match t with
  | .identity => (Identity.decoder.decode s).map .identity
  | .marketplace => ((Decoder.list Offer.decoder).decode s).map .marketplace
  | .licenses => ((Decoder.list License.decoder).decode s).map .licenses
  | .balances => (Decoder.members.decode s).map .balances
  | .pkgOffers => ((Decoder.list Offer.decoder).decode s).map .pkgOffers
  | .feeAgreement => (FeeAgreement.decoder.decode s).map .feeAgreement

end View

/-- What a user can have done. -/
inductive Operation where
  | selfIssueCash
  | establishFeeAgreement
  | buyPkg
  | registerPkg
  | updatePkg
  | deletePkg
  deriving DecidableEq, Repr

namespace Operation

def title : Operation → String
  | .selfIssueCash => "Self-issue cash"
  | .establishFeeAgreement => "Establish fee agreement"
  | .buyPkg => "Buy package"
  | .registerPkg => "Register package"
  | .updatePkg => "Update package"
  | .deletePkg => "Delete package"

def endpoint : Operation → Endpoint
  | .selfIssueCash => .selfIssueCash
  | .establishFeeAgreement => .establishFeeAgreement
  | .buyPkg => .buyPkg
  | .registerPkg => .registerPkg
  | .updatePkg => .updatePkg
  | .deletePkg => .deletePkg

def display (o : Operation) : String := o.endpoint.path

/-- The views that may differ once the operation has succeeded. -/
def affected : Operation → List Target
  | .selfIssueCash => [.balances]
  | .establishFeeAgreement => [.feeAgreement]
  | .buyPkg => [.marketplace, .licenses, .balances]
  | .registerPkg | .updatePkg | .deletePkg => [.pkgOffers, .marketplace]

end Operation
end PackageMarket.Market
