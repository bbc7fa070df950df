import PackageMarket.Form.Form
import PackageMarket.Json.Reader
import PackageMarket.Market.View
import PackageMarket.Text.Basic

set_option autoImplicit false

namespace PackageMarket

open Market

/-- A request without an answer, or with one that is not as it should be. -/
inductive Failure where
  | transport (reason : String)
  | undecodable (reason : String)
  | status (reply : Reply)
  deriving DecidableEq, Repr

def Failure.text : Failure → String
  | .transport reason => "request failed: " ++ reason
  | .undecodable reason => "unexpected response body: " ++ reason
  | .status reply => "HTTP " ++ String.ofList (Decimal.digits reply.status) ++ ": " ++ reply.body

inductive Message where
  | reply (reply : Reply)
  | failed (text : String)
  | atHome (text : String)
  deriving DecidableEq, Repr

namespace Message

def ofOutcome : Except Failure Reply → Message
  | .ok r => .reply r
  | .error f => .failed f.text

def syntaxErrorText : String := "There was a syntax error. Please correct it and try again: "

def ofFault (f : Json.Fault) (text : List Char) : Message :=
  .atHome (syntaxErrorText ++ f.message text)

def isSuccess : Message → Bool
  | .reply r => r.isSuccess
  | _ => false

def status? : Message → Option Nat
  | .reply r => some r.status
  | _ => none

/-- A JSON string is shown without its quotation marks, other JSON laid
out, anything else as it is. -/
def displayBody (body : String) : String :=
  if (Text.trim body.toList).isEmpty then "(empty response)"
  else
    match Json.Value.ofText body.toList with
    | .ok (.string s) => s
    | .ok v => v.prettyText
    | .error _ => body

def display : Message → String
  | .reply r => displayBody r.body
  | .failed text => text
  | .atHome text => text

end Message

/-- A position in a text that may be longer than what is shown of it. The last useful position is
only known once the text has been laid out. -/
structure Scroll where
  row : Nat
  max : Nat
  deriving DecidableEq, Repr

namespace Scroll

def top : Scroll := ⟨0, 65535⟩

def shown (s : Scroll) : Nat := min s.row s.max

def move (s : Scroll) (f : Nat → Nat) : Scroll := { s with row := min (f s.shown) s.max }

end Scroll

structure Purchase where
  name : String
  linearId : Json.Value
  pkgInfoId : String
  kind : Option PackageKind
  price : Money
  deriving Repr

namespace Purchase

def ofOffer (o : Offer) : Purchase := ⟨o.name, o.linearId, o.pkgInfoId, o.kind, o.price⟩

def body (p : Purchase) : Json.Value :=
  .object
    [("linearId", p.linearId), ("pkgInfoId", .string p.pkgInfoId),
     ("pkgType", .ofOption PackageKind.json p.kind), ("price", p.price.json)]

end Purchase

structure Removal where
  name : String
  linearId : Json.Value
  deriving Repr

def Removal.ofOffer (o : Offer) : Removal := ⟨o.name, o.linearId⟩

/-- A text that should become JSON, and the operation it is meant for. -/
structure Draft where
  operation : Operation
  editor : TextField
  deriving Repr

instance : Coe Draft TextField := ⟨Draft.editor⟩

inductive Dialog where
  | selfIssueCash (form : Form)
  | feeAgreement (form : Form)
  | buyPkg (purchase : Purchase)
  | registerPkg (draft : Draft)
  | updatePkg (draft : Draft)
  | deletePkg (removal : Removal)
  | details (name text : String) (scroll : Scroll)
  | message (title : String) (message : Message) (scroll : Scroll)
  deriving Repr

inductive Submission where
  | refused
  | send (request : Request)
  | tell (message : Message)
  deriving Repr

namespace Dialog

def cashForm : Form := .ofFields [.line "amount" "Amount", .line "currency" "Currency"]

def cashRules : List FieldRule := [⟨"amount", .positiveInteger⟩, ⟨"currency", .exactLength 3⟩]

def feeForm : Form := .ofFields [.line "maxAcceptableFee" "Max acceptable fee (%)"]

def feeRules : List FieldRule := [⟨"maxAcceptableFee", .integerInRange 0 100⟩]

def draftOf (op : Operation) (template : Json.Value) : Draft :=
  ⟨op, .page "json" "JSON" template.sorted.pretty⟩

def registerTemplate : Json.Value :=
  .object
    [("name", .string ""), ("description", .string ""), ("version", .string "1.0"),
     ("pkgInfoId", .string ""), ("imageLink", .string ""), ("pkgType", .string "VNF"),
     ("poPrice", .object
       [("id", .string ""), ("description", .string ""), ("isBundle", .bool false),
        ("lifecycleStatus", .string "Active"), ("name", .string ""), ("percentage", .float .zero),
        ("priceType", .string "one time"), ("recurringChargePeriodLength", .int 0),
        ("recurringChargePeriodType", .string ""), ("version", .string "1.0"),
        ("price", .object [("unit", .string "EUR"), ("value", .float .zero)])])]

def updateTemplate : Option Offer → Json.Value
  | some o =>
    .object
      [("linearId", o.linearId), ("name", .string o.name), ("description", .string o.description),
       ("version", .string o.version), ("imageLink", .string o.imageLink),
       ("poPrice", o.poPrice.json)]
  | none =>
    .object
      [("linearId", .null), ("name", .string ""), ("description", .string ""),
       ("version", .string ""), ("imageLink", .string ""), ("poPrice", .null)]

def newCash : Dialog := .selfIssueCash cashForm

def newFee : Dialog := .feeAgreement feeForm

def newRegister : Dialog := .registerPkg (draftOf .registerPkg registerTemplate)

def newUpdate (o : Option Offer) : Dialog := .updatePkg (draftOf .updatePkg (updateTemplate o))

def newBuy (o : Offer) : Dialog := .buyPkg (.ofOffer o)

def newDelete (o : Offer) : Dialog := .deletePkg (.ofOffer o)

def newDetails (o : Offer) : Dialog := .details o.name o.json.sorted.prettyText .top

def newMessage (title : String) (m : Message) : Dialog := .message title m .top

def operation? : Dialog → Option Operation
  | .selfIssueCash _ => some .selfIssueCash
  | .feeAgreement _ => some .establishFeeAgreement
  | .buyPkg _ => some .buyPkg
  | .registerPkg _ => some .registerPkg
  | .updatePkg _ => some .updatePkg
  | .deletePkg _ => some .deletePkg
  | .details .. | .message .. => none

def title : Dialog → String
  | .selfIssueCash _ => Operation.title .selfIssueCash
  | .feeAgreement _ => Operation.title .establishFeeAgreement
  | .buyPkg p => "Buy " ++ p.name ++ "?"
  | .registerPkg _ => Operation.title .registerPkg
  | .updatePkg _ => Operation.title .updatePkg
  | .deletePkg r => "Delete " ++ r.name ++ "?"
  | .details name _ _ => "Package: " ++ name
  | .message title _ _ => title

def form? : Dialog → Option Form
  | .selfIssueCash f | .feeAgreement f => some f
  | _ => none

def draft? : Dialog → Option Draft
  | .registerPkg d | .updatePkg d => some d
  | _ => none

def editor? (d : Dialog) : Option TextField := d.draft?.map Draft.editor

def scroll? : Dialog → Option Scroll
  | .details _ _ s | .message _ _ s => some s
  | _ => none

def mapForm (f : Form → Form) : Dialog → Dialog
  | .selfIssueCash form => .selfIssueCash (f form)
  | .feeAgreement form => .feeAgreement (f form)
  | d => d

def mapEditor (f : TextField → TextField) : Dialog → Dialog
  | .registerPkg d => .registerPkg { d with editor := f d.editor }
  | .updatePkg d => .updatePkg { d with editor := f d.editor }
  | d => d

def mapScroll (f : Scroll → Scroll) : Dialog → Dialog
  | .details name text s => .details name text (f s)
  | .message title m s => .message title m (f s)
  | d => d

/-- Integers are sent as they are, not as they were typed. -/
def cashRequest (f : Form) : Submission :=
  match f.integer? "amount" with
  | some n =>
    .send (.withQuery .selfIssueCash
      [("amount", String.ofList (Decimal.ofInt n)),
        ("currency", String.ofList (f.value "currency"))])
  | none => .refused

def feeRequest (f : Form) : Submission :=
  match f.integer? "maxAcceptableFee" with
  | some n =>
    .send (.withQuery .establishFeeAgreement
      [("maxAcceptableFee", String.ofList (Decimal.ofInt n))])
  | none => .refused

/-- Sends the text of a draft if it is JSON, and tells what is wrong if it is not. Of reading a
value no other fault is known. -/
def submitDraft (d : Draft) : Except Json.Fault Submission :=
  match Json.Value.ofText d.editor.text with
  | .ok v => .ok (.send (.withBody d.operation.endpoint v))
  | .error f =>
    if f.cause.category = .shape then .error f else .ok (.tell (.ofFault f d.editor.text))

def submitForm (rules : List FieldRule) (request : Form → Submission) (f : Form) :
    Form × Submission :=
  let f := f.validate rules
  (f, if f.hasErrors then .refused else request f)

def submit : Dialog → Except Json.Fault (Dialog × Submission)
  | .selfIssueCash f =>
    let (f, s) := submitForm cashRules cashRequest f
    .ok (.selfIssueCash f, s)
  | .feeAgreement f =>
    let (f, s) := submitForm feeRules feeRequest f
    .ok (.feeAgreement f, s)
  | .buyPkg p => .ok (.buyPkg p, .send (.withBody .buyPkg p.body))
  | .deletePkg r => .ok (.deletePkg r, .send (.withBody .deletePkg r.linearId))
  | .registerPkg d => (submitDraft d).map fun s => (.registerPkg d, s)
  | .updatePkg d => (submitDraft d).map fun s => (.updatePkg d, s)
  | d => .ok (d, .refused)

end Dialog
end PackageMarket
