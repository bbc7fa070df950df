import PackageMarket.Journal.Log
import PackageMarket.Session.State
import PackageMarket.Web.Url

set_option autoImplicit false

/-!
Calls to the backend. What a call asks of the network is decided before, and what it comes to after,
so that the network itself is a function from calls to what comes back.
-/

namespace PackageMarket.Web

open Market Text

/-- What goes out: where to, and what a server is told. -/
structure Call where
  url : Url
  method : Method
  body : Option String
  deriving DecidableEq, Repr

def Call.contentType (c : Call) : Option String := c.body.map fun _ => "application/json"

/-- What comes back. An answer announces the length of its body, and can break off before that. -/
inductive Echo where
  | refused
  | closed
  | answer (status : Nat) (announced : Nat) (body : List UInt8)
  deriving DecidableEq, Repr

abbrev Network := Call → Echo

inductive Trouble where
  | noUrl
  | notWeb (u : Url)
  | unsent (u : Url)
  | cutOff
  deriving DecidableEq, Repr

def Trouble.text : Trouble → String
  | .noUrl => "builder error"
  | .notWeb u => "builder error for url (" ++ String.ofList u.text ++ ")"
  | .unsent u => "error sending request for url (" ++ String.ofList u.text ++ ")"
  | .cutOff => "error decoding response body"

def isWeb (u : Url) : Bool := u.scheme = "http".toList || u.scheme = "https".toList

def call (base : String) (r : Request) : Except Trouble Call :=
  match Url.ofText? (r.endpoint.url base).toList with
  | none => .error .noUrl
  | some u =>
    if !u.hasHost then .error (.notWeb u)
    else
      let u := u.withoutUser.withQuery r.query
      if !isWeb u then .error (.notWeb u)
      else .ok ⟨u, r.method, r.body.map Json.Value.compactText⟩

/-- Some answers have no body, whatever comes. -/
def isBodiless (status : Nat) : Bool := status = 101 || status = 204 || status = 304

/-- What an echo comes to. A provisional answer alone is none. -/
def receive (c : Call) : Echo → Except Trouble Reply
  | .refused | .closed => .error (.unsent c.url)
  | .answer status announced body =>
    if isBodiless status then .ok ⟨status, ""⟩
    else if status < 200 || 999 < status then .error (.unsent c.url)
    else if body.length < announced then .error .cutOff
    else .ok ⟨status, String.ofList (ofBytes (body.take announced))⟩

def Trouble.failure (t : Trouble) : Failure := .transport t.text

def exchange (network : Network) (base : String) (r : Request) : Except Trouble Reply := do
  let c ← call base r
  receive c (network c)

def send (network : Network) (base : String) (r : Request) : Except Failure Reply :=
  (exchange network base r).mapError Trouble.failure

def viewRequest (t : Target) : Request := ⟨t.endpoint, [], none⟩

def viewOf (t : Target) (r : Reply) : Except Failure View :=
  if !r.isSuccess then .error (.status r)
  else (View.decode t r.body.toList).mapError fun f => .undecodable (f.message r.body.toList)

def fetch (network : Network) (base : String) (t : Target) : Except Failure View :=
  (send network base (viewRequest t)).bind (viewOf t)

/-- What a session is told of a view that was asked for, by what came back. -/
def viewEvent (t : Target) (answer : Except Failure Reply) : Event :=
  match answer.bind (viewOf t) with
  | .ok v => .refreshed v
  | .error f => .refreshFailed t f.text

def refresh (network : Network) (base : String) (t : Target) : Event :=
  viewEvent t (send network base (viewRequest t))

def submit (network : Network) (base : String) (id : Nat) (op : Operation) (r : Request) : Event :=
  .response id op (.ofOutcome (send network base r))

def submitNotes (network : Network) (base : String) (id : Nat) (op : Operation) (r : Request) :
    List Journal.Note :=
  let source := "pkgmart::api::manager"
  let about := [("dialog_id", Journal.natText id), ("operation", op.display)]
  let isSuccess := (Message.ofOutcome (send network base r)).isSuccess
  [⟨.info, source, "dispatching request", about ++ [("request", r.describe)]⟩,
   ⟨.debug, source, "request resolved",
    about ++ [("success", if isSuccess then "true" else "false")]⟩]

end PackageMarket.Web
