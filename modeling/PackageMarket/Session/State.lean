import PackageMarket.Dialog.Dialog
import PackageMarket.Settings.Settings

set_option autoImplicit false

namespace PackageMarket

open Market

namespace Selection

def next (n selected : Nat) : Nat := if selected + 1 < n then selected + 1 else selected

def prev (selected : Nat) : Nat := selected - 1

/-- The row itself, or the last one of a list that ends before it. -/
def clamp (n selected : Nat) : Nat := if n = 0 then 0 else if n ≤ selected then n - 1 else selected

end Selection

structure OpenDialog where
  id : Nat
  dialog : Dialog
  deriving Repr

/-- Views are as last fetched. The topmost dialog comes first, requests under way are in the order
of their ids, and `refreshedAt` is what the clock showed when a view was fetched. -/
structure State where
  settings : Settings
  page : Page
  identity : Option Identity
  marketplace : List Offer
  licenses : List License
  balances : Balances
  pkgOffers : List Offer
  feeAgreement : Option FeeAgreement
  marketCursor : Nat
  developerCursor : Nat
  dialogs : List OpenDialog
  nextId : Nat
  pending : List (Nat × Operation)
  dirty : Bool
  clock : String
  refreshedAt : Target → Option String
  statusMessage : Option String

namespace State

def fresh (settings : Settings) (clock : String) : State :=
  { settings, clock
    page := settings.startPage
    identity := none
    marketplace := []
    licenses := []
    balances := []
    pkgOffers := []
    feeAgreement := none
    marketCursor := 0
    developerCursor := 0
    dialogs := []
    nextId := 0
    pending := []
    dirty := true
    refreshedAt := fun _ => none
    statusMessage := none }

def initial (now : Clock.Moment) (settings : Settings) : Option State :=
  (Clock.render now settings.timestampFormat).map (fresh settings)

variable (s : State)

def role : Role := (s.identity.map Identity.role).getD .other

def openDialog (d : Dialog) : State :=
  { s with dialogs := ⟨s.nextId, d⟩ :: s.dialogs, nextId := s.nextId + 1, dirty := true }

def closeTop : State :=
  match s.dialogs with
  | [] => s
  | _ :: ds => { s with dialogs := ds, dirty := true }

def editTop (f : Dialog → Dialog) : State :=
  match s.dialogs with
  | [] => s
  | d :: ds => { s with dialogs := { d with dialog := f d.dialog } :: ds }

def visibleOffers : List Offer :=
  match s.page with
  | .marketplace => s.marketplace
  | .developer => s.pkgOffers

def cursor : Nat :=
  match s.page with
  | .marketplace => s.marketCursor
  | .developer => s.developerCursor

def moveCursor (f : (length : Nat) → Nat → Nat) : State :=
  match s.page with
  | .marketplace => { s with marketCursor := f s.marketplace.length s.marketCursor }
  | .developer => { s with developerCursor := f s.pkgOffers.length s.developerCursor }

def selectedOffer? : Option Offer := s.visibleOffers[s.cursor]?

def takeView : View → State
  | .identity i => { s with identity := some i }
  | .marketplace os =>
    { s with marketplace := os, marketCursor := Selection.clamp os.length s.marketCursor }
  | .licenses ls => { s with licenses := ls }
  | .balances bs => { s with balances := bs }
  | .pkgOffers os =>
    { s with pkgOffers := os, developerCursor := Selection.clamp os.length s.developerCursor }
  | .feeAgreement f => { s with feeAgreement := some f }

def refresh (v : View) : State :=
  { s.takeView v with
    refreshedAt := fun t => if t = v.target then some s.clock else s.refreshedAt t
    dirty := true }

/-- Adds a request at the place of its id; one of the same id is replaced. -/
def insertPending (id : Nat) (op : Operation) : List (Nat × Operation) → List (Nat × Operation)
  | [] => [(id, op)]
  | p :: ps =>
    if id < p.1 then (id, op) :: p :: ps
    else if id = p.1 then (id, op) :: ps
    else p :: insertPending id op ps

def removePending (id : Nat) (ps : List (Nat × Operation)) : List (Nat × Operation) :=
  ps.filter fun p => p.1 != id

def who : String :=
  match s.identity with
  | some i => if i.me.isEmpty then "(unknown identity)" else i.me
  | none => "(unknown identity)"

def statusLine : String :=
  match s.statusMessage with
  | some m => m
  | none =>
    s.who ++ " | " ++ s.settings.baseUrl ++
      if s.pending.isEmpty then ""
      else " | " ++ String.ofList (Decimal.digits s.pending.length) ++ " pending"

end State

inductive KeyCode where
  | char (c : Char)
  | enter
  | esc
  | tab
  | backTab
  | up
  | down
  | left
  | right
  | pageUp
  | pageDown
  | home
  | last
  | backspace
  | delete
  | insert
  | null
  | function (n : Nat)
  deriving DecidableEq, Repr

inductive KeyKind where
  | press
  | repeated
  | release
  deriving DecidableEq, Repr

structure Key where
  code : KeyCode
  ctrl : Bool
  shift : Bool
  alt : Bool
  kind : KeyKind
  deriving DecidableEq, Repr

def Key.press (code : KeyCode) : Key := ⟨code, false, false, false, .press⟩

inductive Input where
  | key (k : Key)
  | paste (text : List Char)
  | resize
  | other
  deriving DecidableEq, Repr

inductive Event where
  | input (i : Input)
  | response (id : Nat) (operation : Operation) (message : Message)
  | refreshed (view : View)
  | refreshFailed (target : Target) (error : String)
  | tick (now : Clock.Moment)

inductive Action where
  | submit (id : Nat) (operation : Operation) (request : Request)
  | refresh (targets : List Target)
  | quit
  deriving Repr

def Action.isQuit : Action → Bool
  | .quit => true
  | _ => false

end PackageMarket
