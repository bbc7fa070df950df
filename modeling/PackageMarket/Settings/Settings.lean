import PackageMarket.Text.Basic

set_option autoImplicit false

/-!
What a user can set, and what holds otherwise. A format of the clock is text with directives that
begin with a percent sign. What a directive shows at a moment is given from outside; whether it
shows anything is decided here.
-/

namespace PackageMarket.Clock

open Text

/-- What the directives of a format show, each with its percent sign. -/
abbrev Moment := List Char → List Char

/-- A piece for reading only shows nothing, though its directive is a known one. -/
inductive Piece where
  | text (s : List Char)
  | time (directive : List Char)
  | readOnly
  | broken
  deriving DecidableEq, Repr

def isNumeric (c : Char) : Bool := "CdefgGHIjklmMqsSuUVwWyY".toList.contains c

def isPlain (c : Char) : Bool := isNumeric c || "aAbBcDFhpPrRTvxXzZ+".toList.contains c

def isPadding (c : Char) : Bool := c = '-' || c = '_' || c = '0'

/-- The piece that a directive makes, after its percent sign, and the characters it takes. -/
def directive : List Char → Piece × Nat
  | '%' :: _ => (.text ['%'], 1)
  | 'n' :: _ => (.text ['\n'], 1)
  | 't' :: _ => (.text ['\t'], 1)
  | '#' :: 'z' :: _ => (.readOnly, 2)
  | ':' :: ':' :: ':' :: 'z' :: _ => (.time "%:::z".toList, 4)
  | ':' :: ':' :: 'z' :: _ => (.time "%::z".toList, 3)
  | ':' :: 'z' :: _ => (.time "%:z".toList, 2)
  | '.' :: 'f' :: _ => (.time "%.f".toList, 2)
  | '.' :: d :: 'f' :: _ =>
    if d = '3' || d = '6' || d = '9' then (.time ['%', '.', d, 'f'], 3) else (.broken, 2)
  | c :: d :: _ =>
    if isPlain c then (.time ['%', c], 1)
    else if isPadding c && isNumeric d then (.time ['%', c, d], 2)
    else if (c = '3' || c = '6' || c = '9') && d = 'f' then (.time ['%', c, 'f'], 2)
    else (.broken, 1)
  | [c] => if isPlain c then (.time ['%', c], 1) else (.broken, 1)
  | [] => (.broken, 0)

def pieces (s : List Char) : List Piece :=
  match s with
  | [] => []
  | c :: s =>
    if c = '%' then (directive s).1 :: pieces (s.drop (directive s).2)
    else .text [c] :: pieces s
termination_by s.length
decreasing_by
  · simp only [List.length_drop, List.length_cons]; omega
  · simp

def isBroken (format : String) : Bool := (pieces format.toList).contains .broken

def Piece.show (now : Moment) : Piece → Option (List Char)
  | .text s => some s
  | .time d => some (now d)
  | .readOnly | .broken => none

def render (now : Moment) (format : String) : Option String :=
  ((pieces format.toList).mapM (Piece.show now)).map fun ps => String.ofList ps.flatten

end PackageMarket.Clock

namespace PackageMarket

inductive Page where
  | marketplace
  | developer
  deriving DecidableEq, Repr

namespace Page

def name : Page → String
  | .marketplace => "marketplace"
  | .developer => "developer"

def other : Page → Page
  | .marketplace => .developer
  | .developer => .marketplace

end Page

structure LogSettings where
  enabled : Bool
  dir : String
  level : String
  deriving DecidableEq, Repr

structure Settings where
  baseUrl : String
  timestampFormat : String
  startPage : Page
  log : LogSettings
  deriving DecidableEq, Repr

namespace Settings

def default : Settings :=
  { baseUrl := "http://localhost:10050/"
    timestampFormat := "%H:%M:%S"
    startPage := .marketplace
    log := ⟨true, "~/.local/share/pkgmart/logs", "pkgmart=info"⟩ }

def repaired (s : Settings) : Settings :=
  if Clock.isBroken s.timestampFormat then { s with timestampFormat := default.timestampFormat }
  else s

end Settings
end PackageMarket
