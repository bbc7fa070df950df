import PackageMarket.Files.Disk
import PackageMarket.Json.Value
import PackageMarket.Settings.Settings
import PackageMarket.Text.Basic

set_option autoImplicit false

namespace PackageMarket.Journal

inductive Level where
  | error
  | warn
  | info
  | debug
  | trace
  deriving DecidableEq, Repr

def Level.name : Level → String
  | .error => "ERROR"
  | .warn => "WARN"
  | .info => "INFO"
  | .debug => "DEBUG"
  | .trace => "TRACE"

def Level.rank : Level → Nat
  | .error => 1
  | .warn => 2
  | .info => 3
  | .debug => 4
  | .trace => 5

structure Note where
  level : Level
  source : String
  text : String
  values : List (String × String)
  deriving DecidableEq, Repr

def Note.line (n : Note) : String :=
  n.text ++ String.join (n.values.map fun v => " " ++ v.1 ++ "=" ++ v.2)

def natText (n : Nat) : String := String.ofList (Decimal.digits n)

open Text

/-- Names sources by a beginning, and says how much of what they tell passes. -/
structure Directive where
  target : Option (List Char)
  stretch : Option (List Char)
  field : Option (List Char)
  asksValue : Bool
  rank : Nat
  deriving DecidableEq, Repr

def rankOf? (s : List Char) : Option Nat :=
  let number := match s with
    | '+' :: s => Decimal.nat? s
    | s => Decimal.nat? s
  (number.filter (· ≤ 5)).or <|
    ["off", "error", "warn", "info", "debug", "trace"].findIdx? fun n =>
      n.toList = s.map Char.toLower

inductive DirectiveFault where
  | shape
  | level
  deriving DecidableEq, Repr

def DirectiveFault.text : DirectiveFault → String
  | .shape => "invalid filter directive"
  | .level =>
    "error parsing level filter: expected one of \"off\", \"error\", \"warn\", \"info\", " ++
    "\"debug\", \"trace\", or a number 0-5"

namespace Directive

def ofRank (rank : Nat) : Directive := ⟨none, none, none, false, rank⟩

def withLevel (d : Directive) : List Char → Except DirectiveFault Directive
  | [] => .ok { d with rank := Level.trace.rank }
  | s =>
    match rankOf? s with
    | some rank => .ok { d with rank }
    | none => .error .level

def afterBracket (d : Directive) : List Char → Except DirectiveFault Directive
  | [] => d.withLevel []
  | '=' :: s => d.withLevel s
  | _ => .error .shape

/-- The inside of a bracket: the name of a stretch, and in braces a value.
Before braces no name need stand. -/
def inBracket (d : Directive) (s : List Char) : Except DirectiveFault Directive :=
  let name := s.takeWhile fun c => c != ']' && c != '\x7b'
  match s.drop name.length with
  | ']' :: s => { d with stretch := some name }.afterBracket s
  | '\x7b' :: s =>
    let inside := s.takeWhile (· != '\x7d')
    match s.drop inside.length, splitOn '=' inside with
    | '\x7d' :: ']' :: s, field :: values =>
      if inside.isEmpty then .error .shape
      else
        { d with
          stretch := if name.isEmpty then none else some name
          field := some field
          asksValue := !values.isEmpty }.afterBracket s
    | _, _ => .error .shape
  | _ => .error .shape

def isFirst (c : Char) : Bool :=
  c.isAlphanum || c = '-' || c = ':' || c = '_' || 0x80 ≤ c.toNat

def ofText (s : List Char) : Except DirectiveFault Directive :=
  match s with
  | [] => .error .shape
  | '[' :: s => (ofRank 0).inBracket s
  | c :: _ =>
    let target := s.takeWhile fun c => c != '=' && c != '['
    let d : Directive := { ofRank 0 with target := some target }
    if !isFirst c then .error .shape
    else
      match s.drop target.length with
      | '=' :: s => d.withLevel s
      | '[' :: s => d.inBracket s
      | _ =>
        match rankOf? s with
        | some rank => .ok (ofRank rank)
        | none => d.withLevel []

/-- Directives about a stretch, or about the value in one, never speak about a note. -/
def speaksOf (d : Directive) (n : Note) : Bool :=
  d.stretch.isNone && !d.asksValue &&
  (d.target.all fun t => t.isPrefixOf n.source.toList) &&
  (d.field.all fun f => f = "message".toList || n.values.any (·.1.toList = f))

/-- A longer target is more special, then a value that is asked for. -/
def isAtLeastAsSpecial (d e : Directive) : Bool :=
  let size (d : Directive) : Nat := d.target.elim 0 (·.length + 1)
  if size d != size e then size e < size d
  else
    match d.field, e.field with
    | _, none => true
    | none, some _ => false
    | some f, some g => String.ofList g ≤ String.ofList f

end Directive

abbrev Filter := List Directive

namespace Filter

def parts (s : String) : List (List Char) := (splitOn ',' s.toList).filter (!·.isEmpty)

/-- Without any directive errors pass. -/
def ofDirectives (ds : List Directive) : Filter :=
  if ds.isEmpty then [.ofRank Level.error.rank] else ds

def ofText? (s : String) : Option Filter :=
  ((parts s).mapM fun p => (Directive.ofText p).toOption).map ofDirectives

def ofText (s : String) : Filter :=
  ofDirectives ((parts s).filterMap fun p => (Directive.ofText p).toOption)

def complaints (s : String) : List String :=
  (parts s).filterMap fun p =>
    match Directive.ofText p with
    | .ok _ => none
    | .error f => some ("ignoring \x60" ++ String.ofList p ++ "\x60: " ++ f.text)

/-- Of the directives that speak of a note, the most special. A note
that none speaks of is dropped. -/
def deciding (f : Filter) (n : Note) : Option Directive :=
  (f.filter (·.speaksOf n)).foldl
    (fun best d => if best.all d.isAtLeastAsSpecial then some d else best) none

def passes (f : Filter) (n : Note) : Bool := (f.deciding n).any fun d => n.level.rank ≤ d.rank

def choose (environment : Option String) (level : String) : Filter :=
  (environment.bind ofText?).getD (ofText level)

/-- A filter of the environment that is not readable is passed over in silence. -/
def complaintsOf (environment : Option String) (level : String) : List String :=
  if (environment.bind ofText?).isSome then [] else complaints level

end Filter

open Files

inductive LogFault where
  | noDirectory (p : Path)
  | noFile (p : Path)
  | taken
  deriving DecidableEq, Repr

def LogFault.text : LogFault → String
  | .noDirectory p => "Failed to create log directory " ++ String.ofList p
  | .noFile p => "Failed to open log file " ++ String.ofList p
  | .taken => "Failed to install tracing subscriber"

def directory (home : Path) (dir : String) : Path :=
  match dir.toList with
  | '~' :: '/' :: rest => home.join rest
  | p => p

structure Log where
  path : Path
  filter : Filter
  deriving DecidableEq, Repr

namespace Log

variable {m : Type → Type} [Monad m]

/-- Opens the log, if there is to be one. `current` is the one that is open. -/
def start (files : Access m) (home : Path) (environment : Option String) (s : LogSettings)
    (current : Option Log) : m (Except LogFault (Option Log)) := do
  if !s.enabled then return .ok none
  let dir := directory home s.dir
  let path := dir.join "pkgmart.log".toList
  if !(← files.makeDirectories dir) then return .error (.noDirectory dir)
  if !(← files.append path .empty) then return .error (.noFile path)
  if current.isSome then return .error .taken
  return .ok (some ⟨path, .choose environment s.level⟩)

def entry (now : String) (number : Nat) (n : Note) : String :=
  let level := String.ofList (List.replicate (5 - n.level.name.length) ' ') ++ n.level.name
  now ++ " " ++ level ++ " " ++ natText number ++ ": " ++ n.line ++ "\n"

def entries (l : Log) (now : String) (ns : List Note) : String :=
  String.join (((ns.filter l.filter.passes).zipIdx 1).map fun n => entry now n.2 n.1)

def record (files : Access m) (l : Log) (now : String) (ns : List Note) : m Unit := do
  let _ ← files.append l.path (l.entries now ns).toUTF8

end Log
end PackageMarket.Journal
