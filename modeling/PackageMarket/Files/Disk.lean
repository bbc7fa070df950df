import PackageMarket.Text.Basic

set_option autoImplicit false

namespace PackageMarket.Files

open Text

abbrev Path := List Char

namespace Path

def join (base p : Path) : Path :=
  if p.head? = some '/' then p
  else if base.isEmpty || base.getLast? = some '/' then base ++ p
  else base ++ '/' :: p

/-- The path in reverse without the slashes, and the dots that stand for nothing, at its end. -/
def trimReversed : List Char → List Char
  | ['/'] => ['/']
  | '/' :: r => trimReversed r
  | '.' :: '/' :: r => trimReversed ('/' :: r)
  | r => r

def parent? (p : Path) : Option Path :=
  match trimReversed p.reverse with
  | [] => none
  | ['/'] => none
  | r => some (trimReversed (r.dropWhile (· != '/'))).reverse

def names (p : Path) : List (List Char) := splitOn '/' p

end Path

/-- What the program asks of a file system. Whether it succeeded is all that an operation tells; the
reason of a failure is of no interest. -/
structure Access (m : Type → Type) where
  isPresent : Path → m Bool
  read : Path → m (Option ByteArray)
  write : Path → ByteArray → m Bool
  append : Path → ByteArray → m Bool
  makeDirectories : Path → m Bool

abbrev Place := List (List Char)

inductive Entry where
  | directory
  | file (content : ByteArray)
  | void

/-- A disk as a value. Entries are found by the names on the way from the root,
where relative paths begin too. -/
structure Disk where
  entries : List (Place × Entry)

namespace Disk

def empty : Disk := ⟨[]⟩

def entry? (d : Disk) (p : Place) : Option Entry :=
  if p.isEmpty then some .directory else (d.entries.find? (·.1 = p)).map (·.2)

def put (d : Disk) (p : Place) (e : Entry) : Disk := ⟨(p, e) :: d.entries.filter (·.1 != p)⟩

def step (d : Disk) (here : Place) (name : List Char) : Option Place :=
  match d.entry? here with
  | some .directory =>
    if name = [] || name = ['.'] then some here
    else if name = ['.', '.'] then some here.dropLast
    else some (here ++ [name])
  | _ => none

/-- The place of a path. All but the last name must lead to directories. -/
def place? (d : Disk) (p : Path) : Option Place :=
  if p.isEmpty then none else p.names.foldlM d.step []

def isName (n : List Char) : Bool := !n.contains '\x00' && (String.ofList n).utf8ByteSize ≤ 255

def content? (d : Disk) (p : Path) : Option ByteArray := do
  match ← d.entry? (← d.place? p) with
  | .directory => none
  | .file c => some c
  | .void => some .empty

def update (d : Disk) (p : Path) (f : ByteArray → ByteArray) : Option Disk := do
  let place ← d.place? p
  match d.entry? place with
  | none => if place.getLast?.any isName then some (d.put place (.file (f .empty))) else none
  | some .directory => none
  | some (.file c) => some (d.put place (.file (f c)))
  | some .void => some d

def stepMaking (d : Disk) (here : Place) (name : List Char) : Disk × Option Place :=
  match d.step here name with
  | none => (d, none)
  | some place =>
    match d.entry? place with
    | some .directory => (d, some place)
    | some _ => (d, none)
    | none => if isName name then (d.put place .directory, some place) else (d, none)

def makeDirectories (d : Disk) (p : Path) : Disk × Bool :=
  let (d, place) := p.names.foldl
    (fun (d, here) name => match here with
      | none => (d, none)
      | some here => stepMaking d here name) (d, some [])
  (d, place.isSome)

def attempt (change : Disk → Option Disk) : StateM Disk Bool := fun d =>
  match change d with
  | some d => (true, d)
  | none => (false, d)

def files : Access (StateM Disk) where
  isPresent p := fun d => (((d.place? p).bind d.entry?).isSome, d)
  read p := fun d => (d.content? p, d)
  write p c := attempt fun d => d.update p fun _ => c
  append p c := attempt fun d => d.update p fun old => old ++ c
  makeDirectories p := fun d =>
    let (d, done) := d.makeDirectories p
    (done, d)

end Disk
end PackageMarket.Files
