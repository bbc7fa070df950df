import PackageMarket.Web.Host

set_option autoImplicit false

/-!
Addresses. Reading one brings it into its normal form: small letters in the scheme and the host,
numbers in numeric hosts, no number behind the host that goes without saying, no dots in the path,
and a percent sign before each byte that a part cannot hold.
-/

namespace PackageMarket.Web

open Text

inductive Route where
  | names (l : List (List Char))
  | plain (s : List Char)
  deriving DecidableEq, Repr

structure Url where
  scheme : List Char
  user : List Char
  password : Option (List Char)
  host : Option Host
  portNumber : Option Nat
  route : Route
  query : Option (List Char)
  fragment : Option (List Char)
  deriving DecidableEq, Repr

namespace Url

/-- The schemes of the web and of files, with the number behind their
hosts that goes without saying. -/
def schemes : List (String × Option Nat) :=
  [("http", some 80), ("https", some 443), ("ws", some 80), ("wss", some 443), ("ftp", some 21),
   ("file", none)]

def isSpecial (scheme : List Char) : Bool := schemes.any (·.1.toList = scheme)

def isFile (scheme : List Char) : Bool := scheme = "file".toList

def defaultPort (scheme : List Char) : Option Nat :=
  (schemes.find? (·.1.toList = scheme)).bind (·.2)

def hasHost (u : Url) : Bool := u.host.any fun h => h != .name []

def cut (c : Char) (s : List Char) : List Char × Option (List Char) :=
  (s.takeWhile (· != c), (s.dropWhile (· != c)).tail?)

def scheme? (s : List Char) : Option (List Char × List Char) :=
  let isRest (c : Char) : Bool := c.isAlphanum || c = '+' || c = '-' || c = '.'
  let name := s.takeWhile isRest
  match s.drop name.length with
  | ':' :: rest => if name.head?.any Char.isAlpha then some (name.map Char.toLower, rest) else none
  | _ => none

def isSlash (scheme : List Char) (c : Char) : Bool := c = '/' || (isSpecial scheme && c = '\\')

def pieces (scheme : List Char) (s : List Char) : List (List Char) :=
  splitOn '/' (s.map fun c => if isSlash scheme c then '/' else c)

def dots : List Char → Option Nat
  | [] => some 0
  | '%' :: '2' :: e :: s => if e = 'e' || e = 'E' then (dots s).map (· + 1) else none
  | c :: s => if c = '.' then (dots s).map (· + 1) else none

def isDrive : List Char → Bool
  | [c, d] => c.isAlpha && (d = ':' || d = '|')
  | _ => false

def shorten (scheme : List Char) (names : List (List Char)) : List (List Char) :=
  match names with
  | [d] => if isFile scheme && isDrive d then [d] else []
  | _ => names.tail

def follow (scheme : List Char) (names : List (List Char)) : List (List Char) → List (List Char)
  | [] => names.reverse
  | p :: ps =>
    let piece := encode inPath p
    match dots piece with
    | some 1 => follow scheme (if ps.isEmpty then [] :: names else names) ps
    | some 2 =>
      let names := shorten scheme names
      follow scheme (if ps.isEmpty then [] :: names else names) ps
    | _ =>
      let piece := match piece with
        | [c, '|'] => if isFile scheme && names.isEmpty && c.isAlpha then [c, ':'] else piece
        | _ => piece
      follow scheme (piece :: names) ps

def routeOf (scheme : List Char) (s : List Char) : Route :=
  match s with
  | [] => .names (if isSpecial scheme then [[]] else [])
  | c :: t =>
    let names := follow scheme [] (pieces scheme (if isSlash scheme c then t else s))
    if isFile scheme then
      match names.dropWhile List.isEmpty with
      | [] => .names [[]]
      | names => .names names
    else .names names

/-- Cuts a host from its number, at the first colon outside of brackets. -/
def splitPort (inside : Bool) : List Char → List Char × Option (List Char)
  | [] => ([], none)
  | c :: s =>
    if c = ':' && !inside then ([], some s)
    else
      let (host, number) :=
        splitPort (if c = '[' then true else if c = ']' then false else inside) s
      (c :: host, number)

def portNumber? (scheme : List Char) (s : List Char) : Option (Option Nat) :=
  if s.isEmpty then some none
  else do
    let n ← Decimal.nat? s
    if 65535 < n then none else some (if defaultPort scheme = some n then none else some n)

def splitUser (s : List Char) : Option (List Char) × List Char :=
  if s.contains '@' then
    let r := s.reverse
    (some (r.dropWhile (· != '@')).tail.reverse, (r.takeWhile (· != '@')).reverse)
  else (none, s)

def ofAuthority (u : Url) (s : List Char) : Option Url := do
  let authority := s.takeWhile fun c => !isSlash u.scheme c
  let (user, place) := splitUser authority
  let (host, number) := splitPort false place
  if host.isEmpty && (isSpecial u.scheme || user.isSome || number.isSome) then none
  else
    let host ← if isSpecial u.scheme then Host.ofText? host else Host.ofPlainText? host
    let portNumber ← portNumber? u.scheme (number.getD [])
    let (name, password) := cut ':' (user.getD [])
    some { u with
      user := encode inUser name
      password := (password.filter (!·.isEmpty)).map (encode inUser)
      host := some host
      portNumber
      route := routeOf u.scheme (s.drop authority.length) }

def ofFile (u : Url) (s : List Char) : Option Url :=
  let isSlash (c : Char) : Bool := isSlash u.scheme c
  let placed (h : Host) (s : List Char) : Url :=
    { u with host := some h, route := routeOf u.scheme s }
  let here (s : List Char) : Url := placed (.name []) ('/' :: s)
  match s with
  | c :: d :: r =>
    if !isSlash c then some (here s)
    else if !isSlash d then some (here (d :: r))
    else
      let host := r.takeWhile fun c => !isSlash c
      if isDrive host then some (here r)
      else if host.isEmpty then some (placed (.name []) r)
      else do
        let h ← Host.ofText? host
        some (placed (if h = .name "localhost".toList then .name [] else h) (r.drop host.length))
  | [c] => some (here (if isSlash c then [] else [c]))
  | [] => some (here [])

/-- Reads an address. Controls and blanks around it do not count, nor line breaks and tabs in it. -/
def ofText? (s : List Char) : Option Url := do
  let isOuter (c : Char) : Bool := c.toNat ≤ 0x20
  let s := ((s.dropWhile isOuter).reverse.dropWhile isOuter).reverse
  let s := s.filter fun c => c != '\t' && c != '\n' && c != '\r'
  let (scheme, s) ← scheme? s
  let (s, fragment) := cut '#' s
  let (s, query) := cut '?' s
  let u : Url :=
    { scheme, user := [], password := none, host := none, portNumber := none, route := .plain []
      query := query.map (encode (if isSpecial scheme then inWebQuery else inQuery))
      fragment := fragment.map (encode inFragment) }
  if isFile scheme then ofFile u s
  else if isSpecial scheme then ofAuthority u (s.dropWhile (isSlash scheme))
  else
    match s with
    | '/' :: '/' :: t => ofAuthority u t
    | '/' :: _ => some { u with route := routeOf scheme s }
    | s => some { u with route := .plain (encode inAnyPart s) }

def withQuery (u : Url) (pairs : List (String × String)) : Url :=
  if pairs.isEmpty then u
  else
    let old := (u.query.filter (!·.isEmpty)).toList
    { u with query := some (joinWith ['&'] (old ++ pairs.map formPair)) }

def withoutUser (u : Url) : Url :=
  let isText (s : List Char) : Bool := (ofBytes? (decode s)).isSome
  if isText u.user && (!u.user.isEmpty || u.password.any isText) then
    { u with user := [], password := none }
  else u

def Route.text : Route → List Char
  | .names l => l.flatMap fun n => '/' :: n
  | .plain s => s

def target (u : Url) : List Char :=
  Route.text u.route ++ u.query.elim [] fun q => '?' :: q

def authority (u : Url) : List Char :=
  let password := u.password.elim [] fun p => ':' :: p
  let user := u.user ++ password
  (if user.isEmpty then [] else user ++ ['@']) ++ (u.host.elim [] Host.text) ++
    u.portNumber.elim [] fun n => ':' :: Decimal.digits n

def front (u : Url) : List Char :=
  match u.host, u.route with
  | some _, _ => '/' :: '/' :: u.authority
  | none, .names ([] :: _ :: _) => ['/', '.']
  | none, _ => []

def text (u : Url) : List Char :=
  u.scheme ++ ':' :: u.front ++ u.target ++ u.fragment.elim [] fun f => '#' :: f

end Url
end PackageMarket.Web
