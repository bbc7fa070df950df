import PackageMarket.Decimal.Basic
import PackageMarket.Text.Basic

set_option autoImplicit false

/-!
Hosts: numeric addresses of two kinds, and names. A name whose last part is a number must be an
address of four bytes, which can be written with fewer and larger numbers, to the bases ten, eight
and sixteen.
-/

namespace PackageMarket.Text

/-- The first and the last capital letter of a row, the step between them, and
the small letter of the first. -/
def smallLetterRows : List (Nat × Nat × Nat × Nat) :=
  [(0xC0, 0xD6, 1, 0xE0), (0xD8, 0xDE, 1, 0xF8), (0x100, 0x12E, 2, 0x101), (0x134, 0x136, 2, 0x135),
   (0x139, 0x13D, 2, 0x13A), (0x141, 0x147, 2, 0x142), (0x14A, 0x176, 2, 0x14B),
   (0x178, 0x178, 1, 0xFF), (0x179, 0x17D, 2, 0x17A), (0x181, 0x181, 1, 0x253),
   (0x182, 0x184, 2, 0x183), (0x186, 0x186, 1, 0x254), (0x187, 0x187, 1, 0x188),
   (0x189, 0x18A, 1, 0x256), (0x18B, 0x18B, 1, 0x18C), (0x18E, 0x18E, 1, 0x1DD),
   (0x18F, 0x18F, 1, 0x259), (0x190, 0x190, 1, 0x25B), (0x191, 0x191, 1, 0x192),
   (0x193, 0x193, 1, 0x260), (0x194, 0x194, 1, 0x263), (0x196, 0x196, 1, 0x269),
   (0x197, 0x197, 1, 0x268), (0x198, 0x198, 1, 0x199), (0x19C, 0x19C, 1, 0x26F),
   (0x19D, 0x19D, 1, 0x272), (0x19F, 0x19F, 1, 0x275), (0x1A0, 0x1A4, 2, 0x1A1),
   (0x1A6, 0x1A6, 1, 0x280), (0x1A7, 0x1A7, 1, 0x1A8), (0x1A9, 0x1A9, 1, 0x283),
   (0x1AC, 0x1AC, 1, 0x1AD), (0x1AE, 0x1AE, 1, 0x288), (0x1AF, 0x1AF, 1, 0x1B0),
   (0x1B1, 0x1B2, 1, 0x28A), (0x1B3, 0x1B5, 2, 0x1B4), (0x1B7, 0x1B7, 1, 0x292),
   (0x1B8, 0x1B8, 1, 0x1B9), (0x1BC, 0x1BC, 1, 0x1BD), (0x1CD, 0x1DB, 2, 0x1CE),
   (0x1DE, 0x1EE, 2, 0x1DF), (0x1F4, 0x1F4, 1, 0x1F5), (0x1F6, 0x1F6, 1, 0x195),
   (0x1F7, 0x1F7, 1, 0x1BF), (0x1F8, 0x21E, 2, 0x1F9), (0x220, 0x220, 1, 0x19E),
   (0x222, 0x232, 2, 0x223), (0x23A, 0x23A, 1, 0x2C65), (0x23B, 0x23B, 1, 0x23C),
   (0x23D, 0x23D, 1, 0x19A), (0x23E, 0x23E, 1, 0x2C66), (0x241, 0x241, 1, 0x242),
   (0x243, 0x243, 1, 0x180), (0x244, 0x244, 1, 0x289), (0x245, 0x245, 1, 0x28C),
   (0x246, 0x24E, 2, 0x247), (0x345, 0x345, 1, 0x3B9), (0x370, 0x372, 2, 0x371),
   (0x376, 0x376, 1, 0x377), (0x37F, 0x37F, 1, 0x3F3), (0x386, 0x386, 1, 0x3AC),
   (0x388, 0x38A, 1, 0x3AD), (0x38C, 0x38C, 1, 0x3CC), (0x38E, 0x38F, 1, 0x3CD),
   (0x391, 0x3A1, 1, 0x3B1), (0x3A3, 0x3AB, 1, 0x3C3), (0x3CF, 0x3CF, 1, 0x3D7),
   (0x3D8, 0x3EE, 2, 0x3D9), (0x3F7, 0x3F7, 1, 0x3F8), (0x3FA, 0x3FA, 1, 0x3FB),
   (0x3FD, 0x3FF, 1, 0x37B), (0x400, 0x40F, 1, 0x450), (0x410, 0x42F, 1, 0x430),
   (0x460, 0x480, 2, 0x461), (0x48A, 0x4BE, 2, 0x48B), (0x4C0, 0x4C0, 1, 0x4CF),
   (0x4C1, 0x4CD, 2, 0x4C2), (0x4D0, 0x52E, 2, 0x4D1), (0x531, 0x556, 1, 0x561),
   (0x10A0, 0x10C5, 1, 0x2D00), (0x10C7, 0x10C7, 1, 0x2D27), (0x10CD, 0x10CD, 1, 0x2D2D),
   (0x1C80, 0x1C80, 1, 0x432), (0x1C81, 0x1C81, 1, 0x434), (0x1C82, 0x1C82, 1, 0x43E),
   (0x1C83, 0x1C84, 1, 0x441), (0x1C85, 0x1C85, 1, 0x442), (0x1C86, 0x1C86, 1, 0x44A),
   (0x1C87, 0x1C87, 1, 0x463), (0x1C88, 0x1C88, 1, 0xA64B), (0x1C90, 0x1CBA, 1, 0x10D0),
   (0x1CBD, 0x1CBF, 1, 0x10FD), (0x1E00, 0x1E94, 2, 0x1E01), (0x1EA0, 0x1EFE, 2, 0x1EA1),
   (0x1F08, 0x1F0F, 1, 0x1F00), (0x1F18, 0x1F1D, 1, 0x1F10), (0x1F28, 0x1F2F, 1, 0x1F20),
   (0x1F38, 0x1F3F, 1, 0x1F30), (0x1F48, 0x1F4D, 1, 0x1F40), (0x1F59, 0x1F5F, 2, 0x1F51),
   (0x1F68, 0x1F6F, 1, 0x1F60), (0x1FB8, 0x1FB9, 1, 0x1FB0), (0x1FBA, 0x1FBA, 1, 0x1F70),
   (0x1FC8, 0x1FCA, 2, 0x1F72), (0x1FD8, 0x1FD9, 1, 0x1FD0), (0x1FDA, 0x1FDA, 1, 0x1F76),
   (0x1FE8, 0x1FE9, 1, 0x1FE0), (0x1FEA, 0x1FEA, 1, 0x1F7A), (0x1FEC, 0x1FEC, 1, 0x1FE5),
   (0x1FF8, 0x1FF8, 1, 0x1F78), (0x1FFA, 0x1FFA, 1, 0x1F7C), (0x2132, 0x2132, 1, 0x214E),
   (0x2183, 0x2183, 1, 0x2184), (0x2C00, 0x2C2F, 1, 0x2C30), (0x2C60, 0x2C60, 1, 0x2C61),
   (0x2C62, 0x2C62, 1, 0x26B), (0x2C63, 0x2C63, 1, 0x1D7D), (0x2C64, 0x2C64, 1, 0x27D),
   (0x2C67, 0x2C6B, 2, 0x2C68), (0x2C6D, 0x2C6D, 1, 0x251), (0x2C6E, 0x2C6E, 1, 0x271),
   (0x2C6F, 0x2C6F, 1, 0x250), (0x2C70, 0x2C70, 1, 0x252), (0x2C72, 0x2C72, 1, 0x2C73),
   (0x2C75, 0x2C75, 1, 0x2C76), (0x2C7E, 0x2C7F, 1, 0x23F), (0x2C80, 0x2CE2, 2, 0x2C81),
   (0x2CEB, 0x2CED, 2, 0x2CEC), (0x2CF2, 0x2CF2, 1, 0x2CF3), (0xA640, 0xA66C, 2, 0xA641),
   (0xA680, 0xA69A, 2, 0xA681), (0xA722, 0xA72E, 2, 0xA723), (0xA732, 0xA76E, 2, 0xA733),
   (0xA779, 0xA77B, 2, 0xA77A), (0xA77D, 0xA77D, 1, 0x1D79), (0xA77E, 0xA786, 2, 0xA77F),
   (0xA78B, 0xA78B, 1, 0xA78C), (0xA78D, 0xA78D, 1, 0x265), (0xA790, 0xA792, 2, 0xA791),
   (0xA796, 0xA7A8, 2, 0xA797), (0xA7AA, 0xA7AA, 1, 0x266), (0xA7AB, 0xA7AB, 1, 0x25C),
   (0xA7AC, 0xA7AC, 1, 0x261), (0xA7AD, 0xA7AD, 1, 0x26C), (0xA7AE, 0xA7AE, 1, 0x26A),
   (0xA7B0, 0xA7B0, 1, 0x29E), (0xA7B1, 0xA7B1, 1, 0x287), (0xA7B2, 0xA7B2, 1, 0x29D),
   (0xA7B3, 0xA7B3, 1, 0xAB53), (0xA7B4, 0xA7C2, 2, 0xA7B5), (0xA7C4, 0xA7C4, 1, 0xA794),
   (0xA7C5, 0xA7C5, 1, 0x282), (0xA7C6, 0xA7C6, 1, 0x1D8E), (0xA7C7, 0xA7C9, 2, 0xA7C8),
   (0xA7D0, 0xA7D0, 1, 0xA7D1), (0xA7D6, 0xA7D8, 2, 0xA7D7), (0xA7F5, 0xA7F5, 1, 0xA7F6),
   (0x10400, 0x10427, 1, 0x10428), (0x104B0, 0x104D3, 1, 0x104D8), (0x10570, 0x1057A, 1, 0x10597),
   (0x1057C, 0x1058A, 1, 0x105A3), (0x1058C, 0x10592, 1, 0x105B3), (0x10594, 0x10595, 1, 0x105BB),
   (0x10C80, 0x10CB2, 1, 0x10CC0), (0x118A0, 0x118BF, 1, 0x118C0), (0x16E40, 0x16E5F, 1, 0x16E60),
   (0x1E900, 0x1E921, 1, 0x1E922)]

/-- The small letter of a capital one beyond ASCII; any other character is its own. -/
def smallLetter (c : Char) : Char :=
  let n := c.toNat
  match smallLetterRows.find? fun r => r.1 ≤ n && n ≤ r.2.1 && (n - r.1) % r.2.2.1 = 0 with
  | some (first, _, _, small) => Char.ofNat (small + (n - first))
  | none => c

end PackageMarket.Text

namespace PackageMarket.Web

open Text

def percentByte (b : UInt8) : List Char :=
  ['%', hexCapital (b.toNat / 16), hexCapital (b.toNat % 16)]

def encode (set : Char → Bool) (s : List Char) : List Char :=
  s.flatMap fun c => if set c then (String.utf8EncodeChar c).flatMap percentByte else [c]

def decode : List Char → List UInt8
  | [] => []
  | '%' :: a :: b :: s =>
    match hexValue? a, hexValue? b with
    | some a, some b => (a * 16 + b).toUInt8 :: decode s
    | _, _ => String.utf8EncodeChar '%' ++ decode (a :: b :: s)
  | c :: s => String.utf8EncodeChar c ++ decode s
termination_by s => s.length

def inAnyPart (c : Char) : Bool := c.toNat < 0x20 || 0x7F ≤ c.toNat

def inQuery (c : Char) : Bool := inAnyPart c || " \"#<>".toList.contains c

def inWebQuery (c : Char) : Bool := inQuery c || c = '\''

def inFragment (c : Char) : Bool := inAnyPart c || " \"<>`".toList.contains c

def inPath (c : Char) : Bool := inFragment c || "#?^\x7b\x7d".toList.contains c

def inUser (c : Char) : Bool := inPath c || "/:;=@[\\]|".toList.contains c

def formByte (b : UInt8) : List Char :=
  let c := Char.ofNat b.toNat
  if b < 0x80 && (c.isAlphanum || "*-._".toList.contains c) then [c]
  else if b = 0x20 then ['+']
  else percentByte b

def formText (s : List Char) : List Char := (utf8 s).flatMap formByte

def formPair (p : String × String) : List Char := formText p.1.toList ++ '=' :: formText p.2.toList

end PackageMarket.Web

namespace PackageMarket.Web.Punycode

def digit (d : Nat) : Char := Char.ofNat (if d < 26 then 97 + d else 22 + d)

def bound (place bias : Nat) : Nat := if place ≤ bias then 1 else if bias + 26 ≤ place then 26
    else place - bias

theorem bound_pos (place bias : Nat) : 1 ≤ bound place bias := by
  unfold bound
  split
  · omega
  · split <;> omega

/-- The digits of a number, the least first. Each has a bound of its own,
and one below it is the last. -/
def digits (place bias n : Nat) : List Char :=
  let t := bound place bias
  if n < t then [digit n]
  else digit (t + (n - t) % (36 - t)) :: digits (place + 36) bias ((n - t) / (36 - t))
termination_by n
decreasing_by
  have h1 := bound_pos place bias
  have h2 : (n - bound place bias) / (36 - bound place bias) ≤ n - bound place bias :=
    Nat.div_le_self _ _
  omega

def scale (n steps : Nat) : Nat × Nat := if 455 < n then scale (n / 35) (steps + 36) else (n, steps)
termination_by n
decreasing_by omega

def adapt (distance count : Nat) (isFirst : Bool) : Nat :=
  let d := distance / (if isFirst then 700 else 2)
  let (n, steps) := scale (d + d / count) 0
  steps + 36 * n / (n + 38)

structure State where
  out : List Char
  next : Nat
  distance : Nat
  bias : Nat
  count : Nat
  isFirst : Bool

def State.pass (m : Nat) (s : State) (c : Nat) : State :=
  if c < m then { s with distance := s.distance + 1 }
  else if c = m then
    { s with
      out := s.out ++ digits 36 s.bias s.distance
      bias := adapt s.distance (s.count + 1) s.isFirst
      distance := 0
      count := s.count + 1
      isFirst := false }
  else s

/-- Counts up to the next code point, and gives the distance to each place that it stands in. -/
def State.place (cs : List Nat) (s : State) (m : Nat) : State :=
  let s := cs.foldl (State.pass m) { s with distance := s.distance + (m - s.next) * (s.count + 1) }
  { s with distance := s.distance + 1, next := m + 1 }

def encode (s : List Char) : List Char :=
  let basic := s.filter (·.toNat < 0x80)
  let cs := s.map Char.toNat
  let beyond := ((cs.filter (0x80 ≤ ·)).mergeSort).eraseDups
  let start := if basic.isEmpty then [] else basic ++ ['-']
  (beyond.foldl (State.place cs) ⟨start, 0x80, 0, 72, basic.length, true⟩).out

end PackageMarket.Web.Punycode

namespace PackageMarket.Web

open Decimal Text

inductive Host where
  | name (s : List Char)
  | four (n : Nat)
  | six (pieces : List Nat)
  deriving DecidableEq, Repr

namespace Host

def number? (base : Nat) (s : List Char) : Option Nat :=
  s.foldlM (fun n c => do
    let d ← hexValue? c
    if d < base then some (n * base + d) else none) 0

/-- A part of a numeric address. A zero in front stands for the base eight, `0x` for sixteen. -/
def part? : List Char → Option Nat
  | [] => none
  | ['0'] => some 0
  | '0' :: x :: s => if x = 'x' || x = 'X' then number? 16 s else number? 8 (x :: s)
  | s => number? 10 s

def parts (s : List Char) : List (List Char) :=
  let ps := splitOn '.' s
  if ps.getLast? = some [] && 1 < ps.length then ps.dropLast else ps

def endsInNumber (s : List Char) : Bool :=
  match (parts s).getLast? with
  | some p => (!p.isEmpty && p.all isDigit) || (part? p).isSome
  | none => false

/-- An address of at most four numbers, of which the last fills all bytes that are left. -/
def four? (s : List Char) : Option Host := do
  let ns ← (parts s).mapM part?
  let last ← ns.getLast?
  let front := ns.dropLast
  if 4 < ns.length || front.any (255 < ·) || Nat.pow 256 (4 - front.length) ≤ last then none
  else some (.four (front.foldl (fun n b => n * 256 + b) 0 * Nat.pow 256 (4 - front.length) + last))

def tail? (s : List Char) : Option (List Nat) := do
  let byte (p : List Char) : Option Nat := do
    let n ← nat? p
    if n ≤ 255 && (p.length = 1 || p.head? != some '0') then some n else none
  match ← (splitOn '.' s).mapM byte with
  | [a, b, c, d] => some [a * 256 + b, c * 256 + d]
  | _ => none

def pieces? (s : List Char) : Option (List Nat) :=
  if s.isEmpty then some []
  else
    let ps := splitOn ':' s
    let piece (p : List Char) : Option (List Nat) :=
      if p.isEmpty || 4 < p.length then none else (number? 16 p).map fun n => [n]
    do
      let front ← ps.dropLast.mapM piece
      let last := ps.getLast?.getD []
      let last ← if last.contains '.' then tail? last else piece last
      some (front.flatten ++ last)

def gap? : List Char → Option (List Char × List Char)
  | ':' :: ':' :: s => some ([], s)
  | c :: s => (gap? s).map fun (a, b) => (c :: a, b)
  | [] => none

/-- Two colons in a row stand for one piece of zero or more. -/
def six? (s : List Char) : Option Host :=
  match gap? s with
  | none => do
    let ps ← pieces? s
    if ps.length = 8 then some (.six ps) else none
  | some (a, b) => do
    if a.contains '.' then none
    let front ← pieces? a
    let back ← pieces? b
    let n := front.length + back.length
    if n ≤ 7 then some (.six (front ++ List.replicate (8 - n) 0 ++ back)) else none

def isForbidden (c : Char) : Bool :=
  c.toNat ≤ 0x20 || c.toNat = 0x7F || "%#/:<>?@[\\]^|".toList.contains c

/-- A character of a name as it is compared: small letters, plain points and forms of usual width,
and nothing for what is not seen. -/
def fold (c : Char) : List Char :=
  let n := c.toNat
  if n < 0x80 then [c.toLower]
  else if n = 0x3002 || n = 0xFF0E || n = 0xFF61 then ['.']
  else if n = 0xAD || n = 0x200B || n = 0x2060 || n = 0xFEFF || (0xFE00 ≤ n && n ≤ 0xFE0F) then []
  else if 0xFF01 ≤ n && n ≤ 0xFF5E then [(Char.ofNat (n - 0xFEE0)).toLower]
  else [smallLetter c]

def isDisallowed (c : Char) : Bool :=
  let n := c.toNat
  (0x80 ≤ n && n ≤ 0xA0) || (0x2000 ≤ n && n ≤ 0x200A) || (0x200E ≤ n && n ≤ 0x200F) ||
  (0x2028 ≤ n && n ≤ 0x202F) || n = 0x205F || n = 0x3000 || (0xE000 ≤ n && n ≤ 0xF8FF) ||
  (0xFFF9 ≤ n && n ≤ 0xFFFF) || 0xE0000 ≤ n

def asciiLabel (s : List Char) : List Char :=
  if s.all (·.toNat < 0x80) then s else "xn--".toList ++ Punycode.encode s

def name? (s : List Char) : Option (List Char) :=
  let s := s.flatMap fold
  if s.any fun c => isForbidden c || isDisallowed c then none
  else some (joinWith ['.'] ((splitOn '.' s).map asciiLabel))

def ofText? (s : List Char) : Option Host :=
  match s with
  | '[' :: t => if t.getLast? = some ']' then six? t.dropLast else none
  | s => do
    let n ← name? (← ofBytes? (decode s))
    if n.isEmpty then none
    else if endsInNumber n then four? n
    else some (.name n)

def ofPlainText? (s : List Char) : Option Host :=
  match s with
  | '[' :: t => if t.getLast? = some ']' then six? t.dropLast else none
  | s =>
    if s.any fun c => c != '%' && isForbidden c && (c.toNat = 0 || 0x20 ≤ c.toNat) &&
      c.toNat != 0x7F then none
    else some (.name (encode inAnyPart s))

def zeros (ps : List Nat) : Nat × Nat :=
  (List.range ps.length).foldl (fun best i =>
    let n := ((ps.drop i).takeWhile (· = 0)).length
    if best.2 < n then (i, n) else best) (0, 0)

def pieceText (ps : List Nat) : List Char := joinWith [':'] (ps.map (Nat.toDigits 16))

def text : Host → List Char
  | .name s => s
  | .four n =>
    joinWith ['.'] ([n / 0x1000000, n / 0x10000 % 256, n / 0x100 % 256, n % 256].map digits)
  | .six ps =>
    let (i, n) := zeros ps
    if n < 2 then '[' :: pieceText ps ++ [']']
    else '[' :: pieceText (ps.take i) ++ [':', ':'] ++ pieceText (ps.drop (i + n)) ++ [']']

end Host
end PackageMarket.Web
