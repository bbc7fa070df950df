import PackageMarket.Decimal.Basic
import PackageMarket.Toml.Quoted
import PackageMarket.Toml.Table

set_option autoImplicit false

namespace PackageMarket.Toml

open Decimal Text

abbrev Form := List Char → Option (List Char)

def taken (s : List Char) (rest : Option (List Char)) : Option (Read (List Char) s) := do
  let r ← rest
  if h : r.length < s.length then some ⟨s.take (s.length - r.length), r, h⟩ else none

def letter (c : Char) : Form
  | d :: s => if d = c then some s else none
  | [] => none

def word : List Char → Form
  | [], s => some s
  | c :: w, s => do word w (← letter c s)

namespace Moment

def number (count low high : Nat) (s : List Char) : Option (Nat × List Char) :=
  let ds := s.take count
  let n := natOfDigits 0 ds
  if ds.length = count && ds.all isDigit && low ≤ n && n ≤ high then some (n, s.drop count)
  else none

def isLeap (year : Nat) : Bool := year % 4 = 0 && (year % 100 != 0 || year % 400 = 0)

def days (year month : Nat) : Nat :=
  if month = 2 then if isLeap year then 29 else 28
  else if [4, 6, 9, 11].contains month then 30
  else 31

def date : Form := fun s => do
  let (year, s) ← number 4 0 9999 s
  let (month, s) ← number 2 1 12 (← letter '-' s)
  let (_, s) ← number 2 1 (days year month) (← letter '-' s)
  some s

/-- The second can be 60, and have a fraction. -/
def clock : Form := fun s => do
  let (_, s) ← number 2 0 23 s
  let (_, s) ← number 2 0 59 (← letter ':' s)
  let (_, s) ← number 2 0 60 (← letter ':' s)
  match s with
  | '.' :: c :: r => some (if isDigit c then r.dropWhile isDigit else s)
  | s => some s

def offset : Form
  | [] => none
  | c :: s =>
    if c = 'Z' || c = 'z' then some s
    else if c = '+' || c = '-' then do
      let (_, s) ← number 2 0 23 s
      let (_, s) ← number 2 0 59 (← letter ':' s)
      some s
    else none

def form : Form := fun s =>
  match date s with
  | none => clock s
  | some [] => some []
  | some (c :: t) =>
    if c = 'T' || c = 't' || c = ' ' then
      match clock t with
      | some u => some ((offset u).getD u)
      | none => some (c :: t)
    else some (c :: t)

end Moment

namespace Digits

def rest (isDigit : Char → Bool) : List Char → List Char
  | '_' :: c :: s => if isDigit c then rest isDigit s else '_' :: c :: s
  | c :: s => if isDigit c then rest isDigit s else c :: s
  | [] => []

def form (isDigit : Char → Bool) : Form
  | c :: s => if isDigit c then some (rest isDigit s) else none
  | [] => none

end Digits

def afterSign : List Char → List Char
  | '+' :: s => s
  | '-' :: s => s
  | s => s

def whole : Form := fun s =>
  match afterSign s with
  | '0' :: r => some r
  | r => Digits.form isDigit r

namespace FloatLiteral

def fraction : Form := fun s => do Digits.form isDigit (← letter '.' s)

def exponent : Form
  | c :: s => if c = 'e' || c = 'E' then Digits.form isDigit (afterSign s) else none
  | [] => none

def form : Form := fun s => do
  let r ← whole s
  match fraction r with
  | some t => some ((exponent t).getD t)
  | none => exponent r

def special : Form := fun s =>
  let s := afterSign s
  (word ['i', 'n', 'f'] s).or (word ['n', 'a', 'n'] s)

def exceeds (n : Nat) (e : Int) : Bool :=
  let point : Int := (digits n).length + e
  n != 0 && (310 < point ||
    (0 < point && (Binary64.nearest false (n * Nat.pow 10 e.toNat) (Nat.pow 10 (-e).toNat)).isNone))

/-- The literal stands for a positive number beyond the largest float. -/
def isTooLarge (text : List Char) : Bool :=
  let ds := text.filter (· != '_')
  if ds.head? = some '-' then false
  else
    let s := afterSign ds
    let significand := s.takeWhile fun c => c != 'e' && c != 'E'
    let whole := significand.takeWhile (· != '.')
    let fraction := (significand.dropWhile (· != '.')).drop 1
    let e : Int := match s.drop significand.length with
      | _ :: '-' :: t => -(natOfDigits 0 t : Int)
      | _ :: t => natOfDigits 0 (afterSign t)
      | [] => 0
    exceeds (natOfDigits 0 (whole ++ fraction)) (e - fraction.length)

end FloatLiteral

def basedDigit (base : Nat) (c : Char) : Bool := (hexValue? c).any (· < base)

def baseOf : List Char → Option (Nat × List Char)
  | '0' :: 'x' :: s => some (16, s)
  | '0' :: 'o' :: s => some (8, s)
  | '0' :: 'b' :: s => some (2, s)
  | _ => none

def natOfBase (base : Nat) (s : List Char) : Nat :=
  s.foldl (fun n c => n * base + (hexValue? c).getD 0) 0

def integer : Reader Int := fun s =>
  match baseOf s with
  | some (base, t) => do
    let r ← taken s (Digits.form (basedDigit base) t)
    let n := natOfBase base ((r.value.drop 2).filter (· != '_'))
    if (n : Int) ≤ int64Max then some (r.map fun _ => n) else none
  | none => do
    let r ← taken s (whole s)
    let n ← int64? (r.value.filter (· != '_'))
    some (r.map fun _ => n)

def numeric : Reader Value := fun s =>
  match taken s (Moment.form s) with
  | some r => some (r.map .moment)
  | none =>
    match taken s (FloatLiteral.form s) with
    | some r => if FloatLiteral.isTooLarge r.value then none else some (r.map .float)
    | none =>
      match taken s (FloatLiteral.special s) with
      | some r => some (r.map .float)
      | none => do
        let r ← integer s
        some (r.map .integer)

def literal : Reader Value := fun s =>
  match taken s (word ['t', 'r', 'u', 'e'] s) with
  | some r => some (r.map fun _ => .boolean true)
  | none =>
    match taken s (word ['f', 'a', 'l', 's', 'e'] s) with
    | some r => some (r.map fun _ => .boolean false)
    | none => numeric s

end PackageMarket.Toml
