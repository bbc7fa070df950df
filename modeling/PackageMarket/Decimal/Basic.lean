set_option autoImplicit false

namespace PackageMarket.Decimal

def isDigit (c : Char) : Bool := '0' ≤ c && c ≤ '9'

def digitValue (c : Char) : Nat := c.toNat - 48

def natOfDigits (n : Nat) (s : List Char) : Nat := s.foldl (fun n c => n * 10 + digitValue c) n

def digits (n : Nat) : List Char := Nat.toDigits 10 n

def ofInt (n : Int) : List Char := if n < 0 then '-' :: digits n.natAbs else digits n.natAbs

theorem ofInt_natCast (n : Nat) : ofInt n = digits n := by
  rw [ofInt, if_neg (by omega), Int.natAbs_natCast]

theorem ofList_digits (n : Nat) : String.ofList (digits n) = toString n := rfl

def int64Min : Int := -9223372036854775808

def int64Max : Int := 9223372036854775807

def uint64Max : Nat := 18446744073709551615

def nat? (s : List Char) : Option Nat :=
  if s.isEmpty || !s.all isDigit then none else some (natOfDigits 0 s)

def int64? (s : List Char) : Option Int :=
  let n := match s with
    | '-' :: s => (nat? s).map fun n => -(n : Int)
    | '+' :: s => (nat? s).map fun n => (n : Int)
    | s => (nat? s).map fun n => (n : Int)
  n.filter fun n => int64Min ≤ n && n ≤ int64Max

/-- A quotient rounded to the nearest number, a tie to the even one. -/
def roundDiv (n d : Nat) : Nat :=
  let q := n / d
  let r := n % d
  if 2 * r < d then q else if d < 2 * r then q + 1 else if q % 2 = 0 then q else q + 1

/--
The number `significand * 2 ^ exponent` with a sign. Operations give the form with the exponent from
-1074 to 971 and a significand below `2 ^ 53` that reaches `2 ^ 52` unless the exponent is the
least.
-/
structure Binary64 where
  negative : Bool
  significand : Nat
  exponent : Int
  deriving DecidableEq, Repr, Inhabited

namespace Binary64

def minExponent : Int := -1074

def maxExponent : Int := 971

def zero : Binary64 := ⟨false, 0, minExponent⟩

def isZero (x : Binary64) : Bool := x.significand = 0

def ratio (n : Nat) (e : Int) (d : Nat) (f : Int) : Nat × Nat :=
  if f ≤ e then (n * Nat.pow 2 (e - f).toNat, d) else (n, d * Nat.pow 2 (f - e).toNat)

def nearest (negative : Bool) (n d : Nat) : Option Binary64 :=
  if n = 0 then some ⟨negative, 0, minExponent⟩
  else
    let guess : Int := n.log2 - d.log2 - 52
    let below (e : Int) : Bool :=
      let (a, b) := ratio n 0 d e
      a < b * Nat.pow 2 52
    let e := max minExponent (if below guess then guess - 1 else guess)
    let (a, b) := ratio n 0 d e
    let m := roundDiv a b
    let (m, e) := if m = Nat.pow 2 53 then (Nat.pow 2 52, e + 1) else (m, e)
    if maxExponent < e then none else some ⟨negative, m, e⟩

def ofNat (n : Nat) : Binary64 := (nearest false n 1).getD zero

def ofInt (n : Int) : Binary64 := (nearest (n < 0) n.natAbs 1).getD zero

def mul (x y : Binary64) : Option Binary64 :=
  let (n, d) := ratio (x.significand * y.significand) (x.exponent + y.exponent) 1 0
  nearest (x.negative != y.negative) n d

def div (x y : Binary64) : Option Binary64 :=
  let (n, d) := ratio x.significand x.exponent y.significand y.exponent
  nearest (x.negative != y.negative) n d

def powerOfTen (k : Nat) : Binary64 := ofNat (Nat.pow 10 k)

def scaleDown (x : Binary64) (n : Nat) : Binary64 :=
  if x.isZero then x
  else if h : n ≤ 308 then (x.div (powerOfTen n)).getD x
  else scaleDown ((x.div (powerOfTen 308)).getD x) (n - 308)
termination_by n
decreasing_by omega

/--
`significand * 10 ^ exponent` with one rounding of the significand, one of the power and one of the
product or quotient, so that the result can be next to the nearest number. Nothing is beyond 308
powers up but zero.
-/
def ofDecimal (negative : Bool) (significand : Nat) (exponent : Int) : Option Binary64 :=
  let x : Binary64 := { ofNat significand with negative }
  if x.isZero then some x
  else if exponent < 0 then some (scaleDown x exponent.natAbs)
  else if exponent ≤ 308 then x.mul (powerOfTen exponent.toNat)
  else none

end Binary64

/-- The number `digits * 10 ^ exponent`. -/
structure Digits where
  digits : Nat
  exponent : Int
  deriving DecidableEq, Repr

namespace Binary64

/-- The reals that round to a number, as `low / unit` to `high / unit` around `value / unit`. -/
structure Interval where
  low : Nat
  value : Nat
  high : Nat
  unit : Nat
  closed : Bool

/-- Below a power of two the numbers are twice as dense. -/
def interval (x : Binary64) : Interval :=
  let m := x.significand
  let scale (n : Nat) : Nat := n * Nat.pow 2 (x.exponent - 2).toNat
  { low := scale (if m = Nat.pow 2 52 && minExponent < x.exponent then 4 * m - 1 else 4 * m - 2)
    value := scale (4 * m)
    high := scale (4 * m + 2)
    unit := Nat.pow 2 (2 - x.exponent).toNat
    closed := m % 2 = 0 }

def Interval.contains (i : Interval) (c : Nat) (k : Int) : Bool :=
  let a := c * Nat.pow 10 k.toNat * i.unit
  let b := Nat.pow 10 (-k).toNat
  if i.closed then i.low * b ≤ a && a ≤ i.high * b else i.low * b < a && a < i.high * b

def Interval.onGrid (i : Interval) (k : Int) : Option Digits :=
  let n := i.value * Nat.pow 10 (-k).toNat
  let d := i.unit * Nat.pow 10 k.toNat
  let c := n / d
  match i.contains c k, i.contains (c + 1) k with
  | true, true => some ⟨roundDiv n d, k⟩
  | true, false => some ⟨c, k⟩
  | false, true => some ⟨c + 1, k⟩
  | false, false => none

def log10 (n d : Nat) : Int := ((digits (n * Nat.pow 10 330 / d)).length : Int) - 331

def Interval.search (i : Interval) (k : Int) : Nat → Digits
  | 0 => (i.onGrid k).getD ⟨0, 0⟩
  | n + 1 => (i.onGrid k).getD (i.search (k - 1) n)

def shortest (x : Binary64) : Digits :=
  if x.isZero then ⟨0, 0⟩ else
  let i := x.interval
  i.search (log10 i.value i.unit + 1) 18

def toPlaces (x : Binary64) (places : Nat) : Nat :=
  let (n, d) := ratio (x.significand * Nat.pow 10 places) x.exponent 1 0
  roundDiv n d

def fixed (x : Binary64) (places : Nat) : List Char :=
  let ds := digits (x.toPlaces places)
  let ds := List.replicate (places + 1 - ds.length) '0' ++ ds
  let whole := ds.take (ds.length - places)
  (if x.negative then ['-'] else []) ++ whole ++ '.' :: ds.drop whole.length

/--
Positional from `1e-5` to below `1e16`, with at least one digit on either side of the point; else
one digit before the point and an exponent with its sign.
-/
def format (x : Binary64) : List Char :=
  let sign := if x.negative then ['-'] else []
  if x.isZero then sign ++ ['0', '.', '0'] else
  let short := x.shortest
  let ds := digits short.digits
  let point : Int := ds.length + short.exponent
  sign ++
    if 0 ≤ short.exponent && point ≤ 16 then
      ds ++ List.replicate short.exponent.toNat '0' ++ ['.', '0']
    else if 0 < point && point ≤ 16 then
      ds.take point.toNat ++ '.' :: ds.drop point.toNat
    else if -5 < point && point ≤ 0 then
      '0' :: '.' :: List.replicate point.natAbs '0' ++ ds
    else
      ds.take 1 ++ (if ds.length = 1 then [] else '.' :: ds.drop 1) ++ 'e' ::
        (if point - 1 < 0 then '-' else '+') :: digits (point - 1).natAbs

end Binary64
end PackageMarket.Decimal
