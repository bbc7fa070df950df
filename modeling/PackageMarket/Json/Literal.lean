import PackageMarket.Json.Fault
import PackageMarket.Text.Basic

set_option autoImplicit false

namespace PackageMarket.Json

open Decimal Text

/-- The parts of a number as they are written. An exponent has its sign before its digits. -/
structure Literal where
  negative : Bool
  whole : List Char
  fraction : List Char
  exponent : Option (Bool × List Char)
  deriving DecidableEq

/-- Takes digits into the significand `n` while it stays below `2 ^ 64`, and leaves the others. -/
def absorb (n : Nat) : List Char → Nat × List Char
  | [] => (n, [])
  | c :: s =>
    if n * 10 + digitValue c ≤ uint64Max then absorb (n * 10 + digitValue c) s else (n, c :: s)

/-- The digits up to the one that takes an exponent beyond 31 bits, if one does. -/
def exponentOverflow (n : Nat) : List Char → Option Nat
  | [] => none
  | c :: s =>
    if n * 10 + digitValue c ≤ 2147483647 then
      (exponentOverflow (n * 10 + digitValue c) s).map (· + 1)
    else some 1

namespace Literal

def isInteger (l : Literal) : Bool := l.fraction.isEmpty && l.exponent.isNone

def significand (l : Literal) : Nat × Int :=
  let (n, dropped) := absorb 0 l.whole
  let (m, beyond) := absorb n l.fraction
  (m, (dropped.length : Int) - (l.fraction.length - beyond.length : Nat))

/-- A non-zero number with an exponent of more than 31 bits: the digits
of the exponent left unread. -/
def unread (l : Literal) : Option Nat :=
  match l.exponent with
  | some (false, ds) =>
    if l.significand.1 = 0 then none else (exponentOverflow 0 ds).map (ds.length - ·)
  | _ => none

def float (l : Literal) : Option Binary64 :=
  let (n, e) := l.significand
  match l.exponent with
  | none => Binary64.ofDecimal l.negative n e
  | some (negative, ds) =>
    let k := if (exponentOverflow 0 ds).isSome then 2147483648 else natOfDigits 0 ds
    Binary64.ofDecimal l.negative n (if negative then e - k else e + k)

def value (l : Literal) : Option Number :=
  let n := natOfDigits 0 l.whole
  if l.isInteger && n ≤ uint64Max && !l.negative then some (.int n)
  else if l.isInteger && 0 < n && n ≤ 9223372036854775808 then some (.int (-n))
  else l.float.map .float

end Literal

abbrev Reader (α : Type) := (s : List Char) → Except Fault (Read α s)

namespace Literal

def exponentSign (s : List Char) : Bool × Rest s :=
  match s with
  | '-' :: t => (true, (Rest.all t).cons _)
  | '+' :: t => (false, (Rest.all t).cons _)
  | t => (false, .all t)

def exponentOf (atEnd : Cause) (s : List Char) :
    Except Fault (Rest s × Option (Bool × List Char)) :=
  match s with
  | [] => .ok (.none, none)
  | mark :: r =>
    if mark = 'e' || mark = 'E' then
      let (negative, t) := exponentSign r
      match t.text with
      | [] => .error (.before atEnd [])
      | c :: u =>
        if isDigit c then
          let digits := t.text.takeWhile isDigit
          .ok (((Rest.dropWhile isDigit t.text).widen t.le).cons mark, some (negative, digits))
        else .error (.inNext .invalidNumber (c :: u))
    else .ok (.all (mark :: r), none)

def tailOf (atEnd : Cause) (negative : Bool) (whole : List Char) (s : List Char) :
    Except Fault (Rest s × Literal) :=
  match s with
  | '.' :: r =>
    let t := Rest.dropWhile isDigit r
    match t.text, r.takeWhile isDigit with
    | [], [] => .error (.inNext atEnd [])
    | c :: u, [] => .error (.inNext .invalidNumber (c :: u))
    | _, fraction => do
      let (rest, exponent) ← exponentOf atEnd t.text
      .ok ((rest.widen t.le).cons _, ⟨negative, whole, fraction, exponent⟩)
  | s => do
    let (rest, exponent) ← exponentOf atEnd s
    .ok (rest, ⟨negative, whole, [], exponent⟩)

/-- Reads the digits of a literal; a zero that leads is alone. `atEnd` is the
fault of a text that ends in it. -/
def unsigned (atEnd : Cause) (negative : Bool) : Reader Literal
  | [] => .error (.before atEnd [])
  | '0' :: s =>
    match s with
    | c :: r =>
      if isDigit c then .error (.inNext .invalidNumber (c :: r))
      else do
        let (rest, l) ← tailOf atEnd negative ['0'] (c :: r)
        .ok (.upTo l _ rest)
    | [] => .ok (.one ⟨negative, ['0'], [], none⟩ _ [])
  | c :: s =>
    if isDigit c then do
      let t := Rest.dropWhile isDigit s
      let (rest, l) ← tailOf atEnd negative (c :: s.takeWhile isDigit) t.text
      .ok (.upTo l c (rest.widen t.le))
    else .error (.inNext .invalidNumber (c :: s))

def read (atEnd : Cause) : Reader Literal
  | '-' :: s => do
    let r ← unsigned atEnd true s
    .ok (r.cons _)
  | s => unsigned atEnd false s

end Literal

def Number.read : Reader Number := fun s => do
  let r ← Literal.read .endInValue s
  match r.value.unread, r.value.value with
  | some n, _ => .error ⟨.numberOutOfRange, size r.rest + n⟩
  | none, some n => .ok (r.map fun _ => n)
  | none, none => .error (.before .numberOutOfRange r.rest)

/-- The fault of what is not four hexadecimal digits. Four bytes are read all the same. -/
def hexFault (s : List Char) : Fault :=
  if size s < 4 then ⟨.endInString, 0⟩ else ⟨.invalidEscape, size s - 4⟩

def hexUnit : Reader Nat := fun s =>
  match s with
  | a :: b :: c :: d :: r =>
    match hexValue? a, hexValue? b, hexValue? c, hexValue? d with
    | some a, some b, some c, some d =>
      .ok ((((Read.one (((a * 16 + b) * 16 + c) * 16 + d) _ r).cons _).cons _).cons _)
    | _, _, _, _ => .error (hexFault s)
  | _ => .error (hexFault s)

def isHighSurrogate (n : Nat) : Bool := 0xD800 ≤ n && n ≤ 0xDBFF

def isLowSurrogate (n : Nat) : Bool := 0xDC00 ≤ n && n ≤ 0xDFFF

/-- What follows a high surrogate: a second escape with a low one. -/
def lowSurrogate : Reader Nat
  | [] => .error (.before .endInString [])
  | c :: s =>
    if c != '\\' then .error (.inNext .endOfHexEscape (c :: s))
    else match s with
      | [] => .error (.before .endInString [])
      | c :: s =>
        if c != 'u' then .error (.inNext .endOfHexEscape (c :: s))
        else do
          let r ← hexUnit s
          if isLowSurrogate r.value then .ok ((r.cons _).cons _)
          else .error (.before .loneSurrogate r.rest)

def codePoint : Reader Char := fun s => do
  let r ← hexUnit s
  if isLowSurrogate r.value then .error (.before .loneSurrogate r.rest)
  else if isHighSurrogate r.value then
    let l ← lowSurrogate r.rest
    .ok (r.behind (l.map fun n => Char.ofNat ((r.value - 0xD800) * 1024 + (n - 0xDC00) + 0x10000)))
  else .ok (r.map Char.ofNat)

def unescape? : Char → Option Char
  | '"' => some '"'
  | '\\' => some '\\'
  | '/' => some '/'
  | 'b' => some '\x08'
  | 'f' => some '\x0c'
  | 'n' => some '\n'
  | 'r' => some '\r'
  | 't' => some '\t'
  | _ => none

def escaped : Reader Char
  | [] => .error (.before .endInString [])
  | c :: s =>
    if c = 'u' then do
      let r ← codePoint s
      .ok (r.cons c)
    else match unescape? c with
      | some x => .ok (.one x c s)
      | none => .error (.inNext .invalidEscape (c :: s))

def skipEscaped : Reader Unit
  | [] => .error (.before .endInString [])
  | c :: s =>
    if c = 'u' then do
      let r ← hexUnit s
      .ok ((r.map fun _ => ()).cons c)
    else match unescape? c with
      | some _ => .ok (.one () c s)
      | none => .error (.inNext .invalidEscape (c :: s))

def quotedAfter (done : List Char) (s : List Char) : Except Fault (Read (List Char) s) :=
  match s with
  | [] => .error (.before .endInString [])
  | c :: s =>
    if c = '"' then .ok (.one done.reverse c s)
    else if c = '\\' then
      match escaped s with
      | .error f => .error f
      | .ok r =>
        match quotedAfter (r.value :: done) r.rest with
        | .error f => .error f
        | .ok t => .ok ((r.behind t).cons c)
    else if c.toNat < 0x20 then .error (.before .controlCharacter s)
    else
      match quotedAfter (c :: done) s with
      | .error f => .error f
      | .ok t => .ok (t.cons c)
termination_by s.length
decreasing_by
  · have := r.shorter; simp; omega
  · simp

def quoted : Reader (List Char) := quotedAfter []

def skipQuoted (s : List Char) : Except Fault (Read Unit s) :=
  match s with
  | [] => .error (.before .endInString [])
  | c :: s =>
    if c = '"' then .ok (.one () c s)
    else if c = '\\' then
      match skipEscaped s with
      | .error f => .error f
      | .ok r =>
        match skipQuoted r.rest with
        | .error f => .error f
        | .ok t => .ok ((r.behind t).cons c)
    else if c.toNat < 0x20 then .error (.before .controlCharacter (c :: s))
    else
      match skipQuoted s with
      | .error f => .error f
      | .ok t => .ok (t.cons c)
termination_by s.length
decreasing_by
  · have := r.shorter; simp; omega
  · simp

end PackageMarket.Json
