import PackageMarket.Decimal.Basic
import PackageMarket.Text.Basic

set_option autoImplicit false

/-!
JSON values. Integers of 64 bits, signed or unsigned, are kept as such; every other number is a
binary floating-point number. The members of an object keep the order they are given in; `insert`
keeps them sorted by name.
-/

namespace PackageMarket.Json

open Decimal

inductive Number where
  | int (n : Int)
  | float (x : Binary64)
  deriving DecidableEq, Repr

inductive Value where
  | null
  | bool (b : Bool)
  | number (n : Number)
  | string (s : String)
  | array (items : List Value)
  | object (members : List (String × Value))
  deriving Repr, Inhabited

namespace Value

-- equality is decided by hand: it is not derived for a type that is nested in lists
mutual

def same : Value → Value → Bool
  | .null, .null => true
  | .bool a, .bool b => a = b
  | .number m, .number n => m = n
  | .string s, .string t => s = t
  | .array vs, .array ws => sameItems vs ws
  | .object ms, .object ns => sameMembers ms ns
  | _, _ => false

def sameItems : List Value → List Value → Bool
  | [], [] => true
  | v :: vs, w :: ws => same v w && sameItems vs ws
  | _, _ => false

def sameMembers : List (String × Value) → List (String × Value) → Bool
  | [], [] => true
  | (k, v) :: ms, (l, w) :: ns => k = l && (same v w && sameMembers ms ns)
  | _, _ => false

end

mutual

theorem same_iff : (v w : Value) → (same v w ↔ v = w)
  | .null, w | .bool _, w | .number _, w | .string _, w => by cases w <;> simp [same]
  | .array vs, w => by cases w <;> simp [same, sameItems_iff vs]
  | .object ms, w => by cases w <;> simp [same, sameMembers_iff ms]

theorem sameItems_iff : (vs ws : List Value) → (sameItems vs ws ↔ vs = ws)
  | [], ws => by cases ws <;> simp [sameItems]
  | v :: vs, ws => by cases ws <;> simp [sameItems, same_iff v, sameItems_iff vs]

theorem sameMembers_iff : (ms ns : List (String × Value)) → (sameMembers ms ns ↔ ms = ns)
  | [], ns => by cases ns <;> simp [sameMembers]
  | (k, v) :: ms, ns => by
    rcases ns with _ | ⟨⟨l, w⟩, ns⟩ <;>
      simp [sameMembers, same_iff v, sameMembers_iff ms, and_assoc]

end

instance : DecidableEq Value := fun v w => decidable_of_iff _ (same_iff v w)

def int (n : Int) : Value := .number (.int n)

def nat (n : Nat) : Value := .number (.int n)

def float (x : Binary64) : Value := .number (.float x)

def ofOption {α : Type} (f : α → Value) (o : Option α) : Value := o.elim .null f

/-- Puts a member at its place in the order of names; one of the same name is replaced. -/
def insert (name : String) (v : Value) : List (String × Value) → List (String × Value)
  | [] => [(name, v)]
  | m :: ms =>
    if name < m.1 then (name, v) :: m :: ms
    else if name = m.1 then (name, v) :: ms
    else m :: insert name v ms

def lookup (name : String) : List (String × Value) → Option Value
  | [] => none
  | m :: ms => if m.1 = name then some m.2 else lookup name ms

def get? (name : String) : Value → Option Value
  | .object ms => lookup name ms
  | _ => none

def string? : Value → Option String
  | .string s => some s
  | _ => none

def isObject : Value → Bool
  | .object _ => true
  | _ => false

mutual

def sorted : Value → Value
  | .array items => .array (sortedItems items)
  | .object members => .object (sortedMembers members)
  | v => v

def sortedItems : List Value → List Value
  | [] => []
  | v :: vs => sorted v :: sortedItems vs

/-- The last of several members of one name is kept. -/
def sortedMembers (ms : List (String × Value)) : List (String × Value) :=
  insertAll [] ms

def insertAll (before : List (String × Value)) : List (String × Value) → List (String × Value)
  | [] => before
  | (name, v) :: ms => insertAll (insert name (sorted v) before) ms

end

end Value

open Text

def Number.text : Number → List Char
  | .int n => ofInt n
  | .float x => x.format

def escapeChar (c : Char) : List Char :=
  match c with
  | '"' => ['\\', '"']
  | '\\' => ['\\', '\\']
  | '\n' => ['\\', 'n']
  | '\r' => ['\\', 'r']
  | '\t' => ['\\', 't']
  | '\x08' => ['\\', 'b']
  | '\x0c' => ['\\', 'f']
  | c =>
    if c.toNat < 0x20 then ['\\', 'u', '0', '0', hexDigit (c.toNat / 16), hexDigit (c.toNat % 16)]
    else [c]

def quote (s : List Char) : List Char := '"' :: s.flatMap escapeChar ++ ['"']

namespace Value

mutual

def compact : Value → List Char
  | .null => ['n', 'u', 'l', 'l']
  | .bool true => ['t', 'r', 'u', 'e']
  | .bool false => ['f', 'a', 'l', 's', 'e']
  | .number n => n.text
  | .string s => quote s.toList
  | .array items => '[' :: compactItems items ++ [']']
  | .object members => '\x7b' :: compactMembers members ++ ['\x7d']

def compactItems : List Value → List Char
  | [] => []
  | [v] => compact v
  | v :: vs => compact v ++ ',' :: compactItems vs

def compactMembers : List (String × Value) → List Char
  | [] => []
  | [(k, v)] => quote k.toList ++ ':' :: compact v
  | (k, v) :: ms => quote k.toList ++ ':' :: (compact v ++ ',' :: compactMembers ms)

end

def newline (level : Nat) : List Char := '\n' :: List.replicate (2 * level) ' '

mutual

/-- The laid out text of a value that begins on a line at `level`. -/
def prettyAt (level : Nat) : Value → List Char
  | .array [] => ['[', ']']
  | .array (v :: vs) => '[' :: prettyItems (level + 1) (v :: vs) ++ newline level ++ [']']
  | .object [] => ['\x7b', '\x7d']
  | .object (m :: ms) => '\x7b' :: prettyMembers (level + 1) (m :: ms) ++ newline level ++ ['\x7d']
  | v => compact v

def prettyItems (level : Nat) : List Value → List Char
  | [] => []
  | [v] => newline level ++ prettyAt level v
  | v :: vs => newline level ++ prettyAt level v ++ ',' :: prettyItems level vs

def prettyMembers (level : Nat) : List (String × Value) → List Char
  | [] => []
  | [(k, v)] => newline level ++ quote k.toList ++ ':' :: ' ' :: prettyAt level v
  | (k, v) :: ms =>
    newline level ++ quote
      k.toList ++ ':' :: ' ' :: (prettyAt level v ++ ',' :: prettyMembers level ms)

end

def pretty (v : Value) : List Char := prettyAt 0 v

def compactText (v : Value) : String := String.ofList v.compact

def prettyText (v : Value) : String := String.ofList v.pretty

end Value
end PackageMarket.Json
