set_option autoImplicit false

/-!
Tables while a document is read. How a table came to be decides what may still be added to it: a
header may name a table once, though longer headers may have implied it before, and only dotted keys
add to what dotted keys made.
-/

namespace PackageMarket.Toml

/-- Whether a table stands in braces on one line. -/
inductive Shape where
  | inline
  | block
  deriving DecidableEq, Repr

inductive Value where
  | string (s : List Char)
  | integer (n : Int)
  | float (text : List Char)
  | boolean (b : Bool)
  | moment (text : List Char)
  | array (items : List Value)
  | table (shape : Shape) (members : List (List Char × Value))
  deriving Repr, Inhabited

namespace Value

-- decided by hand, as for values of JSON
mutual

def same : Value → Value → Bool
  | .string s, .string t => s = t
  | .integer m, .integer n => m = n
  | .float s, .float t => s = t
  | .boolean a, .boolean b => a = b
  | .moment s, .moment t => s = t
  | .array vs, .array ws => sameItems vs ws
  | .table a ms, .table b ns => a = b && sameMembers ms ns
  | _, _ => false

def sameItems : List Value → List Value → Bool
  | [], [] => true
  | v :: vs, w :: ws => same v w && sameItems vs ws
  | _, _ => false

def sameMembers : List (List Char × Value) → List (List Char × Value) → Bool
  | [], [] => true
  | (k, v) :: ms, (l, w) :: ns => k = l && (same v w && sameMembers ms ns)
  | _, _ => false

end

mutual

theorem same_iff : (v w : Value) → (same v w ↔ v = w)
  | .string _, w | .integer _, w | .float _, w | .boolean _, w | .moment _, w => by
    cases w <;> simp [same]
  | .array vs, w => by cases w <;> simp [same, sameItems_iff vs]
  | .table _ ms, w => by cases w <;> simp [same, sameMembers_iff ms]

theorem sameItems_iff : (vs ws : List Value) → (sameItems vs ws ↔ vs = ws)
  | [], ws => by cases ws <;> simp [sameItems]
  | v :: vs, ws => by cases ws <;> simp [sameItems, same_iff v, sameItems_iff vs]

theorem sameMembers_iff : (ms ns : List (List Char × Value)) → (sameMembers ms ns ↔ ms = ns)
  | [], ns => by cases ns <;> simp [sameMembers]
  | (k, v) :: ms, ns => by
    rcases ns with _ | ⟨⟨l, w⟩, ns⟩ <;>
      simp [sameMembers, same_iff v, sameMembers_iff ms, and_assoc]

end

instance : DecidableEq Value := fun v w => decidable_of_iff _ (same_iff v w)

end Value

def lookup {α : Type} (name : List Char) : List (List Char × α) → Option α
  | [] => none
  | (n, a) :: ms => if n = name then some a else lookup name ms

/-- How a table came to be: by its own header, by a longer one, or by a dotted key. -/
inductive Origin where
  | written
  | implied
  | dotted
  deriving DecidableEq, Repr

inductive Node where
  | value (v : Value)
  | table (origin : Origin) (members : List (List Char × Node))
  | tables (all : List (List (List Char × Node)))

abbrev Members := List (List Char × Node)

namespace Members

def append (name : List Char) (n : Node) (ms : Members) : Members := ms ++ [(name, n)]

def replace (name : List Char) (n : Node) : Members → Members
  | [] => []
  | (k, m) :: ms => if k = name then (k, n) :: ms else (k, m) :: replace name n ms

def erase (name : List Char) (ms : Members) : Members := ms.filter fun m => m.1 != name

/--
Changes the table at the end of a path. Tables that are missing on the way are made. A path through
several tables of one name goes through the last.
-/
def change (made : Origin) (f : Origin → Members → Option Members) :
    (path : List (List Char)) → Origin → Members → Option Members
  | [], o, ms => f o ms
  | k :: path, _, ms =>
    match lookup k ms with
    | none => do some (ms.append k (.table made (← change made f path made [])))
    | some (.value _) => none
    | some (.table o t) =>
      if made = .dotted && o = .written then none
      else do some (ms.replace k (.table o (← change made f path o t)))
    | some (.tables []) => none
    | some (.tables (t :: ts)) => do
      some (ms.replace k (.tables ((← change made f path .written t) :: ts)))

def add (path : List (List Char)) (name : List Char) (v : Value) (o : Origin) (ms : Members) :
    Option Members :=
  let put (o : Origin) (ms : Members) : Option Members :=
    if decide (o = .dotted) != path.isEmpty && (lookup name ms).isNone then
      some (ms.append name (.value v))
    else none
  change .dotted put path o ms

/-- A header of one table: the table is new, or only implied so far. -/
def openTable (path : List (List Char)) (name : List Char) : Members → Option Members :=
  change .implied (fun _ ms =>
    match lookup name ms with
    | none => some (ms.append name (.table .written []))
    | some (.table .implied t) => some ((ms.erase name).append name (.table .written t))
    | _ => none) path .written

def pushTable (path : List (List Char)) (name : List Char) : Members → Option Members :=
  change .implied (fun _ ms =>
    match lookup name ms with
    | none => some (ms.append name (.tables [[]]))
    | some (.tables ts) => some (ms.replace name (.tables ([] :: ts)))
    | _ => none) path .written

end Members

mutual

def Node.toValue (shape : Shape) : Node → Value
  | .value v => v
  | .table _ ms => .table shape (membersToValues shape ms)
  | .tables all => .array (tablesToValues shape all).reverse

def membersToValues (shape : Shape) : List (List Char × Node) → List (List Char × Value)
  | [] => []
  | (k, n) :: ms => (k, n.toValue shape) :: membersToValues shape ms

def tablesToValues (shape : Shape) : List (List (List Char × Node)) → List Value
  | [] => []
  | t :: ts => .table shape (membersToValues shape t) :: tablesToValues shape ts

end

end PackageMarket.Toml
