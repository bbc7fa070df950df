import PackageMarket.Json.Reader

set_option autoImplicit false

/-!
Decoders: what a type accepts, once as a reader of text, which tells what is wrong and where, and
once as a function on values, which only refuses. Records take an object in any order of members,
unknown ones included, or an array of their fields in order; what is absent keeps its default.
-/

namespace PackageMarket.Json

open Decimal Text

structure Decoder (α : Type) where
  text : (depth : Nat) → Reader α
  value : Value → Option α

def mismatch (expected : String) (s : List Char) : Fault :=
  match s with
  | '[' :: _ => .before (.wrongType (.array []) expected) s
  | '\x7b' :: _ => .before (.wrongType (.object []) expected) s
  | s =>
    match scalar s with
    | .error f => f
    | .ok r => .before (.wrongType r.value expected) r.rest

def readScalar {α : Type} (expected : String) (begins : Char → Bool)
    (accept : Value → Except Cause α) :
    Reader α := fun s =>
  match h : skipSpace s with
  | [] => .error (.inNext .endInValue [])
  | c :: t =>
    if begins c then do
      let r ← scalar (c :: t)
      match accept r.value with
      | .ok a => .ok ((r.map fun _ => a).widen (length_cons_le_of_skipSpace h))
      | .error cause => .error (.before cause r.rest)
    else .error (mismatch expected (c :: t))

def readNull (expected : String) : Reader Unit :=
  readScalar expected (· = 'n') fun _ => .ok ()

namespace Decoder

def any : Decoder Value := ⟨Json.value, some⟩

def string : Decoder String where
  text _ := readScalar "a string" (· = '"') fun v =>
    match v with
    | .string s => .ok s
    | v => .error (.wrongType v "a string")
  value := Value.string?

def bool : Decoder Bool where
  text _ := readScalar "a boolean" (fun c => c = 't' || c = 'f') fun v =>
    match v with
    | .bool b => .ok b
    | v => .error (.wrongType v "a boolean")
  value v := match v with
    | .bool b => some b
    | _ => none

def beginsNumber (c : Char) : Bool := c = '-' || isDigit c

/-- Integers and floats, integers rounded. -/
def float : Decoder Binary64 where
  text _ := readScalar "f64" beginsNumber fun v =>
    match v with
    | .number (.int n) => .ok (.ofInt n)
    | .number (.float x) => .ok x
    | v => .error (.wrongType v "f64")
  value v := match v with
    | .number (.int n) => some (.ofInt n)
    | .number (.float x) => some x
    | _ => none

/-- Integers of 64 bits with a sign; a float with a whole value is none. -/
def int64 : Decoder Int where
  text _ := readScalar "i64" beginsNumber fun v =>
    match v with
    | .number (.int n) => if n ≤ int64Max then .ok n else .error (.wrongInteger n "i64")
    | v => .error (.wrongType v "i64")
  value v := match v with
    | .number (.int n) => if n ≤ int64Max then some n else none
    | _ => none

def option {α : Type} (d : Decoder α) : Decoder (Option α) where
  text depth s :=
    match h : skipSpace s with
    | 'n' :: t => do
      let r ← scalar ('n' :: t)
      .ok ((r.map fun _ => none).widen (length_cons_le_of_skipSpace h))
    | t => do
      let r ← d.text depth t
      .ok ((r.map some).widen (h ▸ length_skipSpace_le s))
  value v := match v with
    | .null => some none
    | v => (d.value v).map some

def bracketed {α : Type} (expected : String) (opening : Char) (inside : (depth : Nat) → Reader α)
    (depth : Nat) : Reader α := fun s =>
  match h : skipSpace s with
  | [] => .error (.inNext .endInValue [])
  | c :: t =>
    if c = opening then
      match depth with
      | 0 => .error (.inNext .tooDeep (c :: t))
      | d + 1 => do
        let r ← inside d t
        .ok (r.widen (length_le_of_skipSpace h))
    else .error (mismatch expected (c :: t))

def list {α : Type} (d : Decoder α) : Decoder (List α) where
  text := bracketed "a sequence" '[' fun depth => items (d.text depth)
  value v := match v with
    | .array vs => vs.mapM d.value
    | _ => none

def members : Decoder (List (String × Value)) where
  text := bracketed "a map" '\x7b' fun depth => Json.members (Json.value depth)
  value v := match v with
    | .object ms => some ms
    | _ => none

def find {α : Type} (known : List (String × α)) (name : List Char) : Option α :=
  (known.find? fun k => k.1 = String.ofList name).map (·.2)

def knownName {α : Type} (known : List (String × α)) : Reader α := fun s => do
  let r ← quoted s
  match find known r.value with
  | some a => .ok (r.map fun _ => a)
  | none => .error (.before (.unknownVariant r.value (known.map (·.1))) r.rest)

def namedNull {α : Type} (known : List (String × α)) : Reader α := fun s =>
  match h : skipSpace s with
  | [] => .error (.inNext .endInValue [])
  | '"' :: t => do
    let name ← knownName known t
    let c ← colon name.rest
    let u ← readNull "unit" c.rest
    match h2 : skipSpace u.rest with
    | [] => .error (.before .endInObject [])
    | '\x7d' :: r =>
      let closed := u.leaving ⟨r, length_le_of_skipSpace h2⟩
      .ok ((name.behind (c.behind (closed.map fun _ => name.value))).widen
        (length_le_of_skipSpace h))
    | r => .error (.before .expectedValue r)
  | t => .error (mismatch "variant identifier" t)

/-- One of some known names, as a string or as the only member of an object, with null. -/
def variant {α : Type} (known : List (String × α)) : Decoder α where
  text depth s :=
    match h : skipSpace s with
    | [] => .error (.inNext .endInValue [])
    | '"' :: t => do
      let r ← knownName known t
      .ok (r.widen (length_le_of_skipSpace h))
    | '\x7b' :: t =>
      match depth with
      | 0 => .error (.inNext .tooDeep ('\x7b' :: t))
      | _ + 1 => do
        let r ← namedNull known t
        .ok (r.widen (length_le_of_skipSpace h))
    | t => .error (.inNext .expectedValue t)
  value v := match v with
    | .string s => find known s.toList
    | .object [(name, .null)] => find known name.toList
    | _ => none

end Decoder

/-- A field of a record: the value of a member changes the record. -/
structure RecordField (σ : Type) where
  name : String
  text : (depth : Nat) → Reader (σ → σ)
  value : Value → Option (σ → σ)

def RecordField.of {σ α : Type} (name : String) (d : Decoder α) (put : α → σ → σ) :
    RecordField σ where
  name
  text depth s := do
    let r ← d.text depth s
    .ok (r.map put)
  value v := (d.value v).map put

namespace Record

variable {σ : Type}

def close (s : List Char) : Except Fault (Read Unit s) :=
  match h : skipSpace s with
  | [] => .error (.inNext .endInList [])
  | c :: r =>
    if c = ']' then .ok ⟨(), r, length_lt_of_skipSpace h⟩
    else if c = ',' then
      match skipSpace r with
      | ']' :: t => .error (.inNext .trailingComma (']' :: t))
      | t => .error (.inNext .trailingCharacters t)
    else .error (.inNext .trailingCharacters (c :: r))

/-- Fields in order; an array may end before the last. -/
def positional (depth : Nat) (first : Bool) (x : σ) :
    (fields : List (RecordField σ)) → (s : List Char) → Except Fault (Read σ s)
  | [], s => do
    let r ← close s
    .ok (r.map fun _ => x)
  | f :: fs, s => do
    match ← nextItem first s with
    | .done r h => .ok ⟨x, r, h⟩
    | .item t h =>
      let u ← f.text depth t
      let r ← positional depth false (u.value x) fs u.rest
      .ok ((u.behind r).widen h)

/-- A second member of a known name is a fault behind the name, or
behind a brace that follows it. -/
def duplicate (name : String) (s : List Char) : Fault :=
  match skipSpace s with
  | '\x7d' :: r => .before (.duplicateField name) r
  | r => .before (.duplicateField name) r

/-- Members through the closing brace, when those of the names `seen` have been read. -/
def named (fields : List (RecordField σ)) (depth : Nat) (first : Bool) (seen : List String) (x : σ)
    (s : List Char) : Except Fault (Read σ s) :=
  match nextMember first s with
  | .error f => .error f
  | .ok (.done r h) => .ok ⟨x, r, h⟩
  | .ok (.item t h) =>
    match quoted t with
    | .error f => .error f
    | .ok k =>
      let name := String.ofList k.value
      match fields.find? (·.name = name) with
      | none =>
        match colon k.rest with
        | .error f => .error f
        | .ok c =>
          match skipValue c.rest with
          | .error f => .error f
          | .ok u =>
            match named fields depth false seen x u.rest with
            | .error f => .error f
            | .ok r => .ok ((k.behind (c.behind (u.behind r))).widen h)
      | some field =>
        if seen.contains name then .error (duplicate name k.rest)
        else
          match colon k.rest with
          | .error f => .error f
          | .ok c =>
            match field.text depth c.rest with
            | .error f => .error f
            | .ok u =>
              match named fields depth false (name :: seen) (u.value x) u.rest with
              | .error f => .error f
              | .ok r => .ok ((k.behind (c.behind (u.behind r))).widen h)
termination_by s.length
decreasing_by
  all_goals
    have := k.shorter
    have := c.shorter
    have := u.shorter
    omega

def ofItems (x : σ) : List (RecordField σ) → List Value → Option σ
  | _, [] => some x
  | [], _ :: _ => none
  | f :: fs, v :: vs => do ofItems ((← f.value v) x) fs vs

def ofMembers (fields : List (RecordField σ)) (x : σ) : List (String × Value) → Option σ
  | [] => some x
  | (name, v) :: ms =>
    match fields.find? (·.name = name) with
    | none => ofMembers fields x ms
    | some f => do ofMembers fields ((← f.value v) x) ms

end Record

/-- Records that begin as `default` and take the fields that are present. -/
def Decoder.record {σ : Type} (name : String) (default : σ) (fields : List (RecordField σ)) :
    Decoder σ where
  text depth s :=
    match h : skipSpace s with
    | [] => .error (.inNext .endInValue [])
    | c :: t =>
      if c = '[' || c = '\x7b' then
        match depth with
        | 0 => .error (.inNext .tooDeep (c :: t))
        | d + 1 => do
          let r ← if c = '[' then Record.positional d true default fields t
            else Record.named fields d true [] default t
          .ok (r.widen (length_le_of_skipSpace h))
      else .error (mismatch ("struct " ++ name) (c :: t))
  value v := match v with
    | .array vs => Record.ofItems default fields vs
    | .object ms => Record.ofMembers fields default ms
    | _ => none

def Decoder.decode {α : Type} (d : Decoder α) (s : List Char) : Except Fault α :=
  whole (d.text maxDepth) s

end PackageMarket.Json
