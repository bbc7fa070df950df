import PackageMarket.Json.Literal

set_option autoImplicit false

/-!
Reading a JSON value, and passing over one. Both find the first fault of a text; they differ in what
they call a comma before a closing bracket, and only reading is bounded in depth.
-/

namespace PackageMarket.Json

open Text

def isSpace (c : Char) : Bool := c = ' ' || c = '\n' || c = '\t' || c = '\r'

def skipSpace (s : List Char) : List Char := s.dropWhile isSpace

theorem length_skipSpace_le (s : List Char) : (skipSpace s).length ≤ s.length :=
  length_dropWhile_le isSpace s

theorem length_lt_of_skipSpace {s r : List Char} {c : Char} (h : skipSpace s = c :: r) :
    r.length < s.length :=
  length_lt_of_eq_cons h (length_skipSpace_le s)

theorem length_le_of_skipSpace {s r : List Char} {c : Char} (h : skipSpace s = c :: r) :
    r.length ≤ s.length :=
  Nat.le_of_lt (length_lt_of_skipSpace h)

theorem length_cons_le_of_skipSpace {s r : List Char} {c : Char} (h : skipSpace s = c :: r) :
    (c :: r).length ≤ s.length :=
  h ▸ length_skipSpace_le s

def wordRest : List Char → (s : List Char) → Except Fault (Rest s)
  | [], s => .ok (.all s)
  | _ :: _, [] => .error (.before .endInValue [])
  | c :: w, d :: s =>
    if c = d then do
      let r ← wordRest w s
      .ok (r.cons d)
    else .error (.inNext .expectedIdent (d :: s))

def scalar : Reader Value
  | [] => .error (.inNext .endInValue [])
  | c :: s =>
    let word (w : List Char) (v : Value) : Except Fault (Read Value (c :: s)) := do
      let r ← wordRest w s
      .ok (.upTo v c r)
    if c = 'n' then word ['u', 'l', 'l'] .null
    else if c = 't' then word ['r', 'u', 'e'] (.bool true)
    else if c = 'f' then word ['a', 'l', 's', 'e'] (.bool false)
    else if c = '-' || Decimal.isDigit c then do
      let r ← Number.read (c :: s)
      .ok (r.map .number)
    else if c = '"' then do
      let r ← quoted s
      .ok ((r.map fun cs => .string (String.ofList cs)).cons c)
    else .error (.inNext .expectedValue (c :: s))

/-- Where the next item of an array begins, or what follows its closing bracket. -/
inductive Next (s : List Char) where
  | done (rest : List Char) (shorter : rest.length < s.length)
  | item (rest : List Char) (shorter : rest.length ≤ s.length)

def nextItem (first : Bool) (s : List Char) : Except Fault (Next s) :=
  match h : skipSpace s with
  | [] => .error (.inNext .endInList [])
  | c :: r =>
    have hs : r.length + 1 ≤ s.length := length_lt_of_skipSpace h
    if c = ']' then .ok (.done r (by omega))
    else if first then .ok (.item (c :: r) (by simpa using hs))
    else if c = ',' then
      match h2 : skipSpace r with
      | [] => .error (.inNext .endInValue [])
      | d :: t =>
        if d = ']' then .error (.inNext .trailingComma (d :: t))
        else .ok (.item (d :: t) (by have := length_skipSpace_le r; rw [h2] at this; omega))
    else .error (.inNext .expectedListCommaOrEnd (c :: r))

def nextMember (first : Bool) (s : List Char) : Except Fault (Next s) :=
  match h : skipSpace s with
  | [] => .error (.inNext .endInObject [])
  | c :: r =>
    have hs : r.length + 1 ≤ s.length := length_lt_of_skipSpace h
    if c = '\x7d' then .ok (.done r (by omega))
    else if first then
      if c = '"' then .ok (.item r (by omega)) else .error (.inNext .keyNotString (c :: r))
    else if c = ',' then
      match h2 : skipSpace r with
      | [] => .error (.inNext .endInValue [])
      | d :: t =>
        if d = '"' then .ok (.item t (by have := length_lt_of_skipSpace h2; omega))
        else if d = '\x7d' then .error (.inNext .trailingComma (d :: t))
        else .error (.inNext .keyNotString (d :: t))
    else .error (.inNext .expectedObjectCommaOrEnd (c :: r))

def colon : Reader Unit := fun s =>
  match h : skipSpace s with
  | [] => .error (.inNext .endInObject [])
  | c :: r =>
    if c = ':' then .ok ⟨(), r, length_lt_of_skipSpace h⟩
    else .error (.inNext .expectedColon (c :: r))

def itemsFrom {α : Type} (item : Reader α) (first : Bool) (s : List Char) :
    Except Fault (Read (List α) s) :=
  match nextItem first s with
  | .error f => .error f
  | .ok (.done r h) => .ok ⟨[], r, h⟩
  | .ok (.item t h) =>
    match item t with
    | .error f => .error f
    | .ok r =>
      match itemsFrom item false r.rest with
      | .error f => .error f
      | .ok rs => .ok ((r.behind (rs.map (r.value :: ·))).widen h)
termination_by s.length
decreasing_by have := r.shorter; omega

def items {α : Type} (item : Reader α) : Reader (List α) := itemsFrom item true

def membersFrom (item : Reader Value) (first : Bool) (ms : List (String × Value)) (s : List Char) :
    Except Fault (Read (List (String × Value)) s) :=
  match nextMember first s with
  | .error f => .error f
  | .ok (.done r h) => .ok ⟨ms, r, h⟩
  | .ok (.item t h) =>
    match quoted t with
    | .error f => .error f
    | .ok k =>
      match colon k.rest with
      | .error f => .error f
      | .ok u =>
        match item u.rest with
        | .error f => .error f
        | .ok v =>
          match membersFrom item false (Value.insert (String.ofList k.value) v.value ms) v.rest with
          | .error f => .error f
          | .ok r => .ok ((k.behind (u.behind (v.behind r))).widen h)
termination_by s.length
decreasing_by have := k.shorter; have := u.shorter; have := v.shorter; omega

/-- Members are kept in the order of their names, and the last of one name. -/
def members (item : Reader Value) : Reader (List (String × Value)) := membersFrom item true []

def value : (depth : Nat) → Reader Value
  | depth, s =>
    match h : skipSpace s with
    | [] => .error (.inNext .endInValue [])
    | c :: r =>
      if c = '[' then
        match depth with
        | 0 => .error (.inNext .tooDeep (c :: r))
        | d + 1 => do
          let t ← items (value d) r
          .ok ((t.map .array).widen (length_le_of_skipSpace h))
      else if c = '\x7b' then
        match depth with
        | 0 => .error (.inNext .tooDeep (c :: r))
        | d + 1 => do
          let t ← members (value d) r
          .ok ((t.map .object).widen (length_le_of_skipSpace h))
      else do
        let t ← scalar (c :: r)
        .ok (t.widen (length_cons_le_of_skipSpace h))

def maxDepth : Nat := 127

def whole {α : Type} (read : Reader α) (s : List Char) : Except Fault α := do
  let r ← read s
  match skipSpace r.rest with
  | [] => .ok r.value
  | c :: t => .error (.inNext .trailingCharacters (c :: t))

def Value.ofText (s : List Char) : Except Fault Value := whole (value maxDepth) s

inductive Bracket where
  | square
  | curly
  deriving DecidableEq

/-- Where one is while passing over a value: before one, behind an opening
bracket, or behind a value. -/
inductive Phase where
  | start
  | opened
  | behind

def Phase.need : Phase → Nat
  | .start => 1
  | _ => 0

def Phase.rank : Phase → Nat
  | .opened => 1
  | _ => 0

def skipName : Reader Unit := fun s =>
  match h : skipSpace s with
  | [] => .error (.inNext .endInObject [])
  | c :: r =>
    if c = '"' then do
      let k ← skipQuoted r
      let u ← colon k.rest
      .ok ((k.behind u).widen (length_le_of_skipSpace h))
    else .error (.inNext .keyNotString (c :: r))

def skipScalar : Reader Unit
  | [] => .error (.inNext .endInValue [])
  | c :: s =>
    if c = '-' || Decimal.isDigit c then do
      let r ← Literal.read .invalidNumber (c :: s)
      .ok (r.map fun _ => ())
    else if c = '"' then do
      let r ← skipQuoted s
      .ok (r.cons c)
    else do
      let r ← scalar (c :: s)
      .ok (r.map fun _ => ())

/-- Passes over the rest of a value with the brackets of `stack` open, the innermost first. -/
def skipFrom (phase : Phase) (stack : List Bracket) (s : List Char) :
    Except Fault { r : List Char // r.length + phase.need ≤ s.length } :=
  match phase with
  | .start =>
    match h : skipSpace s with
    | [] => .error (.inNext .endInValue [])
    | c :: r =>
      have hs : r.length + 1 ≤ s.length := length_lt_of_skipSpace h
      if c = '[' || c = '\x7b' then
        match skipFrom .opened ((if c = '[' then .square else .curly) :: stack) r with
        | .error f => .error f
        | .ok t => .ok ⟨t.1, by have := t.2; simp only [Phase.need] at *; omega⟩
      else
        match skipScalar (c :: r) with
        | .error f => .error f
        | .ok u =>
          match skipFrom .behind stack u.rest with
          | .error f => .error f
          | .ok t => .ok ⟨t.1, by
              have := t.2; have := u.shorter; simp only [Phase.need, List.length_cons] at *; omega⟩
  | .opened =>
    match stack with
    | [] => .ok ⟨s, Nat.le_refl _⟩
    | b :: stack =>
      match h : skipSpace s with
      | [] => .error (.inNext (match b with | .square => .endInList | .curly => .endInObject) [])
      | c :: r =>
        have hs : r.length + 1 ≤ s.length := length_lt_of_skipSpace h
        if c = (match b with | .square => ']' | .curly => '\x7d') then
          match skipFrom .behind stack r with
          | .error f => .error f
          | .ok t => .ok ⟨t.1, by have := t.2; simp only [Phase.need] at *; omega⟩
        else
          match b with
          | .square =>
            match skipFrom .start (b :: stack) (c :: r) with
            | .error f => .error f
            | .ok t => .ok ⟨t.1, by
                have := t.2; simp only [Phase.need, List.length_cons] at *; omega⟩
          | .curly =>
            match skipName (c :: r) with
            | .error f => .error f
            | .ok u =>
              match skipFrom .start (b :: stack) u.rest with
              | .error f => .error f
              | .ok t => .ok ⟨t.1, by
                  have := t.2; have := u.shorter
                  simp only [Phase.need, List.length_cons] at *; omega⟩
  | .behind =>
    match stack with
    | [] => .ok ⟨s, Nat.le_refl _⟩
    | b :: stack =>
      match h : skipSpace s with
      | [] => .error (.inNext (match b with | .square => .endInList | .curly => .endInObject) [])
      | c :: r =>
        have hs : r.length + 1 ≤ s.length := length_lt_of_skipSpace h
        if c = (match b with | .square => ']' | .curly => '\x7d') then
          match skipFrom .behind stack r with
          | .error f => .error f
          | .ok t => .ok ⟨t.1, by have := t.2; simp only [Phase.need] at *; omega⟩
        else if c = ',' then
          match b with
          | .square =>
            match skipFrom .start (b :: stack) r with
            | .error f => .error f
            | .ok t => .ok ⟨t.1, by have := t.2; simp only [Phase.need] at *; omega⟩
          | .curly =>
            match skipName r with
            | .error f => .error f
            | .ok u =>
              match skipFrom .start (b :: stack) u.rest with
              | .error f => .error f
              | .ok t => .ok ⟨t.1, by
                  have := t.2; have := u.shorter; simp only [Phase.need] at *; omega⟩
        else
          .error (.inNext
            (match b with
            | .square => .expectedListCommaOrEnd
            | .curly => .expectedObjectCommaOrEnd)
            (c :: r))
termination_by 2 * s.length + phase.rank
decreasing_by
  all_goals simp only [Phase.rank, List.length_cons]
  · omega
  · have := u.shorter; simp only [List.length_cons] at this; omega
  · omega
  · omega
  · have := u.shorter; simp only [List.length_cons] at this; omega
  · omega
  · omega
  · have := u.shorter; omega

def skipValue : Reader Unit := fun s => do
  let r ← skipFrom .start [] s
  .ok ⟨(), r.1, r.2⟩

end PackageMarket.Json
