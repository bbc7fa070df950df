import PackageMarket.Text.Basic

set_option autoImplicit false

/-!
Strings in quotation marks. Between double quotes a backslash escapes, between single quotes nothing
does. Three marks open a string of several lines, in which a lone line break behind the opening is
no part of it. Every line break in a string counts as a line feed.
-/

namespace PackageMarket.Toml

open Text

abbrev Reader (α : Type) := (s : List Char) → Option (Read α s)

def isSpace (c : Char) : Bool := c = ' ' || c = '\t'

def skipSpace (s : List Char) : List Char := s.dropWhile isSpace

theorem length_skipSpace_le (s : List Char) : (skipSpace s).length ≤ s.length :=
  length_dropWhile_le isSpace s

def isShown (c : Char) : Bool := c = '\t' || (0x20 ≤ c.toNat && c.toNat != 0x7F)

def lineBreak : Reader Unit
  | '\n' :: s => some (.one () _ s)
  | '\r' :: '\n' :: s => some ((Read.one () _ s).cons _)
  | _ => none

def hexNumber (n : Nat) : (count : Nat) → (s : List Char) → Option (Nat × Rest s)
  | 0, s => some (n, .all s)
  | _ + 1, [] => none
  | count + 1, c :: s => do
    let d ← hexValue? c
    let (n, r) ← hexNumber (n * 16 + d) count s
    some (n, r.cons c)

def character? (n : Nat) : Option Char := if n.isValidChar then some (Char.ofNat n) else none

def unescape? : Char → Option Char
  | '"' => some '"'
  | '\\' => some '\\'
  | 'b' => some '\x08'
  | 't' => some '\t'
  | 'n' => some '\n'
  | 'f' => some '\x0c'
  | 'r' => some '\r'
  | _ => none

def escaped : Reader Char
  | [] => none
  | c :: s =>
    if c = 'u' || c = 'U' then do
      let (n, r) ← hexNumber 0 (if c = 'u' then 4 else 8) s
      let x ← character? n
      some (.upTo x c r)
    else do
      let x ← unescape? c
      some (.one x c s)

inductive Mark where
  | double
  | single
  deriving DecidableEq

def Mark.char : Mark → Char
  | .double => '"'
  | .single => '\''

def shortRest (m : Mark) (done : List Char) (s : List Char) : Option (Read (List Char) s) :=
  match s with
  | [] => none
  | c :: s =>
    if c = m.char then some (.one done.reverse c s)
    else if c = '\\' && m = .double then
      match escaped s with
      | none => none
      | some r =>
        match shortRest m (r.value :: done) r.rest with
        | none => none
        | some t => some ((r.behind t).cons c)
    else if isShown c then
      match shortRest m (c :: done) s with
      | none => none
      | some t => some (t.cons c)
    else none
termination_by s.length
decreasing_by
  · have := r.shorter; simp; omega
  · simp

/-- Three marks close a string of several lines. Up to two more in the
same run belong to the string. -/
def closing (m : Mark) (s : List Char) : Option (Read (List Char) s) :=
  match s with
  | a :: b :: c :: r =>
    if a = m.char && b = m.char && c = m.char then
      let more := (r.take 2).takeWhile (· = m.char)
      some (((Read.upTo more c (.drop more.length r)).cons b).cons a)
    else none
  | _ => none

def skipBreaks : List Char → List Char
  | '\r' :: '\n' :: s => skipBreaks s
  | c :: s => if isSpace c || c = '\n' then skipBreaks s else c :: s
  | [] => []

theorem length_skipBreaks_le (s : List Char) : (skipBreaks s).length ≤ s.length := by
  fun_induction skipBreaks s with
  | case1 s ih => simp; omega
  | case2 c s _ _ ih => simp; omega
  | case3 => simp
  | case4 => simp

/-- A backslash that ends a line joins it with the next text; this is what follows the backslash. -/
def joined (s : List Char) : Option (Rest s) := do
  let r ← (lineBreak (skipSpace s)).map (·.widen (length_skipSpace_le s))
  some (r.leaving ⟨skipBreaks r.rest, length_skipBreaks_le r.rest⟩).remaining

def longRest (m : Mark) (done : List Char) (s : List Char) : Option (Read (List Char) s) :=
  match closing m s with
  | some r => some (r.map (done.reverse ++ ·))
  | none =>
    match s with
    | [] => none
    | c :: s =>
      if c = '\\' && m = .double then
        match joined s with
        | some r =>
          match longRest m done r.text with
          | none => none
          | some t => some ((t.widen r.le).cons c)
        | none =>
          match escaped s with
          | none => none
          | some r =>
            match longRest m (r.value :: done) r.rest with
            | none => none
            | some t => some ((r.behind t).cons c)
      else if isShown c then
        match longRest m (c :: done) s with
        | none => none
        | some t => some (t.cons c)
      else
        match lineBreak (c :: s) with
        | none => none
        | some r =>
          match longRest m ('\n' :: done) r.rest with
          | none => none
          | some t => some (r.behind t)
termination_by s.length
decreasing_by
  · have := r.le; simp; omega
  · have := r.shorter; simp; omega
  · simp
  · have := r.shorter; simpa using this

def long (m : Mark) : Reader (List Char) := fun s =>
  match lineBreak s with
  | none => longRest m [] s
  | some r => do
    let t ← longRest m [] r.rest
    some (r.behind t)

def stringRest (m : Mark) : Reader (List Char)
  | a :: b :: s =>
    if a = m.char && b = m.char then do
      let r ← long m s
      some ((r.cons b).cons a)
    else shortRest m [] (a :: b :: s)
  | s => shortRest m [] s

end PackageMarket.Toml
