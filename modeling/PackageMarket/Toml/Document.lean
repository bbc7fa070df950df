import PackageMarket.Text.Basic
import PackageMarket.Toml.Literal
import PackageMarket.Toml.Quoted
import PackageMarket.Toml.Table

set_option autoImplicit false

/-!
Reading a document. It is a list of lines: headers, each of which names the table that the following
lines add to, and keys with values. Only values in brackets go over several lines.
-/

namespace PackageMarket.Toml

open Text

def isBareKey (c : Char) : Bool :=
  ('a' ≤ c && c ≤ 'z') || ('A' ≤ c && c ≤ 'Z') || ('0' ≤ c && c ≤ '9') || c = '_' || c = '-'

def simpleKey : Reader (List Char)
  | [] => none
  | c :: s =>
    if c = '"' then do
      let r ← shortRest .double [] s
      some (r.cons c)
    else if c = '\'' then do
      let r ← shortRest .single [] s
      some (r.cons c)
    else if isBareKey c then
      some (.upTo (c :: s.takeWhile isBareKey) c (.dropWhile isBareKey s))
    else none

def keyParts (s : List Char) : Option (Read (List (List Char)) s) :=
  match simpleKey (skipSpace s) with
  | none => none
  | some k =>
    have hs := length_skipSpace_le s
    match h : skipSpace k.rest with
    | [] => some (((k.map ([·])).leaving .none).widen hs)
    | c :: t =>
      have ht := length_lt_of_eq_cons h (length_skipSpace_le k.rest)
      if c = '.' then
        match keyParts t with
        | none => none
        | some r => some ((k.behind ((r.map (k.value :: ·)).widen (Nat.le_of_lt ht))).widen hs)
      else some (((k.map ([·])).leaving ⟨c :: t, ht⟩).widen hs)
termination_by s.length
decreasing_by have := k.shorter; omega

def maxDepth : Nat := 79

/-- The path to a table, and the name in it. -/
structure Key where
  path : List (List Char)
  name : List Char
  deriving DecidableEq, Repr

def Key.ofParts? (parts : List (List Char)) : Option Key :=
  if maxDepth < parts.length then none
  else parts.getLast?.map fun name => ⟨parts.dropLast, name⟩

def key : Reader Key := fun s => do
  let r ← keyParts s
  let k ← Key.ofParts? r.value
  some (r.map fun _ => k)

def commentRest (s : List Char) : List Char := s.dropWhile isShown

theorem length_commentRest_le (s : List Char) : (commentRest s).length ≤ s.length :=
  length_dropWhile_le isShown s

def skipTrailing (s : List Char) : List Char :=
  match skipSpace s with
  | '#' :: t => commentRest t
  | t => t

theorem length_skipTrailing_le (s : List Char) : (skipTrailing s).length ≤ s.length := by
  have hs := length_skipSpace_le s
  unfold skipTrailing
  split
  · rename_i t ht
    have := length_commentRest_le t
    simp only [ht, List.length_cons] at hs
    omega
  · exact hs

def lineEnd (s : List Char) : Option (Rest s) :=
  match skipTrailing s with
  | [] => some .none
  | _ :: _ => do
    let r ← lineBreak (skipTrailing s)
    some (r.widen (length_skipTrailing_le s)).remaining

def skipGap (s : List Char) : List Char :=
  match h : skipSpace s with
  | [] => []
  | c :: t =>
    have _hs := length_lt_of_eq_cons h (length_skipSpace_le s)
    if c = '#' then
      match lineBreak (commentRest t) with
      | none => c :: t
      | some r => skipGap r.rest
    else
      match lineBreak (c :: t) with
      | none => c :: t
      | some r => skipGap r.rest
termination_by s.length
decreasing_by
  · have := r.shorter
    have := length_commentRest_le t
    omega
  · have := r.shorter
    simp at this
    omega

theorem length_skipGap_le (s : List Char) : (skipGap s).length ≤ s.length := by
  fun_induction skipGap s with
  | case1 => simp
  | case2 _ _ _ _ hs => exact hs
  | case3 s t r hr h hs ih =>
    have := r.shorter
    have := length_commentRest_le t
    omega
  | case4 _ _ _ _ hs => exact hs
  | case5 s c t h hs hc r hr ih =>
    have := r.shorter
    simp at this
    omega

/-- The items of an array, through its closing bracket. A comma may follow the last. -/
def items (item : Reader Value) (s : List Char) : Option (Read (List Value) s) :=
  match h : skipGap s with
  | [] => none
  | c :: t =>
    have hs := length_lt_of_eq_cons h (length_skipGap_le s)
    if c = ']' then some ((Read.one [] c t).widen hs)
    else
      match item (c :: t) with
      | none => none
      | some v =>
        have _hv := Nat.le_of_lt_succ v.shorter
        match h2 : skipGap v.rest with
        | [] => none
        | d :: u =>
          have hu := length_lt_of_eq_cons h2 (length_skipGap_le v.rest)
          if d = ']' then some (((v.map ([·])).leaving ⟨u, Nat.le_of_lt hu⟩).widen hs)
          else if d = ',' then
            match items item u with
            | none => none
            | some r => some ((v.behind ((r.map (v.value :: ·)).widen (Nat.le_of_lt hu))).widen hs)
          else none
termination_by s.length
decreasing_by omega

def pair (item : Reader Value) : Reader (Key × Value) := fun s => do
  let k ← key s
  match h : k.rest with
  | '=' :: t => do
    let v ← item (skipSpace t)
    let v := (v.map (k.value, ·)).leaving ⟨skipSpace v.rest, length_skipSpace_le v.rest⟩
    some (k.behind ((v.widen (length_skipSpace_le t)).widen (h ▸ Nat.le_succ _)))
  | _ => none

def inlineMembers (item : Reader Value) (ms : Members) (s : List Char) : Option (Read Members s) :=
  match pair item s with
  | none => none
  | some p =>
    match ms.add p.value.1.path p.value.1.name p.value.2 .written with
    | none => none
    | some ms =>
      match h : p.rest with
      | [] => none
      | c :: t =>
        have ht := length_lt_of_eq_cons h (Nat.le_refl p.rest.length)
        if c = '\x7d' then some ((p.map fun _ => ms).leaving ⟨t, Nat.le_of_lt ht⟩)
        else if c = ',' then
          match inlineMembers item ms t with
          | none => none
          | some r => some (p.behind (r.widen (Nat.le_of_lt ht)))
        else none
termination_by s.length
decreasing_by have := p.shorter; omega

def inlineTable (item : Reader Value) : Reader Members := fun s =>
  match h : skipSpace s with
  | '\x7d' :: t => some ((Read.one [] _ t).widen (h ▸ length_skipSpace_le s))
  | _ => inlineMembers item [] s

def value : (depth : Nat) → Reader Value
  | _, [] => none
  | depth, c :: s =>
    if c = '"' then do
      let r ← stringRest .double s
      some ((r.map .string).cons c)
    else if c = '\'' then do
      let r ← stringRest .single s
      some ((r.map .string).cons c)
    else if c = '[' then
      match depth with
      | 0 => none
      | d + 1 => do
        let r ← items (value d) s
        some ((r.map .array).cons c)
    else if c = '\x7b' then
      match depth with
      | 0 => none
      | d + 1 => do
        let r ← inlineTable (value d) s
        some ((r.map fun ms => .table .inline (membersToValues .inline ms)).cons c)
    else literal (c :: s)

/-- What has been read of a document: its members, and the path that the last header opened. -/
structure Document where
  members : Members
  current : List (List Char)

namespace Document

def header (closing : List Char) (s : List Char) : Option (Read Key s) := do
  let k ← key s
  let t ← word closing k.rest
  let r ← lineEnd t
  if h : r.text.length < s.length then some ⟨k.value, r.text, h⟩ else none

def opened (ms : Members) (k : Key) : Document := ⟨ms, k.path ++ [k.name]⟩

def line (d : Document) (s : List Char) : Option (Read Document s) :=
  match s with
  | '[' :: '[' :: t => do
    let r ← header [']', ']'] t
    let ms ← Members.pushTable r.value.path r.value.name d.members
    some (((r.map (opened ms)).cons _).cons _)
  | '[' :: t => do
    let r ← header [']'] t
    let ms ← Members.openTable r.value.path r.value.name d.members
    some ((r.map (opened ms)).cons _)
  | s => do
    let p ← pair (value maxDepth) s
    let add := Members.add p.value.1.path p.value.1.name p.value.2
    let ms ← Members.change .implied add d.current .written d.members
    let r ← lineEnd p.rest
    some ((p.map fun _ => { d with members := ms }).leaving r)

def lines (d : Document) (s : List Char) : Option Document :=
  match h : skipSpace s with
  | [] => some d
  | c :: t =>
    have _hs := length_lt_of_eq_cons h (length_skipSpace_le s)
    if c = '#' || c = '\n' || c = '\r' then
      match lineEnd (c :: t) with
      | none => none
      | some r => if _hr : r.text.length < s.length then lines d r.text else none
    else
      match line d (c :: t) with
      | none => none
      | some r => lines r.value r.rest
termination_by s.length
decreasing_by
  · exact _hr
  · have := r.shorter; simp at this; omega

end Document

/-- The members of the table that a text makes. A byte order mark may stand before it. -/
def read (s : List Char) : Option (List (List Char × Value)) := do
  let s := match s with
    | '\uFEFF' :: t => t
    | s => s
  let d ← Document.lines ⟨[], []⟩ s
  some (membersToValues .block d.members)

def isControl (c : Char) : Bool := !isShown c && c != '\n'

inductive Style where
  | short (m : Mark)
  | long (m : Mark)
  deriving DecidableEq

def hasTriple (q : Char) : List Char → Bool
  | a :: b :: c :: s => (a = q && b = q && c = q) || hasTriple q (b :: c :: s)
  | _ => false

namespace Style

def fits (s : List Char) : Style → Bool
  | .short .double => s.all fun c => !isControl c && c != '\\' && c != '"' && c != '\n'
  | .short .single => s.all fun c => !isControl c && c != '\'' && c != '\n'
  | .long .double => (s.all fun c => !isControl c && c != '\\') && !hasTriple '"' s
  | .long .single => (s.all fun c => !isControl c) && !hasTriple '\'' s

def choose (s : List Char) : Style :=
  match [short .double, short .single, long .double, long .single].find? (fits s) with
  | some style => style
  | none => if s.contains '\n' then .long .double else .short .double

end Style

def unicodeEscape (c : Char) : List Char :=
  let n := c.toNat
  ['\\', 'u', hexCapital (n / 4096), hexCapital (n / 256 % 16), hexCapital (n / 16 % 16),
    hexCapital (n % 16)]

def escape (c : Char) : List Char :=
  match c with
  | '\\' => ['\\', '\\']
  | '\x08' => ['\\', 'b']
  | '\t' => ['\\', 't']
  | '\n' => ['\\', 'n']
  | '\x0c' => ['\\', 'f']
  | '\r' => ['\\', 'r']
  | c => if isControl c then unicodeEscape c else [c]

/-- The text between double marks, of which `run` are written since the last other character. -/
def escapeAll (isLong : Bool) (run : Nat) : List Char → List Char
  | [] => []
  | c :: s =>
    if c = '"' then
      if run = (if isLong then 2 else 0) then '\\' :: '"' :: escapeAll isLong 0 s
      else '"' :: escapeAll isLong (run + 1) s
    else if c = '\n' && isLong then '\n' :: escapeAll isLong 0 s
    else escape c ++ escapeAll isLong 0 s

def quote (s : List Char) : List Char :=
  let style := Style.choose s
  let (isLong, m) := match style with
    | .short m => (false, m)
    | .long m => (true, m)
  let mark := List.replicate (if isLong then 3 else 1) m.char
  let start := if isLong && s.contains '\n' then ['\n'] else []
  let text := match m with
    | .double => escapeAll isLong 0 s
    | .single => s
  mark ++ start ++ text ++ mark

end PackageMarket.Toml
