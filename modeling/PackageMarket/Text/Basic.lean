set_option autoImplicit false

namespace PackageMarket.Text

/-- The Unicode property `White_Space`. -/
def blankRanges : List (Nat × Nat) :=
  [(0x09, 0x0D), (0x20, 0x20), (0x85, 0x85), (0xA0, 0xA0), (0x1680, 0x1680), (0x2000, 0x200A),
   (0x2028, 0x2029), (0x202F, 0x202F), (0x205F, 0x205F), (0x3000, 0x3000)]

def isBlank (c : Char) : Bool := blankRanges.any fun r => r.1 ≤ c.toNat && c.toNat ≤ r.2

def trimStart (s : List Char) : List Char := s.dropWhile isBlank

def trimEnd (s : List Char) : List Char := (s.reverse.dropWhile isBlank).reverse

def trim (s : List Char) : List Char := trimEnd (trimStart s)

def splitOn (sep : Char) (s : List Char) : List (List Char) :=
  go [] [] s
where
  go (piece : List Char) (done : List (List Char)) : List Char → List (List Char)
    | [] => (piece.reverse :: done).reverse
    | c :: s => if c = sep then go [] (piece.reverse :: done) s else go (c :: piece) done s

def joinWith (sep : List Char) : List (List Char) → List Char
  | [] => []
  | [p] => p
  | p :: ps => p ++ sep ++ joinWith sep ps

def dropReturn (s : List Char) : List Char :=
  match s.reverse with
  | '\r' :: r => r.reverse
  | _ => s

/-- The lines that line breaks end; what follows the last break is a line unless it is empty. -/
def lines (s : List Char) : List (List Char) :=
  match (splitOn '\n' s).reverse with
  | [] => []
  | last :: ended =>
    let ended := (ended.map dropReturn).reverse
    if last.isEmpty then ended else ended ++ [last]

def hexValue? (c : Char) : Option Nat :=
  if '0' ≤ c && c ≤ '9' then some (c.toNat - 48)
  else if 'a' ≤ c && c ≤ 'f' then some (c.toNat - 87)
  else if 'A' ≤ c && c ≤ 'F' then some (c.toNat - 55)
  else none

def hexDigit (n : Nat) : Char := Char.ofNat (if n < 10 then 48 + n else 87 + n)

def hexCapital (n : Nat) : Char := Char.ofNat (if n < 10 then 48 + n else 55 + n)

abbrev Ranges := Array (Nat × Nat)

def Ranges.search (rs : Ranges) (n lo hi : Nat) : Bool :=
  if h : lo < hi then
    let mid := (lo + hi) / 2
    let r := rs.getD mid (0, 0)
    if n < r.1 then Ranges.search rs n lo mid
    else if r.2 < n then Ranges.search rs n (mid + 1) hi
    else mid < rs.size
  else false
termination_by hi - lo
decreasing_by all_goals omega

def Ranges.has (rs : Ranges) (c : Char) : Bool := rs.search c.toNat 0 rs.size

def size : List Char → Nat
  | [] => 0
  | c :: s => c.utf8Size + size s

/-- The longest beginning of at most `n` bytes. -/
def take (n : Nat) : List Char → List Char
  | [] => []
  | c :: s => if c.utf8Size ≤ n then c :: take (n - c.utf8Size) s else []

def drop (n : Nat) : List Char → List Char
  | [] => []
  | c :: s => if c.utf8Size ≤ n then drop (n - c.utf8Size) s else c :: s

theorem take_append_drop (n : Nat) (s : List Char) : take n s ++ drop n s = s := by
  induction s generalizing n with
  | nil => rfl
  | cons c s ih =>
    unfold take drop
    split <;> simp [ih]

@[simp] theorem size_append (s t : List Char) : size (s ++ t) = size s + size t := by
  induction s with
  | nil => simp [size]
  | cons c s ih => simp [size, ih]; omega

def AtBoundary (n : Nat) (s : List Char) : Prop := size (take n s) = n

instance (n : Nat) (s : List Char) : Decidable (AtBoundary n s) :=
  inferInstanceAs (Decidable (_ = _))

def utf8 (s : List Char) : List UInt8 := s.flatMap String.utf8EncodeChar

def replacement : Char := '\uFFFD'

/-- What a first byte promises: its share of the code point, how many bytes follow, and between
which bounds the next one lies. -/
structure Lead where
  share : Nat
  count : Nat
  low : UInt8
  high : UInt8

def lead? (b : UInt8) : Option Lead :=
  let n := b.toNat
  if b < 0x80 then some ⟨n, 0, 0x80, 0xBF⟩
  else if 0xC2 ≤ b && b ≤ 0xDF then some ⟨n - 0xC0, 1, 0x80, 0xBF⟩
  else if b = 0xE0 then some ⟨0, 2, 0xA0, 0xBF⟩
  else if b = 0xED then some ⟨n - 0xE0, 2, 0x80, 0x9F⟩
  else if 0xE1 ≤ b && b ≤ 0xEF then some ⟨n - 0xE0, 2, 0x80, 0xBF⟩
  else if b = 0xF0 then some ⟨0, 3, 0x90, 0xBF⟩
  else if 0xF1 ≤ b && b ≤ 0xF3 then some ⟨n - 0xF0, 3, 0x80, 0xBF⟩
  else if b = 0xF4 then some ⟨4, 3, 0x80, 0x8F⟩
  else none

/-- The code point that `count` more bytes complete, if they do, and the
bytes behind those that fit. -/
def complete (share : Nat) (low high : UInt8) : (count : Nat) → (bs : List UInt8) →
    Option Nat × { r : List UInt8 // r.length ≤ bs.length }
  | 0, bs => (some share, ⟨bs, by simp⟩)
  | _ + 1, [] => (none, ⟨[], by simp⟩)
  | count + 1, b :: bs =>
    if low ≤ b && b ≤ high then
      let (n, r) := complete (share * 64 + (b.toNat - 0x80)) 0x80 0xBF count bs
      (n, ⟨r.1, by have := r.2; simp; omega⟩)
    else (none, ⟨b :: bs, by simp⟩)

/-- The characters of bytes; `none` stands for what is no UTF-8. -/
def scalars (bs : List UInt8) : List (Option Char) :=
  match bs with
  | [] => []
  | b :: bs =>
    match lead? b with
    | none => none :: scalars bs
    | some l =>
      let r := complete l.share l.low l.high l.count bs
      r.1.map Char.ofNat :: scalars r.2.1
termination_by bs.length
decreasing_by
  · simp
  · have := (complete l.share l.low l.high l.count bs).2.2
    simp
    omega

def ofBytes (bs : List UInt8) : List Char := (scalars bs).map (·.getD replacement)

def ofBytes? (bs : List UInt8) : Option (List Char) := (scalars bs).mapM id

theorem length_dropWhile_le {α : Type} (p : α → Bool) (s : List α) :
    (s.dropWhile p).length ≤ s.length :=
  (List.dropWhile_suffix p).length_le

theorem length_lt_of_eq_cons {s t r : List Char} {c : Char} (h : t = c :: r)
    (le : t.length ≤ s.length) :
    r.length < s.length := by
  rw [h, List.length_cons] at le
  exact le

/-- What is read from the beginning of `s`, and what remains, which is shorter. -/
structure Read (α : Type) (s : List Char) where
  value : α
  rest : List Char
  shorter : rest.length < s.length

/-- What remains of `s` when perhaps nothing was read. -/
structure Rest (s : List Char) where
  text : List Char
  le : text.length ≤ s.length

namespace Rest

variable {s t : List Char}

def all (s : List Char) : Rest s := ⟨s, Nat.le_refl _⟩

def none : Rest s := ⟨[], Nat.zero_le _⟩

def widen (r : Rest t) (h : t.length ≤ s.length) : Rest s := ⟨r.text, Nat.le_trans r.le h⟩

def cons (c : Char) (r : Rest s) : Rest (c :: s) := r.widen (Nat.le_succ _)

def drop (n : Nat) (s : List Char) : Rest s := ⟨s.drop n, (List.drop_suffix n s).length_le⟩

def dropWhile (p : Char → Bool) (s : List Char) : Rest s := ⟨s.dropWhile p, length_dropWhile_le p s⟩

end Rest

namespace Read

variable {α β : Type} {s t : List Char}

def map (f : α → β) (r : Read α s) : Read β s := ⟨f r.value, r.rest, r.shorter⟩

def one (a : α) (c : Char) (s : List Char) : Read α (c :: s) := ⟨a, s, Nat.lt_succ_self _⟩

def upTo (a : α) (c : Char) (r : Rest s) : Read α (c :: s) := ⟨a, r.text, Nat.lt_succ_of_le r.le⟩

def widen (r : Read α t) (h : t.length ≤ s.length) : Read α s :=
  ⟨r.value, r.rest, Nat.lt_of_lt_of_le r.shorter h⟩

def cons (c : Char) (r : Read α s) : Read α (c :: s) := r.widen (Nat.le_succ _)

def behind (b : Read β s) (r : Read α b.rest) : Read α s := r.widen (Nat.le_of_lt b.shorter)

def remaining (r : Read α s) : Rest s := ⟨r.rest, Nat.le_of_lt r.shorter⟩

def leaving (r : Read α s) (t : Rest r.rest) : Read α s :=
  ⟨r.value, t.text, Nat.lt_of_le_of_lt t.le r.shorter⟩

end Read

end PackageMarket.Text
