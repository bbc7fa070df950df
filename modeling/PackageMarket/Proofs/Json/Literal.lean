import PackageMarket.Json.Literal

set_option autoImplicit false

/-!
How number literals are written, and that reading is the inverse: a literal is read exactly from the
texts that begin with it and do not go on as a number. So what is read does not depend on what
follows, nor on what would be told of a text that ends too soon.
-/

namespace PackageMarket.Json

open Decimal Text

def Reads {α : Type} {s : List Char} (x : Except Fault (Read α s)) (a : α) (rest : List Char) :
    Prop :=
  ∃ h : rest.length < s.length, x = .ok ⟨a, rest, h⟩

theorem reads_of_eq_ok {α : Type} {s rest : List Char} {x : Except Fault (Read α s)} {r : Read α s}
    (h : x = .ok r) (hrest : r.rest = rest) : Reads x r.value rest := by
  subst hrest
  exact ⟨r.shorter, h⟩

theorem exists_of_bind_eq_ok {α β : Type} {x : Except Fault α} {f : α → Except Fault β} {b : β}
    (h : x >>= f = .ok b) : ∃ a : α, x = .ok a ∧ f a = .ok b := by
  cases x with
  | error g => cases h
  | ok a => exact ⟨a, rfl, h⟩

structure Digits (s : List Char) : Prop where
  ne_nil : s ≠ []
  all : ∀ c ∈ s, isDigit c = true

/-- No number goes on there. -/
def EndsNumber (rest : List Char) : Prop :=
  ∀ c ∈ rest.head?, isDigit c = false ∧ c ≠ '.' ∧ c ≠ 'e' ∧ c ≠ 'E'

def EndsDigits (rest : List Char) : Prop := ∀ c ∈ rest.head?, isDigit c = false

theorem EndsNumber.endsDigits {rest : List Char} (h : EndsNumber rest) : EndsDigits rest :=
  fun c hc => (h c hc).1

section

variable {s rest : List Char}

theorem takeWhile_digits (hs : ∀ c ∈ s, isDigit c = true) (hrest : EndsDigits rest) :
    (s ++ rest).takeWhile isDigit = s := by
  have hend : rest.takeWhile isDigit = [] := by
    cases rest with
    | nil => rfl
    | cons c t => exact List.takeWhile_cons_of_neg (by simp [hrest c rfl])
  rw [List.takeWhile_append_of_pos hs, hend, List.append_nil]

theorem dropWhile_digits (hs : ∀ c ∈ s, isDigit c = true) (hrest : EndsDigits rest) :
    (s ++ rest).dropWhile isDigit = rest := by
  rw [List.dropWhile_append_of_pos hs]
  cases rest with
  | nil => rfl
  | cons c t => exact List.dropWhile_cons_of_neg (by simp [hrest c rfl])

theorem digits_takeWhile (hs : s.takeWhile isDigit ≠ []) : Digits (s.takeWhile isDigit) :=
  ⟨hs, fun _ hc => List.all_eq_true.mp List.all_takeWhile _ hc⟩

theorem digits_cons {c : Char} (hc : isDigit c = true) : Digits (c :: s.takeWhile isDigit) :=
  ⟨List.cons_ne_nil _ _,
    List.forall_mem_cons.mpr ⟨hc, fun _ hd => List.all_eq_true.mp List.all_takeWhile _ hd⟩⟩

end

namespace Literal

inductive Whole : List Char → Prop where
  | zero : Whole ['0']
  | digits {c : Char} {s : List Char} : c ≠ '0' → Digits (c :: s) → Whole (c :: s)

/-- A fraction is its digits behind a point; without digits there is no point. -/
inductive Fraction : List Char → List Char → Prop where
  | none : Fraction [] []
  | digits {s : List Char} : Digits s → Fraction s ('.' :: s)

inductive Sign : Bool → List Char → Prop where
  | none : Sign false []
  | plus : Sign false ['+']
  | minus : Sign true ['-']

inductive Exponent : Option (Bool × List Char) → List Char → Prop where
  | none : Exponent none []
  | some {mark : Char} {negative : Bool} {sign s : List Char} : mark = 'e' ∨ mark = 'E' →
      Sign negative sign → Digits s → Exponent (some (negative, s)) (mark :: (sign ++ s))

inductive Written : Literal → List Char → Prop where
  | intro {negative : Bool} {whole fraction f e : List Char}
      {exponent : Option (Bool × List Char)} :
      Whole whole → Fraction fraction f → Exponent exponent e →
      Written ⟨negative, whole, fraction, exponent⟩
        ((if negative then ['-'] else []) ++ (whole ++ (f ++ e)))

section

variable {atEnd : Cause} {rest : List Char}

theorem exponentSign_of_sign {negative : Bool} {sign s : List Char} (h : Sign negative sign)
    (hs : Digits s) (rest : List Char) :
    (exponentSign (sign ++ (s ++ rest))).1 = negative ∧
    (exponentSign (sign ++ (s ++ rest))).2.text = s ++ rest := by
  cases h with
  | plus => exact ⟨rfl, rfl⟩
  | minus => exact ⟨rfl, rfl⟩
  | none =>
    obtain ⟨c, t, rfl⟩ := List.exists_cons_of_ne_nil hs.ne_nil
    have hc : isDigit c = true := hs.all c List.mem_cons_self
    have hminus : c ≠ '-' := by
      rintro rfl
      cases hc
    have hplus : c ≠ '+' := by
      rintro rfl
      cases hc
    simp [exponentSign, hminus, hplus, Rest.all]

theorem exponentOf_of_written (atEnd : Cause) {e : Option (Bool × List Char)} {s : List Char}
    (h : Exponent e s) (hrest : EndsNumber rest) :
    ∃ r : Rest (s ++ rest), exponentOf atEnd (s ++ rest) = .ok (r, e) ∧ r.text = rest := by
  cases h with
  | none =>
    cases rest with
    | nil => exact ⟨_, rfl, rfl⟩
    | cons c t =>
      obtain ⟨-, -, hsmall, hlarge⟩ := hrest c rfl
      refine ⟨.all _, ?_, rfl⟩
      simp [exponentOf, hsmall, hlarge]
  | @some mark negative sign s hmark hsign hs =>
    obtain ⟨hnegative, htext⟩ := exponentSign_of_sign hsign hs rest
    obtain ⟨c, t, hcons⟩ := List.exists_cons_of_ne_nil hs.ne_nil
    have hmark' : (mark = 'e' || mark = 'E') = true := by simpa using hmark
    rw [List.cons_append, List.append_assoc]
    unfold exponentOf
    dsimp only
    rw [if_pos hmark']
    split
    · rename_i hnil
      rw [htext, hcons] at hnil
      cases hnil
    · rename_i hdigit
      rw [htext, hcons, List.cons_append] at hdigit
      obtain ⟨rfl, rfl⟩ := List.cons.inj hdigit
      rw [if_pos (hs.all c (by rw [hcons]; exact List.mem_cons_self))]
      refine ⟨_, congrArg Except.ok (Prod.ext rfl ?_), ?_⟩
      · show some (_, List.takeWhile isDigit _) = some (_, _)
        rw [htext, hnegative, takeWhile_digits hs.all hrest.endsDigits]
      · show List.dropWhile isDigit _ = rest
        rw [htext, dropWhile_digits hs.all hrest.endsDigits]

theorem tailOf_point {t : List Char} (ht : t.takeWhile isDigit ≠ []) (negative : Bool)
    (digits : List Char) :
    tailOf atEnd negative digits ('.' :: t) =
      exponentOf atEnd (Rest.dropWhile isDigit t).text >>= fun x =>
        .ok ((x.1.widen (Rest.dropWhile isDigit t).le).cons '.',
          ⟨negative, digits, t.takeWhile isDigit, x.2⟩) := by
  rw [tailOf.eq_1]
  split
  · exact absurd ‹_› ht
  · exact absurd ‹_› ht
  · rfl

theorem tailOf_of_no_point {s : List Char} (hs : ∀ t, s ≠ '.' :: t) (negative : Bool)
    (digits : List Char) :
    tailOf atEnd negative digits s =
      exponentOf atEnd s >>= fun x => .ok (x.1, ⟨negative, digits, [], x.2⟩) := by
  unfold tailOf
  split
  · exact absurd rfl (hs _)
  · rfl

theorem Exponent.ne_point {x : Option (Bool × List Char)} {e : List Char} (h : Exponent x e)
    (hrest : EndsNumber rest) (t : List Char) : e ++ rest ≠ '.' :: t := by
  intro ht
  cases h with
  | none =>
    rw [List.nil_append] at ht
    exact (hrest '.' (by rw [ht]; rfl)).2.1 rfl
  | some hmark =>
    obtain ⟨rfl, -⟩ := List.cons.inj ht
    simp at hmark

theorem Exponent.endsDigits {x : Option (Bool × List Char)} {e : List Char} (h : Exponent x e)
    (hrest : EndsNumber rest) : EndsDigits (e ++ rest) := by
  cases h with
  | none => exact hrest.endsDigits
  | some hmark =>
    rintro c hc
    obtain rfl := Option.some.inj hc
    rcases hmark with rfl | rfl <;> rfl

theorem tailOf_of_written (atEnd : Cause) {fraction f e : List Char} {x : Option (Bool × List Char)}
    (hf : Fraction fraction f) (he : Exponent x e) (hrest : EndsNumber rest) (negative : Bool)
    (digits : List Char) :
    ∃ r : Rest (f ++ (e ++ rest)),
      tailOf atEnd negative digits (f ++ (e ++ rest)) = .ok (r, ⟨negative, digits, fraction, x⟩) ∧
      r.text = rest := by
  obtain ⟨r, hexponent, hr⟩ := exponentOf_of_written atEnd he hrest
  cases hf with
  | none =>
    rw [List.nil_append, tailOf_of_no_point (he.ne_point hrest), hexponent]
    exact ⟨r, rfl, hr⟩
  | digits hdigits =>
    have htake := takeWhile_digits hdigits.all (he.endsDigits hrest)
    have hdrop : (Rest.dropWhile isDigit (fraction ++ (e ++ rest))).text = e ++ rest :=
      dropWhile_digits hdigits.all (he.endsDigits hrest)
    obtain ⟨r, hexponent, hr⟩ : ∃ r : Rest (Rest.dropWhile isDigit (fraction ++ (e ++ rest))).text,
        exponentOf atEnd (Rest.dropWhile isDigit (fraction ++ (e ++ rest))).text = .ok (r, x) ∧
          r.text = rest := by
      rw [hdrop]
      exact ⟨r, hexponent, hr⟩
    rw [List.cons_append, tailOf_point (by rw [htake]; exact hdigits.ne_nil), hexponent, htake]
    exact ⟨_, rfl, hr⟩

theorem Fraction.endsDigits {fraction f e : List Char} {x : Option (Bool × List Char)}
    (hf : Fraction fraction f) (he : Exponent x e) (hrest : EndsNumber rest) :
    EndsDigits (f ++ (e ++ rest)) := by
  cases hf with
  | none => exact he.endsDigits hrest
  | digits =>
    rintro c hc
    obtain rfl := Option.some.inj hc
    rfl

theorem unsigned_zero {t : List Char} (ht : EndsDigits t) {negative : Bool} {r : Rest t}
    {l : Literal} (h : tailOf atEnd negative ['0'] t = .ok (r, l)) :
    Reads (unsigned atEnd negative ('0' :: t)) l r.text := by
  cases t with
  | nil =>
    cases h
    exact ⟨_, rfl⟩
  | cons c t =>
    rw [unsigned]
    simp only [ht c rfl, h, bind, Except.bind]
    exact ⟨_, rfl⟩

theorem unsigned_digit {c : Char} {t : List Char} (hzero : c ≠ '0') (hc : isDigit c = true)
    (negative : Bool) :
    unsigned atEnd negative (c :: t) =
      tailOf atEnd negative (c :: t.takeWhile isDigit) (Rest.dropWhile isDigit t).text >>= fun x =>
        .ok (.upTo x.2 c (x.1.widen (Rest.dropWhile isDigit t).le)) := by
  rw [unsigned.eq_4 _ _ _ _ hzero, if_pos hc]

theorem unsigned_of_written (atEnd : Cause) {whole fraction f e : List Char}
    {x : Option (Bool × List Char)} (hwhole : Whole whole) (hf : Fraction fraction f)
    (he : Exponent x e) (hrest : EndsNumber rest) (negative : Bool) :
    Reads (unsigned atEnd negative (whole ++ (f ++ (e ++ rest))))
      ⟨negative, whole, fraction, x⟩ rest := by
  have hend := hf.endsDigits he hrest
  obtain ⟨r, htail, hr⟩ := tailOf_of_written atEnd hf he hrest negative whole
  cases hwhole with
  | zero =>
    have hread := unsigned_zero hend htail
    rwa [hr] at hread
  | @digits c s hzero hdigits =>
    obtain ⟨hc, hs⟩ := List.forall_mem_cons.mp hdigits.all
    have htake := takeWhile_digits hs hend
    have hdrop : (Rest.dropWhile isDigit (s ++ (f ++ (e ++ rest)))).text = f ++ (e ++ rest) :=
      dropWhile_digits hs hend
    obtain ⟨r, htail, hr⟩ : ∃ r : Rest (Rest.dropWhile isDigit (s ++ (f ++ (e ++ rest)))).text,
        tailOf atEnd negative (c :: s) (Rest.dropWhile isDigit (s ++ (f ++ (e ++ rest)))).text =
          .ok (r, ⟨negative, c :: s, fraction, x⟩) ∧ r.text = rest := by
      rw [hdrop]
      exact ⟨r, htail, hr⟩
    rw [List.cons_append, unsigned_digit hzero hc, htake, htail]
    exact reads_of_eq_ok rfl hr

theorem Whole.ne_minus {whole : List Char} (h : Whole whole) (s t : List Char) :
    whole ++ s ≠ '-' :: t := by
  intro ht
  cases h with
  | zero => cases ht
  | digits _ hdigits =>
    obtain ⟨rfl, -⟩ := List.cons.inj ht
    cases hdigits.all '-' List.mem_cons_self

theorem read_of_written (atEnd : Cause) {l : Literal} {t : List Char} (h : l.Written t)
    (hrest : EndsNumber rest) :
    Reads (read atEnd (t ++ rest)) l rest := by
  cases h with
  | @intro negative whole fraction f e x hwhole hf he =>
    obtain ⟨lt, hread⟩ := unsigned_of_written atEnd hwhole hf he hrest negative
    cases negative with
    | true =>
      have htext : (if true then ['-'] else []) ++ (whole ++ (f ++ e)) ++ rest =
          '-' :: (whole ++ (f ++ (e ++ rest))) := by simp
      rw [htext, read.eq_1, hread]
      exact ⟨_, rfl⟩
    | false =>
      have htext : (if false then ['-'] else []) ++ (whole ++ (f ++ e)) ++ rest =
          whole ++ (f ++ (e ++ rest)) := by simp
      rw [htext, read.eq_2 _ _ (hwhole.ne_minus _), hread]
      exact ⟨lt, rfl⟩

theorem sign_of_exponentSign (s : List Char) :
    ∃ sign, Sign (exponentSign s).1 sign ∧ s = sign ++ (exponentSign s).2.text := by
  unfold exponentSign
  split
  · exact ⟨_, .minus, rfl⟩
  · exact ⟨_, .plus, rfl⟩
  · exact ⟨_, .none, rfl⟩

theorem written_of_exponentOf {s : List Char} {r : Rest s} {x : Option (Bool × List Char)}
    (h : exponentOf atEnd s = .ok (r, x)) : ∃ e, Exponent x e ∧ s = e ++ r.text := by
  cases s with
  | nil =>
    cases h
    exact ⟨[], .none, rfl⟩
  | cons mark t =>
    obtain ⟨sign, hsign, htext⟩ := sign_of_exponentSign t
    unfold exponentOf at h
    dsimp only at h
    split at h
    · rename_i hmark
      split at h
      · cases h
      · rename_i c u hcons
        split at h
        · rename_i hc
          cases h
          have hne : ((exponentSign t).2.text).takeWhile isDigit ≠ [] := by
            rw [hcons, List.takeWhile_cons_of_pos hc]
            exact List.cons_ne_nil _ _
          refine ⟨_, .some (by simpa using hmark) hsign (digits_takeWhile hne), ?_⟩
          show mark :: t = mark :: (sign ++ List.takeWhile isDigit _) ++ List.dropWhile isDigit _
          rw [List.cons_append, List.append_assoc, List.takeWhile_append_dropWhile, ← htext]
        · cases h
    · cases h
      exact ⟨[], .none, rfl⟩

theorem takeWhile_ne_nil_of_tailOf {t : List Char} {negative : Bool} {digits : List Char}
    {x : Rest ('.' :: t) × Literal} (h : tailOf atEnd negative digits ('.' :: t) = .ok x) :
    t.takeWhile isDigit ≠ [] := by
  intro hnil
  rw [tailOf.eq_1, hnil] at h
  split at h
  · cases h
  · cases h
  · rename_i hnone hsome
    cases ht : (Rest.dropWhile isDigit t).text with
    | nil => exact hnone ht rfl
    | cons c u => exact hsome c u ht rfl

theorem written_of_tailOf {s digits : List Char} {negative : Bool} {r : Rest s} {l : Literal}
    (h : tailOf atEnd negative digits s = .ok (r, l)) :
    ∃ fraction x f e, l = ⟨negative, digits, fraction, x⟩ ∧ Fraction fraction f ∧ Exponent x e ∧
      s = f ++ (e ++ r.text) := by
  by_cases hpoint : ∃ t, s = '.' :: t
  · obtain ⟨t, rfl⟩ := hpoint
    have hdigits := takeWhile_ne_nil_of_tailOf h
    rw [tailOf_point hdigits] at h
    obtain ⟨⟨u, x⟩, hexponent, h⟩ := exists_of_bind_eq_ok h
    cases h
    obtain ⟨e, he, htext⟩ := written_of_exponentOf hexponent
    refine ⟨_, x, _, e, rfl, .digits (digits_takeWhile hdigits), he, ?_⟩
    show '.' :: t = '.' :: t.takeWhile isDigit ++ (e ++ u.text)
    rw [← htext, List.cons_append]
    exact congrArg _ List.takeWhile_append_dropWhile.symm
  · rw [tailOf_of_no_point fun t ht => hpoint ⟨t, ht⟩] at h
    obtain ⟨⟨u, x⟩, hexponent, h⟩ := exists_of_bind_eq_ok h
    cases h
    obtain ⟨e, he, htext⟩ := written_of_exponentOf hexponent
    exact ⟨[], x, [], e, rfl, .none, he, htext⟩

theorem written_of_unsigned {s : List Char} {negative : Bool} {r : Read Literal s}
    (h : unsigned atEnd negative s = .ok r) :
    ∃ whole fraction x f e, r.value = ⟨negative, whole, fraction, x⟩ ∧ Whole whole ∧
      Fraction fraction f ∧ Exponent x e ∧ s = whole ++ (f ++ (e ++ r.rest)) := by
  cases s with
  | nil => cases h
  | cons c t =>
    by_cases hzero : c = '0'
    · subst hzero
      cases t with
      | nil =>
        cases h
        exact ⟨_, _, _, _, _, rfl, .zero, .none, .none, rfl⟩
      | cons d t =>
        rw [unsigned.eq_2] at h
        split at h
        · cases h
        · obtain ⟨⟨u, l⟩, htail, h⟩ := exists_of_bind_eq_ok h
          cases h
          obtain ⟨fraction, x, f, e, rfl, hf, he, htext⟩ := written_of_tailOf htail
          exact ⟨_, _, _, f, e, rfl, .zero, hf, he, congrArg _ htext⟩
    · rw [unsigned.eq_4 _ _ _ _ hzero] at h
      split at h
      · rename_i hc
        obtain ⟨⟨u, l⟩, htail, h⟩ := exists_of_bind_eq_ok h
        cases h
        obtain ⟨fraction, x, f, e, rfl, hf, he, htext⟩ := written_of_tailOf htail
        refine ⟨_, _, _, f, e, rfl, .digits hzero (digits_cons hc), hf, he, ?_⟩
        show c :: t = c :: t.takeWhile isDigit ++ (f ++ (e ++ u.text))
        rw [← htext, List.cons_append]
        exact congrArg _ List.takeWhile_append_dropWhile.symm
      · cases h

theorem written_of_read {s : List Char} {r : Read Literal s} (h : read atEnd s = .ok r) :
    ∃ t, r.value.Written t ∧ s = t ++ r.rest := by
  unfold read at h
  split at h
  · obtain ⟨u, hunsigned, h⟩ := exists_of_bind_eq_ok h
    cases h
    obtain ⟨whole, fraction, x, f, e, hvalue, hwhole, hf, he, htext⟩ :=
      written_of_unsigned hunsigned
    refine ⟨'-' :: (whole ++ (f ++ e)), ?_, ?_⟩
    · show u.value.Written _
      rw [hvalue]
      exact .intro hwhole hf he
    · show _ = '-' :: (whole ++ (f ++ e)) ++ u.rest
      rw [List.cons_append, List.append_assoc, List.append_assoc]
      exact congrArg _ htext
  · obtain ⟨whole, fraction, x, f, e, hvalue, hwhole, hf, he, htext⟩ := written_of_unsigned h
    refine ⟨whole ++ (f ++ e), ?_, ?_⟩
    · rw [hvalue]
      exact .intro hwhole hf he
    · rw [List.append_assoc, List.append_assoc]
      exact htext

theorem read_append (atEnd' : Cause) {s more : List Char} {r : Read Literal s}
    (h : read atEnd s = .ok r) (hmore : EndsNumber (r.rest ++ more)) :
    Reads (read atEnd' (s ++ more)) r.value (r.rest ++ more) := by
  obtain ⟨t, hwritten, htext⟩ := written_of_read h
  have hread := read_of_written atEnd' hwritten hmore
  rwa [← List.append_assoc, ← htext] at hread

end

end Literal

theorem Number.read_append {s more : List Char} {r : Read Number s} (h : Number.read s = .ok r)
    (hmore : EndsNumber (r.rest ++ more)) :
    Reads (Number.read (s ++ more)) r.value (r.rest ++ more) := by
  obtain ⟨l, hliteral, h⟩ := exists_of_bind_eq_ok h
  split at h
  · cases h
  · rename_i n hunread hvalue
    cases h
    obtain ⟨lt, hread⟩ := Literal.read_append .endInValue hliteral hmore
    simp only [Number.read, hread, bind, Except.bind, hunread, hvalue]
    exact ⟨_, rfl⟩
  · cases h

end PackageMarket.Json
