import PackageMarket.Json.Reader

set_option autoImplicit false

namespace PackageMarket.Json

open Text

def Syntactic {α : Type} (x : Except Fault α) : Prop :=
  ∀ f : Fault, x = .error f → f.cause.category ≠ .shape

namespace Syntactic

variable {α β : Type}

theorem ok (a : α) : Syntactic (.ok a) := by
  intro f h
  cases h

theorem error {f : Fault} (h : f.cause.category ≠ .shape) :
    Syntactic (.error f : Except Fault α) := by
  intro g hg
  cases hg
  exact h

theorem before {c : Cause} (rest : List Char) (h : c.category ≠ .shape) :
    Syntactic (.error (.before c rest) : Except Fault α) := error h

theorem inNext {c : Cause} (rest : List Char) (h : c.category ≠ .shape) :
    Syntactic (.error (.inNext c rest) : Except Fault α) := error h

theorem of_error {x : Except Fault α} {f : Fault} (hx : Syntactic x) (h : x = .error f) :
    Syntactic (.error f : Except Fault β) :=
  error (hx f h)

theorem bind {x : Except Fault α} {g : α → Except Fault β} (hx : Syntactic x)
    (hg : ∀ a : α, Syntactic (g a)) : Syntactic (x >>= g) := by
  cases x with
  | error f => exact hx.of_error rfl
  | ok a => exact hg a

end Syntactic

theorem wordRest_syntactic (w s : List Char) : Syntactic (wordRest w s) := by
  induction w generalizing s with
  | nil => exact .ok _
  | cons c w ih =>
    cases s with
    | nil => exact .before _ (by decide)
    | cons d s =>
      unfold wordRest
      split
      · exact (ih s).bind fun r => .ok _
      · exact .inNext _ (by decide)

theorem hexFault_syntactic {α : Type} (s : List Char) :
    Syntactic (.error (hexFault s) : Except Fault α) := by
  unfold hexFault
  split
  · exact .error (by simp [Cause.category])
  · exact .error (by simp [Cause.category])

theorem hexUnit_syntactic (s : List Char) : Syntactic (hexUnit s) := by
  unfold hexUnit
  split
  · split
    · exact .ok _
    · exact hexFault_syntactic _
  · exact hexFault_syntactic _

theorem lowSurrogate_syntactic (s : List Char) : Syntactic (lowSurrogate s) := by
  unfold lowSurrogate
  split
  · exact .before _ (by decide)
  · split
    · exact .inNext _ (by decide)
    · split
      · exact .before _ (by decide)
      · split
        · exact .inNext _ (by decide)
        · refine (hexUnit_syntactic _).bind fun r => ?_
          split
          · exact .ok _
          · exact .before _ (by decide)

theorem codePoint_syntactic (s : List Char) : Syntactic (codePoint s) := by
  unfold codePoint
  refine (hexUnit_syntactic s).bind fun r => ?_
  split
  · exact .before _ (by decide)
  · split
    · exact (lowSurrogate_syntactic _).bind fun l => .ok _
    · exact .ok _

theorem escaped_syntactic (s : List Char) : Syntactic (escaped s) := by
  unfold escaped
  split
  · exact .before _ (by decide)
  · split
    · exact (codePoint_syntactic _).bind fun r => .ok _
    · split
      · exact .ok _
      · exact .inNext _ (by decide)

theorem quotedAfter_syntactic (done s : List Char) : Syntactic (quotedAfter done s) := by
  fun_induction quotedAfter done s with
  | case1 => exact .before _ (by decide)
  | case2 => exact .ok _
  | case3 _ s _ h _ => exact (escaped_syntactic s).of_error h
  | case4 _ _ _ _ _ h _ ih => exact ih.of_error h
  | case5 => exact .ok _
  | case6 => exact .before _ (by decide)
  | case7 _ _ _ _ _ _ _ h ih => exact ih.of_error h
  | case8 => exact .ok _

theorem exponentOf_syntactic {atEnd : Cause} (h : atEnd.category ≠ .shape) (s : List Char) :
    Syntactic (Literal.exponentOf atEnd s) := by
  unfold Literal.exponentOf
  split
  · exact .ok _
  · split
    · dsimp only
      split
      · exact .before _ h
      · split
        · exact .ok _
        · exact .inNext _ (by decide)
    · exact .ok _

theorem tailOf_syntactic {atEnd : Cause} (h : atEnd.category ≠ .shape) (negative : Bool)
    (whole s : List Char) : Syntactic (Literal.tailOf atEnd negative whole s) := by
  unfold Literal.tailOf
  split
  · dsimp only
    split
    · exact .inNext _ h
    · exact .inNext _ (by decide)
    · exact (exponentOf_syntactic h _).bind fun r => .ok _
  · exact (exponentOf_syntactic h _).bind fun r => .ok _

theorem unsigned_syntactic {atEnd : Cause} (h : atEnd.category ≠ .shape) (negative : Bool)
    (s : List Char) : Syntactic (Literal.unsigned atEnd negative s) := by
  unfold Literal.unsigned
  split
  · exact .before _ h
  · split
    · split
      · exact .inNext _ (by decide)
      · exact (tailOf_syntactic h _ _ _).bind fun r => .ok _
    · exact .ok _
  · split
    · exact (tailOf_syntactic h _ _ _).bind fun r => .ok _
    · exact .inNext _ (by decide)

theorem literal_syntactic {atEnd : Cause} (h : atEnd.category ≠ .shape) (s : List Char) :
    Syntactic (Literal.read atEnd s) := by
  unfold Literal.read
  split
  · exact (unsigned_syntactic h _ _).bind fun r => .ok _
  · exact unsigned_syntactic h _ _

theorem number_syntactic (s : List Char) : Syntactic (Number.read s) := by
  unfold Number.read
  refine (literal_syntactic (by decide) s).bind fun r => ?_
  split
  · exact .error (by simp [Cause.category])
  · exact .ok _
  · exact .before _ (by decide)

theorem scalar_syntactic (s : List Char) : Syntactic (scalar s) := by
  unfold scalar
  split
  · exact .inNext _ (by decide)
  · dsimp only
    split
    · exact (wordRest_syntactic _ _).bind fun r => .ok _
    split
    · exact (wordRest_syntactic _ _).bind fun r => .ok _
    split
    · exact (wordRest_syntactic _ _).bind fun r => .ok _
    split
    · exact (number_syntactic _).bind fun r => .ok _
    split
    · exact (quotedAfter_syntactic [] _).bind fun r => .ok _
    · exact .inNext _ (by decide)

theorem nextItem_syntactic (first : Bool) (s : List Char) : Syntactic (nextItem first s) := by
  unfold nextItem
  split
  · exact .inNext _ (by decide)
  · dsimp only
    split
    · exact .ok _
    split
    · exact .ok _
    split
    · split
      · exact .inNext _ (by decide)
      · split
        · exact .inNext _ (by decide)
        · exact .ok _
    · exact .inNext _ (by decide)

theorem nextMember_syntactic (first : Bool) (s : List Char) : Syntactic (nextMember first s) := by
  unfold nextMember
  split
  · exact .inNext _ (by decide)
  · dsimp only
    split
    · exact .ok _
    split
    · split
      · exact .ok _
      · exact .inNext _ (by decide)
    split
    · split
      · exact .inNext _ (by decide)
      · split
        · exact .ok _
        split
        · exact .inNext _ (by decide)
        · exact .inNext _ (by decide)
    · exact .inNext _ (by decide)

theorem colon_syntactic (s : List Char) : Syntactic (colon s) := by
  unfold colon
  split
  · exact .inNext _ (by decide)
  · split
    · exact .ok _
    · exact .inNext _ (by decide)

section Brackets

variable {α : Type}

theorem itemsFrom_syntactic {item : Reader α} (hi : ∀ s : List Char, Syntactic (item s))
    (first : Bool) (s : List Char) : Syntactic (itemsFrom item first s) := by
  fun_induction itemsFrom item first s with
  | case1 first s _ h => exact (nextItem_syntactic first s).of_error h
  | case2 => exact .ok _
  | case3 _ _ t _ _ _ h => exact (hi t).of_error h
  | case4 _ _ _ _ _ _ _ _ h ih => exact ih.of_error h
  | case5 => exact .ok _

theorem membersFrom_syntactic {item : Reader Value} (hi : ∀ s : List Char, Syntactic (item s))
    (first : Bool) (ms : List (String × Value)) (s : List Char) :
    Syntactic (membersFrom item first ms s) := by
  fun_induction membersFrom item first ms s with
  | case1 first _ s _ h => exact (nextMember_syntactic first s).of_error h
  | case2 => exact .ok _
  | case3 _ _ _ t _ _ _ h => exact (quotedAfter_syntactic [] t).of_error h
  | case4 _ _ _ _ _ _ k _ _ h => exact (colon_syntactic k.rest).of_error h
  | case5 _ _ _ _ _ _ _ _ u _ _ h => exact (hi u.rest).of_error h
  | case6 _ _ _ _ _ _ _ _ _ _ _ _ _ h ih => exact ih.of_error h
  | case7 => exact .ok _

end Brackets

/-- By induction on the brackets that may still be opened. -/
theorem value_syntactic (depth : Nat) (s : List Char) : Syntactic (value depth s) := by
  induction depth generalizing s with
  | zero =>
    unfold value
    split
    · exact .inNext _ (by decide)
    split
    · exact .inNext _ (by decide)
    split
    · exact .inNext _ (by decide)
    · exact (scalar_syntactic _).bind fun r => .ok _
  | succ depth ih =>
    unfold value
    split
    · exact .inNext _ (by decide)
    split
    · exact (itemsFrom_syntactic ih true _).bind fun r => .ok _
    split
    · exact (membersFrom_syntactic ih true [] _).bind fun r => .ok _
    · exact (scalar_syntactic _).bind fun r => .ok _

/-- No text is JSON of a wrong shape where any value will do. -/
theorem ofText_syntactic (s : List Char) : Syntactic (Value.ofText s) := by
  unfold Value.ofText whole
  refine (value_syntactic maxDepth s).bind fun r => ?_
  split
  · exact .ok _
  · exact .inNext _ (by decide)

end PackageMarket.Json
