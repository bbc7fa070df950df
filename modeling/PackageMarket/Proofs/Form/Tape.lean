import PackageMarket.Proofs.Form.TextField

set_option autoImplicit false

namespace PackageMarket

open Text

structure Tape where
  before : List Char
  after : List Char
  deriving DecidableEq, Repr

inductive Stroke where
  | insert (c : Char)
  | deleteBack
  | deleteForward
  | moveLeft
  | moveRight
  | set (s : List Char)
  deriving DecidableEq, Repr

namespace Tape

/-- Only a tape of several lines takes line breaks. At the ends there is
nothing to delete or to pass. -/
def press (multiline : Bool) (t : Tape) : Stroke → Tape
  | .insert c => if c = '\n' ∧ multiline = false then t else ⟨t.before ++ [c], t.after⟩
  | .deleteBack => ⟨t.before.dropLast, t.after⟩
  | .deleteForward => ⟨t.before, t.after.tail⟩
  | .moveLeft =>
    match t.before.getLast? with
    | none => t
    | some c => ⟨t.before.dropLast, c :: t.after⟩
  | .moveRight =>
    match t.after with
    | [] => t
    | c :: after => ⟨t.before ++ [c], after⟩
  | .set s => ⟨s, []⟩

def run (multiline : Bool) (t : Tape) (ss : List Stroke) : Tape := ss.foldl (press multiline) t

end Tape

namespace TextField

def press (f : TextField) : Stroke → TextField
  | .insert c => f.insertChar c
  | .deleteBack => f.deleteBack
  | .deleteForward => f.deleteForward
  | .moveLeft => f.moveLeft
  | .moveRight => f.moveRight
  | .set s => f.setText s

def run (f : TextField) (ss : List Stroke) : TextField := ss.foldl press f

def tape (f : TextField) : Tape := ⟨f.before, f.after⟩

def ofTape (f : TextField) (t : Tape) : TextField := f.between t.before t.after

variable (f : TextField) (t : Tape)

@[simp] theorem tape_ofTape : (f.ofTape t).tape = t := by
  rw [tape, ofTape, before_between, after_between]

theorem Placed.eq_ofTape {f : TextField} (h : f.Placed) : f = f.ofTape f.tape := h.eq_between

theorem placed_ofTape : (f.ofTape t).Placed := placed_between f t.before t.after

theorem press_ofTape (s : Stroke) : (f.ofTape t).press s = f.ofTape (t.press f.multiline s) := by
  obtain ⟨a, b⟩ := t
  cases s with
  | insert c =>
    rw [press, ofTape, insertChar_between, Tape.press]
    by_cases h : c = '\n' ∧ f.multiline = false
    · rw [if_pos h, if_pos (by simp [h.1, h.2])]
      rfl
    · rw [if_neg h, if_neg (by simpa using h)]
      rfl
  | deleteBack => exact f.deleteBack_between a b
  | deleteForward =>
    rw [press, ofTape, deleteForward_between, List.drop_one]
    rfl
  | moveLeft =>
    rw [press, ofTape, moveLeft_between]
    cases h : a.getLast? with
    | none =>
      rw [List.getLast?_eq_none_iff] at h
      subst h
      rfl
    | some c => simp [ofTape, Tape.press, h]
  | moveRight =>
    rw [press, ofTape, moveRight_between]
    cases b with
    | nil => simp [ofTape, Tape.press]
    | cons c b => rfl
  | set s => exact setText_eq _ s

/-- By induction on the strokes; nothing but the two lists and the kind
of the field matters to them. -/
theorem run_ofTape (ss : List Stroke) : (f.ofTape t).run ss = f.ofTape (t.run f.multiline ss) := by
  induction ss generalizing t with
  | nil => rfl
  | cons s ss ih =>
    rw [run, List.foldl_cons, press_ofTape]
    exact ih _

theorem Placed.press {f : TextField} (h : f.Placed) (s : Stroke) :
    f.press s = f.ofTape (f.tape.press f.multiline s) := by
  rw [← press_ofTape, ← h.eq_ofTape]

theorem Placed.run {f : TextField} (h : f.Placed) (ss : List Stroke) :
    f.run ss = f.ofTape (f.tape.run f.multiline ss) := by
  rw [← run_ofTape, ← h.eq_ofTape]

theorem deleteBack_insertChar {f : TextField} (h : f.Placed) {c : Char}
    (hc : c = '\n' → f.multiline = true) : (f.insertChar c).deleteBack = f := by
  have hne : ¬(c = '\n' ∧ f.multiline = false) := by
    rintro ⟨hbreak, hline⟩
    rw [hc hbreak] at hline
    cases hline
  have hinsert : f.insertChar c = f.ofTape ⟨f.before ++ [c], f.after⟩ := by
    have hpress := h.press (.insert c)
    rwa [Tape.press, if_neg hne] at hpress
  rw [hinsert, ofTape, deleteBack_between, List.dropLast_concat, ← h.eq_between]

/-- A field whose cursor is between two characters is an editor of the characters on its two sides.
Each stroke does to the field what it does to the two lists, so that any number of strokes leaves
the text of the two lists and the cursor behind the bytes of the first. At an end, deleting and
moving towards it changes nothing. What a field takes, deleting back restores. -/
theorem field_is_two_lists {f : TextField} (h : f.Placed) :
    (∀ s : Stroke,
      (f.press s).Placed ∧ (f.press s).tape = f.tape.press f.multiline s ∧
        f.press s = { f with text := (f.press s).text, cursor := (f.press s).cursor }) ∧
    (∀ ss : List Stroke,
      (f.run ss).text = (f.tape.run f.multiline ss).before ++ (f.tape.run f.multiline ss).after ∧
        (f.run ss).cursor = (utf8 (f.tape.run f.multiline ss).before).length) ∧
    (f.before = [] → f.press .deleteBack = f ∧ f.press .moveLeft = f) ∧
    (f.after = [] → f.press .deleteForward = f ∧ f.press .moveRight = f) ∧
    ∀ c : Char, (c = '\n' → f.multiline = true) → (f.press (.insert c)).press .deleteBack = f := by
  refine ⟨fun s => ?_, fun ss => ?_, fun hbefore => ?_, fun hafter => ?_,
    fun c => deleteBack_insertChar h⟩
  · rw [h.press s]
    exact ⟨placed_ofTape f _, tape_ofTape f _, rfl⟩
  · rw [h.run ss, length_utf8]
    exact ⟨rfl, rfl⟩
  · constructor
    · calc f.press .deleteBack = f.ofTape (f.tape.press f.multiline .deleteBack) := h.press _
        _ = f.ofTape f.tape := by simp [tape, Tape.press, hbefore]
        _ = f := h.eq_ofTape.symm
    · calc f.press .moveLeft = f.ofTape (f.tape.press f.multiline .moveLeft) := h.press _
        _ = f.ofTape f.tape := by simp [tape, Tape.press, hbefore]
        _ = f := h.eq_ofTape.symm
  · constructor
    · calc f.press .deleteForward = f.ofTape (f.tape.press f.multiline .deleteForward) := h.press _
        _ = f.ofTape f.tape := by simp [tape, Tape.press, hafter]
        _ = f := h.eq_ofTape.symm
    · calc f.press .moveRight = f.ofTape (f.tape.press f.multiline .moveRight) := h.press _
        _ = f.ofTape f.tape := by simp [tape, Tape.press, hafter]
        _ = f := h.eq_ofTape.symm

/-- Characters of two and three bytes, typed, passed and deleted on both sides of the cursor. -/
theorem field_is_two_lists_of_wide :
    let f : TextField := ⟨"json", "JSON", ['é', '€'], 2, true⟩
    let ss : List Stroke :=
      [.insert 'ü', .moveRight, .deleteBack, .moveLeft, .deleteForward, .insert '\n']
    f.Placed ∧ (f.run ss).text = ['é', '\n'] ∧ (f.run ss).cursor = 3 ∧
      (f.press (.insert '€')).press .deleteBack = f := by
  intro f ss
  have h : f.Placed := rfl
  obtain ⟨-, hrun, -, -, htaken⟩ := field_is_two_lists h
  exact ⟨h, (hrun ss).1, (hrun ss).2, htaken '€' fun _ => rfl⟩

/-- A line break does not go into a field of one line; deleting back then
takes what stood there before. -/
theorem refused_break_is_not_taken_back :
    let f : TextField := ⟨"amount", "Amount", ['1'], 1, false⟩
    f.Placed ∧ f.press (.insert '\n') = f ∧ (f.press (.insert '\n')).press .deleteBack ≠ f :=
  ⟨rfl, rfl, by decide⟩

end TextField

end PackageMarket
