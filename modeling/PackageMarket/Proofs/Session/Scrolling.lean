import Mathlib.Data.List.Chain
import PackageMarket.Proofs.Screen.Viewer
import PackageMarket.Proofs.Session.Cursor
import PackageMarket.Proofs.Session.Drawing

set_option autoImplicit false

namespace PackageMarket

open Market Screen

namespace Session

/-- What happens to a session in which a text is read: a key, that it is drawn on a terminal, or
that the text is laid out anew and can now be scrolled so far. -/
inductive Viewing where
  | key (k : Key)
  | drawing (width height : UInt16) (shown : Bool)
  | limit (max : UInt16)

def viewed (s : State) : Viewing → Except Halt State
  | .key k => (step s (.input (.key k))).map Outcome.state
  | .drawing width height shown => .ok (s.drawn (terminal width height) shown)
  | .limit max => .ok (s.editTop (·.mapScroll fun v => { v with max := max.toNat }))

structure Look where
  before : State
  viewing : Viewing
  after : State

def watch (s : State) : List Viewing → Except Halt (List Look)
  | [] => .ok []
  | x :: xs => do
    let t ← viewed s x
    let ls ← watch t xs
    return ⟨s, x, t⟩ :: ls

def Viewing.closes : Viewing → Bool
  | .key k => k.kind ≠ .release && (k.code = .esc || k.code = .enter || k.code = .char 'q')
  | _ => false

def OnTop (id : Nat) (d : Dialog) (v : Scroll) (s : State) : Prop :=
  s.dialogs.head? = some ⟨id, d.mapScroll fun _ => v⟩

/-- The word for the row that a key scrolls to, where steps stop at the
smallest and at the largest word. -/
def wordMove (max : UInt16) (code : KeyCode) (shown : UInt16) : UInt16 :=
  match code with
  | .up => minus shown 1
  | .down => plus shown 1
  | .pageUp => minus shown 10
  | .pageDown => plus shown 10
  | .home => 0
  | .last => max
  | _ => shown

/-- What becomes of the scrolling of a text. A key moves the row that is shown, on words as on
numbers, and a drawing begins with that row. -/
def Look.Obeys (l : Look) (d : Dialog) (v w : Scroll) : Prop :=
  match l.viewing with
  | .key k =>
    if k.kind = .release ∨ k.ctrl ∧ k.code = .char 'c' then w = v
    else
      w.max = v.max ∧ w.row ≤ w.max ∧
      w.shown = Selection.inside (v.max + 1) ((aim (v.max + 1) v.shown k.code).getD v.shown) ∧
      ∀ row max : UInt16, v = ⟨row.toNat, max.toNat⟩ →
        w.row = (min (wordMove max k.code (min row max)) max).toNat
  | .drawing width height _ =>
    match dialogInside (terminal width height) d with
    | none => w = v
    | some i =>
      let rows := viewerRows d (dialogBody i)
      w = ⟨v.row, min (rows.length - (dialogBody i).height.toNat) 65535⟩ ∧
      ∀ x y : Nat, x + 1 < i.width.toNat → y + 1 < i.height.toNat →
        (l.before.draw (terminal width height)).canvas.cell? (i.x.toNat + x) (i.y.toNat + y) =
          some (ground.showing (glyphIn rows (w.shown + y) x))
  | .limit max =>
    w = ⟨v.row, max.toNat⟩ ∧
    ∀ (r : Role) (a : Area) (c : Canvas) (x y : Nat), a.OnGrid → x + 1 < a.width.toNat →
      y < a.height.toNat →
      (drawBody r (d.mapScroll fun _ => w) a c).cell? (a.x.toNat + x) (a.y.toNat + y) =
        (c.cell? (a.x.toNat + x) (a.y.toNat + y)).map
          (Cell.showing (glyphIn (viewerRows d a) (w.shown + y) x))

theorem shown_move (v : Scroll) (code : KeyCode) :
    (v.move (viewerMove v.max code)).shown =
      Selection.inside (v.max + 1) ((aim (v.max + 1) v.shown code).getD v.shown) := by
  have hshown : v.shown ≤ v.max := Nat.min_le_right v.row v.max
  cases code <;>
    simp only [Scroll.move, Scroll.shown, viewerMove, aim, Selection.inside, pageStep, Option.getD]
      at hshown ⊢ <;>
    omega

/-- A step that would leave the words is brought back by the end of the text, which is a word. -/
theorem row_move_of_words (row max : UInt16) (code : KeyCode) :
    ((⟨row.toNat, max.toNat⟩ : Scroll).move (viewerMove max.toNat code)).row =
      (min (wordMove max code (min row max)) max).toNat := by
  have hmax := max.toNat_lt
  have hone : (1 : UInt16).toNat = 1 := rfl
  have hten : (10 : UInt16).toNat = 10 := rfl
  have hzero : (0 : UInt16).toNat = 0 := rfl
  cases code <;>
    simp only [Scroll.move, Scroll.shown, viewerMove, wordMove, pageStep, toNat_min, toNat_minus,
      toNat_plus, hone, hten, hzero] <;>
    omega

variable {s : State} {id : Nat} {d : Dialog} {v : Scroll}

namespace OnTop

theorem exists_cons (h : OnTop id d v s) :
    ∃ below : List OpenDialog, s.dialogs = ⟨id, d.mapScroll fun _ => v⟩ :: below :=
  List.head?_eq_some_iff.mp h

theorem of_head? (hs : s.dialogs.head? = some ⟨id, d⟩) (hd : d.scroll? = some v) :
    OnTop id d v s := by
  have hself : (d.mapScroll fun _ => v) = d := by
    cases d with
    | details name text w | message title m w =>
      cases hd
      rfl
    | _ => cases hd
  rw [OnTop, hself]
  exact hs

theorem editTop (h : OnTop id d v s) (f : Scroll → Scroll) :
    OnTop id d (f v) (s.editTop (·.mapScroll f)) := by
  obtain ⟨below, hs⟩ := h.exists_cons
  simp only [OnTop, State.editTop, hs, List.head?_cons, Dialog.mapScroll_mapScroll]

theorem drawn (h : OnTop id d v s) (screen : Area) (shown : Bool) :
    (s.drawn screen shown).dialogs.head? = some ⟨id, measured screen (d.mapScroll fun _ => v)⟩ := by
  obtain ⟨below, hs⟩ := h.exists_cons
  simp only [State.drawn, State.measured, hs, List.map_cons, List.head?_cons]

end OnTop

theorem scroll?_scrolled (hd : d.scroll?.isSome) (v : Scroll) :
    (d.mapScroll fun _ => v).scroll? = some v := by
  obtain ⟨u, hu⟩ := Option.isSome_iff_exists.mp hd
  rw [Dialog.scroll?_mapScroll, hu]
  rfl

theorem step_of_onTop (h : OnTop id d v s) (hd : d.scroll?.isSome) {k : Key}
    (hk : k.kind ≠ .release) (hquit : ¬(k.ctrl ∧ k.code = .char 'c'))
    (hcloses : ¬(Viewing.key k).closes) :
    step s (.input (.key k)) =
      .ok (.quiet (({ s with dirty := true } : State).editTop
        (·.mapScroll fun v => v.move (viewerMove v.max k.code)))) := by
  obtain ⟨below, hs⟩ := h.exists_cons
  simp only [Viewing.closes, hk, ne_eq, not_false_eq_true, decide_true, Bool.true_and,
    Bool.or_eq_true, decide_eq_true_eq, not_or] at hcloses
  obtain ⟨⟨hesc, henter⟩, hq⟩ := hcloses
  have hctrl : (k.ctrl && k.code = .char 'c') = false := by simpa using hquit
  have hviewer (t : State) : viewerKey t k =
      .quiet (t.editTop (·.mapScroll fun v => v.move (viewerMove v.max k.code))) := by
    unfold viewerKey
    split
    · exact absurd ‹_› henter
    · exact absurd ‹_› hq
    · rfl
  simp only [step, input, if_neg hk, key, hctrl, Bool.false_eq_true, if_false, hs, if_neg hesc]
  rw [← hs]
  cases d with
  | details name text w | message title m w => exact congrArg Except.ok (hviewer _)
  | _ => cases hd

theorem obeys_key (h : OnTop id d v s) (hd : d.scroll?.isSome) {k : Key}
    (hcloses : ¬(Viewing.key k).closes) :
    ∃ (t : State) (w : Scroll),
      viewed s (.key k) = .ok t ∧ OnTop id d w t ∧ Look.Obeys ⟨s, .key k, t⟩ d v w := by
  by_cases hrelease : k.kind = .release
  · refine ⟨s, v, ?_, h, by simp only [Look.Obeys, hrelease, true_or, if_true]⟩
    simp only [viewed, step, input, if_pos hrelease]
    rfl
  by_cases hquit : k.ctrl ∧ k.code = .char 'c'
  · refine ⟨{ s with dirty := true }, v, ?_,
      h, by simp only [Look.Obeys, hquit, and_self, or_true, if_true]⟩
    have hctrl : (k.ctrl && k.code = .char 'c') = true := by simpa using hquit
    simp only [viewed, step, input, if_neg hrelease, key, hctrl, if_true]
    rfl
  have hdirty : OnTop id d v { s with dirty := true } := h
  refine ⟨_, v.move (viewerMove v.max k.code), ?_,
    hdirty.editTop fun v => v.move (viewerMove v.max k.code), ?_⟩
  · rw [viewed, step_of_onTop h hd hrelease hquit hcloses]
    rfl
  · simp only [Look.Obeys, hrelease, hquit, or_self, if_false]
    refine ⟨rfl, Nat.min_le_right _ _, shown_move v k.code, ?_⟩
    rintro row max rfl
    exact row_move_of_words row max k.code

theorem obeys_drawing (h : OnTop id d v s) (hd : d.scroll?.isSome) (width height : UInt16)
    (shown : Bool) :
    ∃ w : Scroll,
      OnTop id d w (s.drawn (terminal width height) shown) ∧
      Look.Obeys ⟨s, .drawing width height shown, s.drawn (terminal width height) shown⟩ d v w := by
  have hdrawn := h.drawn (terminal width height) shown
  have hsame : dialogInside (terminal width height) (d.mapScroll fun _ => v) =
      dialogInside (terminal width height) d := dialogInside_mapScroll _ _ _
  simp only [Look.Obeys]
  cases hi : dialogInside (terminal width height) d with
  | none =>
    refine ⟨v, ?_, rfl⟩
    simp only [OnTop, hdrawn, Screen.measured, hsame, hi]
  | some i =>
    have hwide : 2 ≤ (dialogBody i).width.toNat := by
      obtain ⟨-, -, hten⟩ := dialogInside_eq_some hi
      exact Nat.le_trans (by decide) hten
    rw [hi] at hsame
    refine ⟨⟨v.row, maxScroll (viewerLines d) (dialogBody i)⟩, ?_, ?_, fun x y hx hy => ?_⟩
    · simp only [OnTop, hdrawn, Screen.measured, hsame, viewerLines_mapScroll,
        Dialog.mapScroll_mapScroll]
    · rw [maxScroll_eq hwide]
    · have hcell := State.cell?_draw h (scroll?_scrolled hd v) hsame hx hy
      rwa [viewerRows_mapScroll, viewerLines_mapScroll] at hcell

theorem obeys_limit (hd : d.scroll?.isSome) (v : Scroll) (s t : State) (max : UInt16) :
    Look.Obeys ⟨s, .limit max, t⟩ d v ⟨v.row, max.toNat⟩ := by
  refine ⟨rfl, fun r a c x y ha hx hy => ?_⟩
  rw [drawBody_of_scroll? (scroll?_scrolled hd _), cell?_drawScroll ha hx hy, viewerRows_mapScroll]

theorem obeys_viewed (h : OnTop id d v s) (hd : d.scroll?.isSome) {x : Viewing} (hx : ¬x.closes) :
    ∃ (t : State) (w : Scroll), viewed s x = .ok t ∧ OnTop id d w t ∧
      Look.Obeys ⟨s, x, t⟩ d v w := by
  cases x with
  | key k => exact obeys_key h hd hx
  | drawing width height shown =>
    obtain ⟨w, hw, hobeys⟩ := obeys_drawing h hd width height shown
    exact ⟨_, w, rfl, hw, hobeys⟩
  | limit max =>
    exact ⟨_, _, rfl, h.editTop fun v => { v with max := max.toNat }, obeys_limit hd v s _ max⟩

theorem exists_watch (h : OnTop id d v s) (hd : d.scroll?.isSome) {xs : List Viewing}
    (hxs : ∀ x ∈ xs, ¬x.closes) :
    ∃ ls : List Look,
      watch s xs = .ok ls ∧ ls.map Look.viewing = xs ∧ (∀ l ∈ ls.head?, l.before = s) ∧
      ls.IsChain (fun l m => m.before = l.after) ∧
      ∀ l ∈ ls, ∃ u w : Scroll, OnTop id d u l.before ∧ OnTop id d w l.after ∧ l.Obeys d u w := by
  induction xs generalizing s v with
  | nil =>
    exact ⟨[], rfl, rfl, fun _ hl => (Option.not_mem_none _ hl).elim, .nil, List.forall_mem_nil _⟩
  | cons x xs ih =>
    obtain ⟨hx, hrest⟩ := List.forall_mem_cons.mp hxs
    obtain ⟨t, w, ht, hw, hobeys⟩ := obeys_viewed h hd hx
    obtain ⟨ls, hls, hviewings, hhead, hchain, hall⟩ := ih hw hrest
    refine ⟨⟨s, x, t⟩ :: ls, ?_, ?_, ?_, List.isChain_cons.mpr ⟨hhead, hchain⟩,
      List.forall_mem_cons.mpr ⟨⟨v, w, h, hw, hobeys⟩, hall⟩⟩
    · simp only [watch, ht, hls, bind, Except.bind, pure, Except.pure]
    · rw [List.map_cons, hviewings]
    · intro l hl
      rw [← Option.mem_some.mp hl]

/-- However a text is drawn in between, and as long as no key closes it: each key moves the row that
is shown, up to the first or the last one, and each drawing begins with that row, so that the next
key goes on from what is seen. -/
theorem keys_move_the_row_that_is_shown (hs : s.dialogs.head? = some ⟨id, d⟩)
    (hd : d.scroll? = some v) {xs : List Viewing} (hxs : ∀ x ∈ xs, ¬x.closes) :
    ∃ ls : List Look,
      watch s xs = .ok ls ∧ ls.map Look.viewing = xs ∧ ls.IsChain (fun l m => m.before = l.after) ∧
      ∀ l ∈ ls, ∃ u w : Scroll, OnTop id d u l.before ∧ OnTop id d w l.after ∧ l.Obeys d u w := by
  have hsome : d.scroll?.isSome := by rw [hd]; rfl
  obtain ⟨ls, hls, hviewings, -, hchain, hall⟩ := exists_watch (.of_head? hs hd) hsome hxs
  exact ⟨ls, hls, hviewings, hchain, hall⟩

/-- An answer of nine lines, which is scrolled to its end before it has been drawn, on
a terminal that shows four rows of it. It begins with the eighth row then, and the
next key goes up from there. -/
theorem keys_move_the_row_that_is_shown_of_answer :
    let d : Dialog := .newMessage "Buy" (.failed "a\nb\nc\nd\ne\nf\ng\nh\ni")
    let s := (State.fresh .default "00:00:00").openDialog d
    let xs : List Viewing := [.key (.press .last), .drawing 30 9 true, .key (.press .up)]
    let first (l : Look) := (l.after.dialogs.head?.bind (·.dialog.scroll?)).map Scroll.shown
    s.dialogs.head? = some ⟨0, d⟩ ∧ d.scroll? = some .top ∧ (∀ x ∈ xs, ¬x.closes) ∧
    ∃ l₁ l₂ l₃ : Look,
      watch s xs = .ok [l₁, l₂, l₃] ∧ first l₁ = some 65535 ∧ first l₂ = some 7 ∧
      first l₃ = some 6 ∧
      ((l₂.before.draw (terminal 30 9)).canvas.cell? 3 2).map Cell.symbol = some ['f'] := by
  intro d s xs first
  have hfirst : (watch s xs).toOption.map (List.map first) = some [some 65535, some 7, some 6] := by
    decide +kernel +revert
  have hxs : ∀ x ∈ xs, ¬x.closes := by decide
  obtain ⟨ls, hls, hviewings, -, hall⟩ :=
    keys_move_the_row_that_is_shown (s := s) (d := d) rfl rfl hxs
  obtain ⟨l₁, ls, rfl, -, hviewings⟩ := List.map_eq_cons_iff.mp hviewings
  obtain ⟨l₂, ls, rfl, hviewing, hviewings⟩ := List.map_eq_cons_iff.mp hviewings
  obtain ⟨l₃, ls, rfl, -, hviewings⟩ := List.map_eq_cons_iff.mp hviewings
  obtain rfl := List.map_eq_nil_iff.mp hviewings
  rw [hls] at hfirst
  obtain ⟨hend, hdrawn, hup⟩ : first l₁ = some 65535 ∧ first l₂ = some 7 ∧ first l₃ = some 6 := by
    simpa [Except.toOption] using hfirst
  obtain ⟨u, w, -, hw, hobeys⟩ := hall l₂ (by simp)
  have hrow : w.shown = 7 := by
    have hscroll : first l₂ = some w.shown := by
      simp only [first, show l₂.after.dialogs.head? = _ from hw]
      rfl
    exact Option.some.inj (hscroll.symm.trans hdrawn)
  have hinside : dialogInside (terminal 30 9) d = some ⟨3, 2, 24, 5⟩ := by decide
  simp only [Look.Obeys, hviewing, hinside, hrow] at hobeys
  have hcell : (l₂.before.draw (terminal 30 9)).canvas.cell? 3 2 = _ :=
    hobeys.2 0 0 (by decide) (by decide)
  refine ⟨rfl, rfl, hxs, l₁, l₂, l₃, hls, hend, hdrawn, hup, ?_⟩
  rw [hcell]
  decide +kernel

end Session

end PackageMarket
