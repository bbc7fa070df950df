import PackageMarket.Proofs.Screen.Dialog
import PackageMarket.Proofs.Session.Run

set_option autoImplicit false

/-!
Drawing is not felt. All that it leaves behind is how far a dialog can be scrolled, and that only
says how far keys scroll it: two sessions that differ in nothing else ask for the same.
-/

theorem Except.map_bind_congr {ε α β γ δ : Type} {x y : Except ε α} {g : α → γ}
    {f f' : α → Except ε β} {k : β → δ} (hx : x.map g = y.map g)
    (hf : ∀ a b : α, g a = g b → (f a).map k = (f' b).map k) :
    (x >>= f).map k = (y >>= f').map k := by
  cases x with
  | error e =>
    cases y with
    | error e' => exact congrArg Except.error (Except.error.inj hx)
    | ok b => cases hx
  | ok a =>
    cases y with
    | error e' => cases hx
    | ok b => exact hf a b (Except.ok.inj hx)

namespace PackageMarket

open Market Screen

def Dialog.unscrolled (d : Dialog) : Dialog := d.mapScroll fun _ => .top

namespace State

def mapScroll (f : Scroll → Scroll) (s : State) : State :=
  { s with dialogs := s.dialogs.map fun d => { d with dialog := d.dialog.mapScroll f } }

def unmeasured (s : State) : State := s.mapScroll fun v => { v with max := 0 }

def unscrolled (s : State) : State := s.mapScroll fun _ => .top

/-- The state less its scrolling and its mark: all that events may hang on. -/
def bare (s : State) : State := { s.unscrolled with dirty := false }

def drawn (s : State) (screen : Area) (shown : Bool) : State :=
  { s.measured screen with dirty := s.dirty && !shown }

end State

def Outcome.mapState (f : State → State) (o : Outcome) : Outcome := { o with state := f o.state }

namespace Dialog

variable (d : Dialog)

theorem mapForm_unscrolled (f : Form → Form) :
    (d.unscrolled.mapForm f).unscrolled = (d.mapForm f).unscrolled := by
  cases d <;> rfl

theorem mapEditor_unscrolled (f : TextField → TextField) :
    (d.unscrolled.mapEditor f).unscrolled = (d.mapEditor f).unscrolled := by
  cases d <;> rfl

theorem mapScroll_unscrolled (f : Scroll → Scroll) :
    (d.unscrolled.mapScroll f).unscrolled = (d.mapScroll f).unscrolled := by
  cases d <;> rfl

theorem operation_unscrolled : d.unscrolled.operation? = d.operation? := by
  cases d <;> rfl

theorem submit_unscrolled :
    d.unscrolled.submit = d.submit.map fun x => (x.1.unscrolled, x.2) := by
  cases d with
  | registerPkg e | updatePkg e =>
    simp only [unscrolled, mapScroll, submit]
    cases submitDraft e <;> rfl
  | _ => rfl

end Dialog

namespace State

variable (s : State)

theorem mapScroll_mapScroll (f g : Scroll → Scroll) :
    (s.mapScroll g).mapScroll f = s.mapScroll fun v => f (g v) := by
  simp [mapScroll, Dialog.mapScroll_mapScroll]

@[simp] theorem unscrolled_unscrolled : s.unscrolled.unscrolled = s.unscrolled :=
  s.mapScroll_mapScroll _ _

@[simp] theorem bare_unscrolled : s.unscrolled.bare = s.bare := by
  rw [bare, unscrolled_unscrolled, bare]

theorem unscrolled_of_nil {s : State} (h : s.dialogs = []) : s.unscrolled = s := by
  rw [unscrolled, mapScroll, h, List.map_nil, ← h]

theorem dialogs_unscrolled :
    s.unscrolled.dialogs = s.dialogs.map fun d => { d with dialog := d.dialog.unscrolled } := rfl

/-- Measuring touches nothing that a change of the last row would not. -/
theorem mapScroll_measured {f : Scroll → Scroll} (hf : ∀ v w : Scroll, v.row = w.row → f v = f w)
    (screen : Area) : (s.measured screen).mapScroll f = s.mapScroll f := by
  have hd (d : Dialog) : (Screen.measured screen d).mapScroll f = d.mapScroll f := by
    obtain ⟨g, hg, hrow⟩ := exists_measured screen d
    rw [hg, Dialog.mapScroll_mapScroll]
    exact congrArg d.mapScroll (funext fun v => hf _ _ (hrow v))
  simp [mapScroll, measured, hd]

theorem unmeasured_measured (screen : Area) : (s.measured screen).unmeasured = s.unmeasured :=
  s.mapScroll_measured (fun v w h => by rw [h]) screen

theorem bare_drawn (screen : Area) (shown : Bool) : (s.drawn screen shown).bare = s.bare := by
  have h : (s.measured screen).unscrolled = s.unscrolled :=
    s.mapScroll_measured (fun _ _ _ => rfl) screen
  rw [bare, bare, ← h]
  rfl

theorem closeTop_unscrolled : s.unscrolled.closeTop = s.closeTop.unscrolled := by
  unfold closeTop
  rw [dialogs_unscrolled]
  cases s.dialogs <;> rfl

theorem openDialog_unscrolled (d : Dialog) :
    (s.unscrolled.openDialog d).unscrolled = (s.openDialog d).unscrolled := by
  simp [openDialog, unscrolled, mapScroll, Dialog.mapScroll_mapScroll]

theorem editTop_unscrolled {f : Dialog → Dialog}
    (hf : ∀ d : Dialog, (f d.unscrolled).unscrolled = (f d).unscrolled) :
    (s.unscrolled.editTop f).unscrolled = (s.editTop f).unscrolled := by
  have hf (d : Dialog) : (f (d.mapScroll fun _ => .top)).mapScroll (fun _ => .top) =
      (f d).mapScroll fun _ => .top := hf d
  cases hs : s.dialogs with
  | nil => simp [editTop, unscrolled, mapScroll, hs]
  | cons d ds => simp [editTop, unscrolled, mapScroll, hs, hf, Dialog.mapScroll_mapScroll]

end State

namespace Session

/-- Two results of an event that do not differ but in what `f` leaves out of the states. -/
def Agree (f : State → State) (x y : Except Halt Outcome) : Prop :=
  x.map (·.mapState f) = y.map (·.mapState f)

variable {s t : State}

theorem agree_ok {f : State → State} (h : f s = f t) (as : List Action) (ns : List Journal.Note) :
    Agree f (.ok ⟨s, as, ns⟩) (.ok ⟨t, as, ns⟩) := by
  simp only [Agree, Except.map, Outcome.mapState, h]

variable (s) (k : Key)

theorem closed_unscrolled (ns : List Journal.Note) :
    Agree State.unscrolled (.ok ⟨s.unscrolled.closeTop, [], ns⟩) (.ok ⟨s.closeTop, [], ns⟩) := by
  rw [State.closeTop_unscrolled]
  exact agree_ok (State.unscrolled_unscrolled _) _ _

theorem submitTop_unscrolled : Agree State.unscrolled (submitTop s.unscrolled) (submitTop s) := by
  unfold submitTop
  rw [State.dialogs_unscrolled]
  cases s.dialogs with
  | nil => exact agree_ok s.unscrolled_unscrolled _ _
  | cons d ds =>
    simp only [List.map_cons, Dialog.submit_unscrolled, Dialog.operation_unscrolled,
      State.closeTop_unscrolled]
    cases d.dialog.submit with
    | error f => rfl
    | ok x =>
      obtain ⟨after, x⟩ := x
      cases x with
      | refused =>
        refine agree_ok ?_ _ _
        simp [State.unscrolled, State.mapScroll, Dialog.unscrolled, Dialog.mapScroll_mapScroll]
      | send r =>
        cases d.dialog.operation? with
        | none => exact agree_ok s.closeTop.unscrolled_unscrolled _ _
        | some op =>
          refine agree_ok ?_ _ _
          simp [State.unscrolled, State.mapScroll, Dialog.mapScroll_mapScroll]
      | tell m => exact agree_ok (s.closeTop.openDialog_unscrolled _) _ _

theorem formKey_unscrolled : Agree State.unscrolled (formKey s.unscrolled k) (formKey s k) := by
  unfold formKey
  split
  · exact submitTop_unscrolled s
  all_goals exact agree_ok (s.editTop_unscrolled fun d => d.mapForm_unscrolled _) _ _

theorem editorKey_unscrolled :
    Agree State.unscrolled (editorKey s.unscrolled k) (editorKey s k) := by
  unfold editorKey
  split
  · exact submitTop_unscrolled s
  · exact agree_ok (s.editTop_unscrolled fun d => d.mapEditor_unscrolled _) _ _

theorem confirmKey_unscrolled :
    Agree State.unscrolled (confirmKey s.unscrolled k) (confirmKey s k) := by
  unfold confirmKey
  split
  case h_1 | h_2 | h_3 => exact submitTop_unscrolled s
  case h_4 | h_5 => exact closed_unscrolled s _
  · exact agree_ok s.unscrolled_unscrolled _ _

theorem viewerKey_unscrolled :
    Agree State.unscrolled (.ok (viewerKey s.unscrolled k)) (.ok (viewerKey s k)) := by
  unfold viewerKey
  split
  case h_1 | h_2 => exact closed_unscrolled s _
  · exact agree_ok (s.editTop_unscrolled fun d => d.mapScroll_unscrolled _) _ _

theorem dialogKey_unscrolled (d : Dialog) :
    Agree State.unscrolled (dialogKey s.unscrolled d.unscrolled k) (dialogKey s d k) := by
  cases d with
  | selfIssueCash f | feeAgreement f => exact formKey_unscrolled s k
  | registerPkg x | updatePkg x => exact editorKey_unscrolled s k
  | buyPkg p | deletePkg r => exact confirmKey_unscrolled s k
  | details name text w | message title m w => exact viewerKey_unscrolled s k

theorem key_unscrolled : Agree State.unscrolled (key s.unscrolled k) (key s k) := by
  unfold key
  split
  · exact agree_ok s.unscrolled_unscrolled _ _
  · cases hs : s.dialogs with
    | nil =>
      -- Keys reach the page only when there is no dialog, and then nothing is scrolled.
      rw [State.unscrolled_of_nil hs, hs]
      rfl
    | cons d ds =>
      simp only [State.dialogs_unscrolled, hs, List.map_cons]
      split
      · exact closed_unscrolled s _
      · exact dialogKey_unscrolled s k d.dialog

theorem edited_unscrolled {f : Dialog → Dialog}
    (hf : ∀ d : Dialog, (f d.unscrolled).unscrolled = (f d).unscrolled) :
    ({ s.unscrolled.editTop f with dirty := true } : State).unscrolled =
      ({ s.editTop f with dirty := true } : State).unscrolled :=
  congrArg (fun t : State => { t with dirty := true }) (s.editTop_unscrolled hf)

theorem paste_unscrolled (text : List Char) :
    (paste s.unscrolled text).unscrolled = (paste s text).unscrolled := by
  unfold paste
  rw [State.dialogs_unscrolled]
  cases s.dialogs with
  | nil => exact s.unscrolled_unscrolled
  | cons d ds =>
    obtain ⟨id, d⟩ := d
    cases d with
    | registerPkg e | updatePkg e => exact edited_unscrolled s fun d => d.mapEditor_unscrolled _
    | selfIssueCash f | feeAgreement f =>
      simp only [List.map_cons, Dialog.unscrolled, Dialog.mapScroll]
      split
      · exact edited_unscrolled s fun d => d.mapForm_unscrolled _
      · exact s.unscrolled_unscrolled
    | _ => exact s.unscrolled_unscrolled

theorem refresh_unscrolled (v : View) : s.unscrolled.refresh v = (s.refresh v).unscrolled := by
  cases v <;> rfl

theorem tick_unscrolled (now : Clock.Moment) :
    Agree State.unscrolled (tick s.unscrolled now) (tick s now) := by
  have hsettings : s.unscrolled.settings = s.settings := rfl
  have hclock : s.unscrolled.clock = s.clock := rfl
  unfold tick
  rw [hsettings, hclock]
  split
  · rfl
  · refine agree_ok ?_ _ _
    split
    · exact s.unscrolled_unscrolled
    · exact State.unscrolled_unscrolled { s with clock := _, dirty := true }

theorem step_unscrolled (e : Event) : Agree State.unscrolled (step s.unscrolled e) (step s e) := by
  cases e with
  | input i =>
    cases i with
    | key k =>
      simp only [step, input]
      split
      · exact agree_ok s.unscrolled_unscrolled _ _
      · exact key_unscrolled { s with dirty := true } k
    | paste text => exact agree_ok (paste_unscrolled s text) _ _
    | resize => exact agree_ok (State.unscrolled_unscrolled { s with dirty := true }) _ _
    | other => exact agree_ok s.unscrolled_unscrolled _ _
  | response id op m =>
    exact agree_ok
      (State.openDialog_unscrolled { s with pending := State.removePending id s.pending } _) _ _
  | refreshed v =>
    refine agree_ok ?_ _ _
    rw [refresh_unscrolled, State.unscrolled_unscrolled]
  | refreshFailed target error => exact agree_ok s.unscrolled_unscrolled _ _
  | tick now => exact tick_unscrolled s now

variable (dirty : Bool)

theorem paste_of_dirty (text : List Char) :
    (paste { s with dirty } text).bare = (paste s text).bare := by
  have hedit (f : Dialog → Dialog) :
      ({ ({ s with dirty } : State).editTop f with dirty := true } : State) =
        { s.editTop f with dirty := true } := by
    unfold State.editTop
    dsimp only
    split <;> rfl
  unfold paste
  simp only [hedit]
  split
  · rfl
  · split
    case h_3 | h_4 => split <;> rfl
    all_goals rfl

theorem step_of_dirty (e : Event) : Agree State.bare (step { s with dirty } e) (step s e) := by
  cases e with
  | input i =>
    cases i with
    | key k =>
      simp only [step, input]
      split <;> rfl
    | paste text => exact agree_ok (paste_of_dirty s dirty text) _ _
    | resize | other => rfl
  | refreshed v => cases v <;> rfl
  | tick now =>
    simp only [step, tick]
    split
    · rfl
    · refine agree_ok ?_ _ _
      split <;> rfl
  | _ => rfl

theorem Agree.bare {x y : Except Halt Outcome} (h : Agree State.unscrolled x y) :
    Agree State.bare x y := by
  have hmap (z : Except Halt Outcome) :
      z.map (·.mapState State.bare) = (z.map (·.mapState State.unscrolled)).map
        (·.mapState State.bare) := by
    cases z with
    | error f => rfl
    | ok o => simp [Except.map, Outcome.mapState]
  calc x.map (·.mapState State.bare)
      = (x.map (·.mapState State.unscrolled)).map (·.mapState State.bare) := hmap x
    _ = (y.map (·.mapState State.unscrolled)).map (·.mapState State.bare) := congrArg _ h
    _ = y.map (·.mapState State.bare) := (hmap y).symm

variable {s}

theorem step_congr (h : s.bare = t.bare) (e : Event) : Agree State.bare (step s e) (step t e) := by
  have hbare (r : State) : Agree State.bare (step r.bare e) (step r e) :=
    (step_of_dirty r.unscrolled false e).trans (step_unscrolled r e).bare
  have ht := hbare t
  rw [← h] at ht
  exact (hbare s).symm.trans ht

inductive Occurrence where
  | event (e : Event)
  | drawing (screen : Area) (shown : Bool)

def Occurrence.event? : Occurrence → Option Event
  | .event e => some e
  | .drawing _ _ => none

def play (s : State) : List Occurrence → Except Halt (State × List Outcome)
  | [] => .ok (s, [])
  | .event e :: xs => do
    let o ← step s e
    let (t, os) ← play o.state xs
    return (t, o :: os)
  | .drawing screen shown :: xs => play (s.drawn screen shown) xs

def felt (r : State × List Outcome) : State × List Outcome :=
  (r.1.bare, r.2.map (·.mapState State.bare))

variable {xs ys : List Occurrence}

theorem play_event_congr {e : Event} (h : s.bare = t.bare)
    (hrest : ∀ s t : State, s.bare = t.bare → (play s xs).map felt = (play t ys).map felt) :
    (play s (.event e :: xs)).map felt = (play t (.event e :: ys)).map felt := by
  refine Except.map_bind_congr (step_congr h e) fun o p hop => ?_
  refine Except.map_bind_congr (hrest o.state p.state (congrArg Outcome.state hop))
    fun q r hqr => ?_
  obtain ⟨hstate, houtcomes⟩ := Prod.ext_iff.mp hqr
  exact congrArg Except.ok (Prod.ext hstate (List.cons_eq_cons.mpr ⟨hop, houtcomes⟩))

theorem play_events_congr (es : List Event) (h : s.bare = t.bare) :
    (play s (es.map .event)).map felt = (play t (es.map .event)).map felt := by
  induction es generalizing s t with
  | nil => simp [play, Except.map, felt, h]
  | cons e es ih => exact play_event_congr h fun _ _ => ih

theorem play_eq_undrawn (s : State) (xs : List Occurrence) :
    (play s xs).map felt = (play s ((xs.filterMap Occurrence.event?).map .event)).map felt := by
  induction xs generalizing s with
  | nil => rfl
  | cons x xs ih =>
    cases x with
    | event e =>
      -- The event may scroll the two states differently, so the rest is compared from two that are
      -- alike.
      exact play_event_congr rfl fun s t h => (ih s).trans (play_events_congr _ h)
    | drawing screen shown =>
      exact (ih _).trans (play_events_congr _ (s.bare_drawn screen shown))

theorem play_congr (h : s.bare = t.bare)
    (hevents : xs.filterMap Occurrence.event? = ys.filterMap Occurrence.event?) :
    (play s xs).map felt = (play t ys).map felt := by
  rw [play_eq_undrawn s, hevents, play_events_congr _ h, ← play_eq_undrawn t]

theorem play_ok_or (s : State) (xs : List Occurrence) :
    (∃ (t : State) (os : List Outcome), play s xs = .ok (t, os)) ∨
      ∃ now : Clock.Moment, .tick now ∈ xs.filterMap Occurrence.event? ∧
        Clock.render now s.settings.timestampFormat = none := by
  induction xs generalizing s with
  | nil => exact .inl ⟨s, [], rfl⟩
  | cons x xs ih =>
    cases x with
    | event e =>
      rcases step_ok_or s e with ⟨o, ho⟩ | ⟨now, rfl, hnow⟩
      · rcases ih o.state with ⟨t, os, hplay⟩ | ⟨now, hmem, hnow⟩
        · refine .inl ⟨t, o :: os, ?_⟩
          simp only [play, ho, hplay, bind, Except.bind, pure, Except.pure]
        · rw [settings_of_change (change_of_step ho)] at hnow
          exact .inr ⟨now, List.mem_cons_of_mem _ hmem, hnow⟩
      · exact .inr ⟨now, List.mem_cons_self, hnow⟩
    | drawing screen shown => exact ih _

/-- A single drawing changes nothing but how far dialogs can be scrolled. And with drawings in
between, on any screens and at any points, the same events ask for the same, one by one, and leave
the same behind but for the mark and the scrolling. -/
theorem drawing_is_not_felt (s : State) :
    (∀ screen : Area, (s.measured screen).unmeasured = s.unmeasured) ∧
    ∀ xs ys : List Occurrence,
      xs.filterMap Occurrence.event? = ys.filterMap Occurrence.event? →
      (∃ (t u : State) (os ps : List Outcome),
        play s xs = .ok (t, os) ∧ play s ys = .ok (u, ps) ∧
        os.map Outcome.actions = ps.map Outcome.actions ∧ t.bare = u.bare) ∨
      ∃ now : Clock.Moment, .tick now ∈ xs.filterMap Occurrence.event? ∧
        Clock.render now s.settings.timestampFormat = none := by
  refine ⟨s.unmeasured_measured, fun xs ys hevents => ?_⟩
  rcases play_ok_or s xs with ⟨t, os, hx⟩ | hclock
  · have hsame := play_congr (rfl : s.bare = s.bare) hevents
    rw [hx] at hsame
    obtain ⟨⟨u, ps⟩, hy, hfelt⟩ := Except.map_eq_ok_iff.mp hsame.symm
    obtain ⟨hstate, houtcomes⟩ := Prod.ext_iff.mp hfelt
    refine .inl ⟨t, u, os, ps, hx, hy, ?_, hstate.symm⟩
    have hactions := congrArg (List.map Outcome.actions) houtcomes.symm
    simpa [felt, Function.comp_def, Outcome.mapState] using hactions
  · exact .inr hclock

/-- An answer that fits on the screen: who has seen it drawn cannot scroll it,
who has not goes down a row. -/
theorem drawing_is_not_felt_of_answer :
    let s := State.fresh .default "00:00:00"
    let answer : Occurrence := .event (.response 0 .buyPkg (.failed "refused"))
    let down : Occurrence := .event (.input (.key (.press .down)))
    let xs := [answer, .drawing ⟨0, 0, 80, 24⟩ true, down]
    let ys := [answer, down, .drawing ⟨0, 0, 20, 8⟩ false]
    let rows (t : State) := t.dialogs.map fun d => d.dialog.scroll?.map Scroll.row
    ∃ (t u : State) (os ps : List Outcome),
      play s xs = .ok (t, os) ∧ play s ys = .ok (u, ps) ∧
      rows t = [some 0] ∧ rows u = [some 1] ∧
      os.map Outcome.actions = ps.map Outcome.actions ∧ t.bare = u.bare ∧
      (u.measured ⟨0, 0, 80, 24⟩).unmeasured = u.unmeasured := by
  intro s answer down xs ys rows
  have hrows : (play s xs).toOption.map (rows ·.1) = some [some 0] ∧
      (play s ys).toOption.map (rows ·.1) = some [some 1] := by
    decide +kernel +revert
  rcases (drawing_is_not_felt s).2 xs ys rfl with
    ⟨t, u, os, ps, hx, hy, hactions, hbare⟩ | ⟨now, hmem, -⟩
  · rw [hx, hy] at hrows
    exact ⟨t, u, os, ps, hx, hy, Option.some.inj hrows.1, Option.some.inj hrows.2, hactions, hbare,
      (drawing_is_not_felt u).1 _⟩
  · simp [xs, answer, down, Occurrence.event?] at hmem

end Session

end PackageMarket
