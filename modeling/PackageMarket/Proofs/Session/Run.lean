import PackageMarket.Proofs.Dialog.Submission
import PackageMarket.Proofs.Session.Change
import PackageMarket.Proofs.Settings.File

set_option autoImplicit false

/-!
A session over any number of events. Nothing stops one that has begun: a clock that could be shown
once can be shown at any time, and every text of an editor is either read or refused.
-/

namespace PackageMarket.Session

open Market

structure Turn where
  before : State
  event : Event
  outcome : Outcome

def Turn.after (t : Turn) : State := t.outcome.state

def Turn.actions (t : Turn) : List Action := t.outcome.actions

def run (s : State) : List Event → Except Halt (List Turn)
  | [] => .ok []
  | e :: es => do
    let o ← step s e
    let ts ← run o.state es
    return ⟨s, e, o⟩ :: ts

theorem run_pair {s : State} {e f : Event} {o o' : Outcome} (he : step s e = .ok o)
    (hf : step o.state f = .ok o') : run s [e, f] = .ok [⟨s, e, o⟩, ⟨o.state, f, o'⟩] := by
  simp only [run, he, hf, bind, Except.bind, pure, Except.pure]

def last (s : State) : List Turn → State
  | [] => s
  | t :: ts => last t.after ts

def states (s : State) (ts : List Turn) : List State := s :: ts.map Turn.after

/-- Every turn meets the state that the one before it left, and handles its event. -/
inductive Run : State → List Turn → Prop where
  | nil (s : State) : Run s []
  | cons {s : State} {e : Event} {o : Outcome} {ts : List Turn} :
      step s e = .ok o → Run o.state ts → Run s (⟨s, e, o⟩ :: ts)

theorem run_of_eq_ok {s : State} {es : List Event} {ts : List Turn} (h : run s es = .ok ts) :
    Run s ts := by
  induction es generalizing s ts with
  | nil =>
    cases h
    exact .nil s
  | cons e es ih =>
    cases ho : step s e with
    | error f => simp [run, ho, bind, Except.bind] at h
    | ok o =>
      cases hts : run o.state es with
      | error f => simp [run, ho, hts, bind, Except.bind] at h
      | ok us =>
        simp only [run, ho, hts, bind, Except.bind, pure, Except.pure, Except.ok.injEq] at h
        subst h
        exact .cons ho (ih hts)

theorem last_mem_states (s : State) (ts : List Turn) : last s ts ∈ states s ts := by
  induction ts generalizing s with
  | nil => exact List.mem_singleton_self s
  | cons t ts ih => exact List.mem_cons_of_mem s (ih t.after)

namespace Run

variable {s : State} {t : Turn} {us vs ts : List Turn}

theorem append_iff : Run s (us ++ vs) ↔ Run s us ∧ Run (last s us) vs := by
  induction us generalizing s with
  | nil => exact ⟨fun h => ⟨.nil s, h⟩, fun h => h.2⟩
  | cons t us ih =>
    constructor
    · intro h
      cases h with
      | cons ho hr =>
        obtain ⟨hu, hv⟩ := ih.mp hr
        exact ⟨.cons ho hu, hv⟩
    · rintro ⟨hu, hv⟩
      cases hu with
      | cons ho hr => exact .cons ho (ih.mpr ⟨hr, hv⟩)

theorem tail (h : Run s (t :: ts)) : Run t.after ts := by
  cases h with
  | cons _ hr => exact hr

theorem change (h : Run s ts) (ht : t ∈ ts) : Change t.before t.event t.after t.actions := by
  induction h with
  | nil s => cases ht
  | cons ho _ ih =>
    rcases List.mem_cons.mp ht with rfl | ht
    · exact change_of_step ho
    · exact ih ht

theorem before_mem_states (h : Run s ts) (ht : t ∈ ts) : t.before ∈ states s ts := by
  induction h with
  | nil s => cases ht
  | cons ho _ ih =>
    rcases List.mem_cons.mp ht with rfl | ht
    · exact List.mem_cons_self
    · exact List.mem_cons_of_mem _ (ih ht)

theorem after_mem_states (s : State) (ht : t ∈ ts) : t.after ∈ states s ts :=
  List.mem_cons_of_mem _ (List.mem_map_of_mem ht)

/-- What every change keeps, a run keeps. -/
theorem invariant {P : State → Prop}
    (keep : ∀ (s : State) (e : Event) (t : State) (as : List Action), P s → Change s e t as → P t)
    (h : Run s ts) (hs : P s) : ∀ r ∈ states s ts, P r := by
  induction h with
  | nil s => simpa [states] using hs
  | @cons s e o ts ho _ ih =>
    intro r hr
    rcases List.mem_cons.mp hr with rfl | hr
    · exact hs
    · exact ih (keep _ _ _ _ hs (change_of_step ho)) r hr

/-- What every change keeps or ends lasts throughout a run, or up to the turn that ends it. -/
theorem lasts_or_ends {P Q : State → Prop}
    (keep : ∀ (s : State) (e : Event) (t : State) (as : List Action), P s →
      Change s e t as → P t ∨ Q t)
    (h : Run s ts) (hs : P s) :
    (∀ r ∈ states s ts, P r) ∨
      ∃ (us : List Turn) (t : Turn) (vs : List Turn),
        ts = us ++ t :: vs ∧ (∀ r ∈ states s us, P r) ∧ Q t.after := by
  induction h with
  | nil s => exact .inl (by simpa [states] using hs)
  | @cons s e o ts ho _ ih =>
    rcases keep _ _ _ _ hs (change_of_step ho) with hp | hq
    · rcases ih hp with hall | ⟨us, t, vs, rfl, hus, ht⟩
      · exact .inl (List.forall_mem_cons.mpr ⟨hs, hall⟩)
      · exact .inr ⟨_ :: us, t, vs, rfl, List.forall_mem_cons.mpr ⟨hs, hus⟩, ht⟩
    · exact .inr ⟨[], _, ts, rfl, by simpa [states] using hs, hq⟩

end Run

/-- A dialog has the property when it opens, and whatever is done to it leaves it so. -/
structure Lasting (P : Dialog → Prop) : Prop where
  opening {s : State} {code : KeyCode} {d : Dialog} : Opening s code d → P d
  message (title : String) (m : Message) : P (.newMessage title m)
  edit {f : Dialog → Dialog} {d : Dialog} : Edit f → P d → P (f d)

namespace Lasting

variable {P : Dialog → Prop} {s t : State} {as : List Action}

theorem pageChange {code : KeyCode} (hP : Lasting P) (hs : ∀ d ∈ s.dialogs, P d.dialog)
    (h : PageChange s code t as) : ∀ d ∈ t.dialogs, P d.dialog := by
  cases h with
  | opened ho => exact List.forall_mem_cons.mpr ⟨hP.opening ho, hs⟩
  | moved _ => simpa using hs
  | _ => exact hs

theorem change {e : Event} (hP : Lasting P) (hs : ∀ d ∈ s.dialogs, P d.dialog)
    (h : Change s e t as) : ∀ d ∈ t.dialogs, P d.dialog := by
  have hbelow {d : OpenDialog} {ds : List OpenDialog} (hd : s.dialogs = d :: ds) :
      P d.dialog ∧ ∀ x ∈ ds, P x.dialog := by
    rw [hd] at hs
    exact List.forall_mem_cons.mp hs
  cases h with
  | closed k hd | sent k hd => exact (hbelow hd).2
  | edited _ hd he =>
    obtain ⟨htop, htail⟩ := hbelow hd
    exact List.forall_mem_cons.mpr ⟨hP.edit he htop, htail⟩
  | told k hd _ => exact List.forall_mem_cons.mpr ⟨hP.message _ _, (hbelow hd).2⟩
  | paged k _ hp =>
    exact hP.pageChange (s := { s with statusMessage := none, dirty := true }) hs hp
  | answered id op m => exact List.forall_mem_cons.mpr ⟨hP.message _ _, hs⟩
  | refreshed v => simpa using hs
  | ticked _ => split <;> exact hs
  | _ => exact hs

end Lasting

theorem Run.forall_dialogs {P : Dialog → Prop} {s : State} {ts : List Turn} (h : Run s ts)
    (hP : Lasting P) (hs : ∀ d ∈ s.dialogs, P d.dialog) :
    ∀ r ∈ states s ts, ∀ d ∈ r.dialogs, P d.dialog :=
  h.invariant (fun _ _ _ _ hs hc => hP.change hs hc) hs

def Shows (s : State) : Prop :=
  ∀ now : Clock.Moment, (Clock.render now s.settings.timestampFormat).isSome

theorem shows_of_initial {now : Clock.Moment} {settings : Settings} {s : State}
    (h : State.initial now settings = some s) : Shows s ∧ s.settings = settings := by
  obtain ⟨clock, hc, rfl⟩ := s.initial_eq_some_iff.mp h
  exact ⟨fun later => Clock.isSome_render_of_eq_some hc later, rfl⟩

theorem settings_of_pageChange {s t : State} {code : KeyCode} {as : List Action}
    (h : PageChange s code t as) : t.settings = s.settings := by
  cases h <;> simp

theorem settings_of_change {s t : State} {e : Event} {as : List Action} (h : Change s e t as) :
    t.settings = s.settings := by
  cases h with
  | paged k hd hp => simpa using settings_of_pageChange hp
  | ticked hc => split <;> rfl
  | _ => simp

theorem shows_of_change {s t : State} {e : Event} {as : List Action} (hs : Shows s)
    (h : Change s e t as) : Shows t := by
  intro now
  rw [settings_of_change h]
  exact hs now

theorem Run.shows {s : State} {ts : List Turn} (h : Run s ts) (hs : Shows s) :
    ∀ r ∈ states s ts, Shows r :=
  h.invariant (fun _ _ _ _ hs hc => shows_of_change hs hc) hs

theorem submit_ok (d : Dialog) : ∃ x : Dialog × Submission, d.submit = .ok x := by
  cases d with
  | registerPkg e | updatePkg e =>
    obtain ⟨x, hx⟩ := Dialog.submitDraft_ok e
    exact ⟨_, by rw [Dialog.submit, hx]; rfl⟩
  | _ => exact ⟨_, rfl⟩

theorem submitTop_ok (s : State) : ∃ o : Outcome, submitTop s = .ok o := by
  unfold submitTop
  split
  · exact ⟨_, rfl⟩
  · rename_i d ds hd
    obtain ⟨⟨after, x⟩, hx⟩ := submit_ok d.dialog
    rw [hx]
    cases x with
    | refused => exact ⟨_, rfl⟩
    | tell m => exact ⟨_, rfl⟩
    | send r =>
      obtain ⟨op, hop⟩ := operation_of_send hx
      simp only [hop]
      exact ⟨_, rfl⟩

theorem dialogKey_ok (s : State) (d : Dialog) (k : Key) :
    ∃ o : Outcome, dialogKey s d k = .ok o := by
  have hs := submitTop_ok s
  cases d with
  | selfIssueCash f | feeAgreement f =>
    simp only [dialogKey, formKey]
    split
    · exact hs
    all_goals exact ⟨_, rfl⟩
  | registerPkg e | updatePkg e =>
    simp only [dialogKey, editorKey]
    split
    · exact hs
    · exact ⟨_, rfl⟩
  | buyPkg p | deletePkg r =>
    simp only [dialogKey, confirmKey]
    split
    · exact hs
    · exact hs
    · exact hs
    all_goals exact ⟨_, rfl⟩
  | details name text v | message title m v => exact ⟨_, rfl⟩

theorem key_ok (s : State) (k : Key) : ∃ o : Outcome, key s k = .ok o := by
  unfold key
  split
  · exact ⟨_, rfl⟩
  split
  · exact ⟨_, rfl⟩
  · split
    · exact ⟨_, rfl⟩
    · exact dialogKey_ok _ _ _

theorem input_ok (s : State) (i : Input) : ∃ o : Outcome, step s (.input i) = .ok o := by
  cases i with
  | key k =>
    simp only [step, input]
    split
    · exact ⟨_, rfl⟩
    · exact key_ok _ k
  | _ => exact ⟨_, rfl⟩

/-- Only a clock that cannot be shown is in the way of an event. -/
theorem step_ok_or (s : State) (e : Event) :
    (∃ o : Outcome, step s e = .ok o) ∨
      ∃ now : Clock.Moment, e = .tick now ∧ Clock.render now s.settings.timestampFormat = none := by
  cases e with
  | input i => exact .inl (input_ok s i)
  | tick now =>
    cases hc : Clock.render now s.settings.timestampFormat with
    | none => exact .inr ⟨now, rfl, hc⟩
    | some clock =>
      left
      simp only [step, tick, hc]
      exact ⟨_, rfl⟩
  | _ => exact .inl ⟨_, rfl⟩

theorem step_ok {s : State} (h : Shows s) (e : Event) : ∃ o : Outcome, step s e = .ok o := by
  rcases step_ok_or s e with hok | ⟨now, -, hc⟩
  · exact hok
  · have hshow := h now
    rw [hc] at hshow
    cases hshow

/-- Whatever the events, each of them is handled. -/
theorem run_ok {s : State} (h : Shows s) (es : List Event) :
    ∃ ts : List Turn, run s es = .ok ts ∧ ts.map Turn.event = es := by
  induction es generalizing s with
  | nil => exact ⟨[], rfl, rfl⟩
  | cons e es ih =>
    obtain ⟨o, ho⟩ := step_ok h e
    obtain ⟨ts, hts, rfl⟩ := ih (shows_of_change h (change_of_step ho))
    refine ⟨⟨s, e, o⟩ :: ts, ?_, rfl⟩
    simp only [run, ho, hts, bind, Except.bind, pure, Except.pure]

end PackageMarket.Session
