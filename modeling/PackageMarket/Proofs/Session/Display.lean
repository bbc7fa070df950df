import PackageMarket.Proofs.Screen.Dialog
import PackageMarket.Proofs.Session.Run
import PackageMarket.Screen.Draw

set_option autoImplicit false

namespace PackageMarket

open Market Screen

namespace Session

variable {s t : State} {as : List Action}

theorem dirty_of_pageChange {code : KeyCode} (h : PageChange s code t as) (hs : s.dirty = true) :
    t.dirty = true := by
  cases h with
  | moved hm =>
    unfold State.moveCursor
    split <;> exact hs
  | turned _ | opened _ => rfl
  | _ => exact hs

/-- An event marks the state as changed or leaves it, and then it asks for nothing. -/
theorem dirty_or_unchanged {e : Event} (h : Change s e t as) :
    t.dirty = true ∨ t = s ∧ as = [] := by
  cases h with
  | ignored i => exact .inr ⟨rfl, rfl⟩
  | refreshFailed target error => exact .inr ⟨rfl, rfl⟩
  | paged k _ hp => exact .inl (dirty_of_pageChange hp rfl)
  | ticked _ =>
    split
    · exact .inr ⟨rfl, rfl⟩
    · exact .inl rfl
  | _ => exact .inl rfl

theorem unchanged_of_not_dirty {e : Event} (h : Change s e t as) (ht : t.dirty = false) :
    t = s ∧ as = [] := by
  rcases dirty_or_unchanged h with hd | hsame
  · rw [ht] at hd
    cases hd
  · exact hsame

theorem dirty_of_change {e : Event} (h : Change s e t as) (hs : s.dirty = true) :
    t.dirty = true := by
  rcases dirty_or_unchanged h with hd | ⟨rfl, -⟩
  · exact hd
  · exact hs

end Session

namespace Display

def Current (d : Display) : Prop := d.frame = d.state.draw d.screen

theorem current_start (s : State) (screen : Area) : (start s screen).Current :=
  (s.draw_measured screen).symm

theorem Current.after {d : Display} (h : d.Current) {e : Event} {t : State} {as : List Action}
    (hc : Session.Change d.state e t as) (screen : Area) : (d.after t screen).Current := by
  unfold Display.after
  split
  · exact (t.draw_measured screen).symm
  · -- What is not drawn anew is the state that has been drawn.
    rename_i ht
    obtain ⟨rfl, -⟩ := Session.unchanged_of_not_dirty hc (by simpa using ht)
    exact h

theorem settings_after (d : Display) (t : State) (screen : Area) :
    (d.after t screen).state.settings = t.settings := by
  unfold Display.after
  split <;> rfl

theorem Current.watch {d : Display} (h : d.Current) (es : List (Event × Area)) :
    (∃ ds : List Display, d.watch es = .ok ds ∧ ∀ x ∈ ds, x.Current) ∨
      ∃ now : Clock.Moment, .tick now ∈ es.map Prod.fst ∧
        Clock.render now d.state.settings.timestampFormat = none := by
  induction es generalizing d with
  | nil => exact .inl ⟨[d], rfl, List.forall_mem_singleton.mpr h⟩
  | cons x es ih =>
    obtain ⟨e, screen⟩ := x
    rcases Session.step_ok_or d.state e with ⟨o, ho⟩ | ⟨now, rfl, hnow⟩
    · have hc := Session.change_of_step ho
      by_cases hq : o.actions.any Action.isQuit
      · refine .inl ⟨[d], ?_, List.forall_mem_singleton.mpr h⟩
        simp only [Display.watch, ho, hq, bind, Except.bind, pure, Except.pure, if_true]
      rcases ih (h.after hc screen) with ⟨ds, hds, hall⟩ | ⟨now, hmem, hnow⟩
      · refine .inl ⟨d :: ds, ?_, List.forall_mem_cons.mpr ⟨h, hall⟩⟩
        simp only [Display.watch, ho, hq, hds, bind, Except.bind, pure, Except.pure]
        rfl
      · rw [settings_after, Session.settings_of_change hc] at hnow
        exact .inr ⟨now, List.mem_cons_of_mem _ hmem, hnow⟩
    · exact .inr ⟨now, List.mem_cons_self, hnow⟩

end Display

namespace Session

/-- Whatever the state and the event: a state that is not marked as changed is the one before, and
nothing is asked for; and the mark is never taken away. So a terminal that is drawn on only when
there is the mark shows at any time what there is. -/
theorem no_change_goes_undrawn (s : State) :
    (∀ e : Event,
      (∃ o : Outcome,
        step s e = .ok o ∧
        (o.state.dirty = false → o.state = s ∧ o.actions = []) ∧
        (s.dirty = true → o.state.dirty = true)) ∨
      ∃ now : Clock.Moment, e = .tick now ∧ Clock.render now s.settings.timestampFormat = none) ∧
    ∀ (screen : Area) (es : List (Event × Area)),
      (∃ ds : List Display,
        (Display.start s screen).watch es = .ok ds ∧ ∀ d ∈ ds, d.frame = d.state.draw d.screen) ∨
      ∃ now : Clock.Moment, .tick now ∈ es.map Prod.fst ∧
        Clock.render now s.settings.timestampFormat = none := by
  refine ⟨fun e => ?_, fun screen es => (Display.current_start s screen).watch es⟩
  rcases step_ok_or s e with ⟨o, ho⟩ | hclock
  · have hc := change_of_step ho
    exact .inl ⟨o, ho, unchanged_of_not_dirty hc, dirty_of_change hc⟩
  · exact .inr hclock

/-- The mouse is moved over a terminal that shows everything; another one is made
smaller while balances come in. -/
theorem no_change_goes_undrawn_of_idle :
    let fresh := State.fresh .default "00:00:00"
    let drawn : State := { fresh with dirty := false }
    let es : List (Event × Area) :=
      [(.input .resize, ⟨0, 0, 60, 20⟩), (.refreshed (.balances []), ⟨0, 0, 60, 20⟩)]
    (∃ o : Outcome, step drawn (.input .other) = .ok o ∧ o.state = drawn ∧ o.actions = []) ∧
    (∃ o : Outcome, step fresh (.input .other) = .ok o ∧ o.state.dirty = true) ∧
    ∃ ds : List Display,
      (Display.start fresh ⟨0, 0, 80, 24⟩).watch es = .ok ds ∧
        ∀ d ∈ ds, d.frame = d.state.draw d.screen := by
  intro fresh drawn es
  refine ⟨?_, ?_, ?_⟩
  · rcases (no_change_goes_undrawn drawn).1 (.input .other) with ⟨o, ho, hsame, -⟩ | ⟨now, he, -⟩
    · have hdirty : o.state.dirty = false := by
        cases ho
        rfl
      exact ⟨o, ho, hsame hdirty⟩
    · cases he
  · rcases (no_change_goes_undrawn fresh).1 (.input .other) with ⟨o, ho, -, hkept⟩ | ⟨now, he, -⟩
    · exact ⟨o, ho, hkept rfl⟩
    · cases he
  · rcases (no_change_goes_undrawn fresh).2 ⟨0, 0, 80, 24⟩ es with hds | ⟨now, hmem, -⟩
    · exact hds
    · simp [es] at hmem

end Session

end PackageMarket
