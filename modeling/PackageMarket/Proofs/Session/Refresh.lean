import PackageMarket.Proofs.Session.Run
import PackageMarket.Web.Client

set_option autoImplicit false

namespace PackageMarket

open Market

namespace State

variable (s : State)

def view? : Target → Option View
  | .identity => s.identity.map .identity
  | .marketplace => some (.marketplace s.marketplace)
  | .licenses => some (.licenses s.licenses)
  | .balances => some (.balances s.balances)
  | .pkgOffers => some (.pkgOffers s.pkgOffers)
  | .feeAgreement => s.feeAgreement.map .feeAgreement

@[simp] theorem view?_openDialog (d : Dialog) : (s.openDialog d).view? = s.view? := rfl

@[simp] theorem view?_moveCursor (f : Nat → Nat → Nat) : (s.moveCursor f).view? = s.view? := by
  unfold moveCursor
  split <;> rfl

theorem view?_refresh (v : View) (t : Target) :
    (s.refresh v).view? t = if t = v.target then some v else s.view? t := by
  cases v <;> cases t <;> rfl

theorem refreshedAt_refresh (v : View) (t : Target) :
    (s.refresh v).refreshedAt t = if t = v.target then some s.clock else s.refreshedAt t := rfl

theorem refreshedAt_refresh_comm {v w : View} (h : v.target ≠ w.target) :
    ((s.refresh v).refresh w).refreshedAt = ((s.refresh w).refresh v).refreshedAt := by
  funext t
  have hv : (s.refresh v).clock = s.clock := by cases v <;> rfl
  have hw : (s.refresh w).clock = s.clock := by cases w <;> rfl
  simp only [refreshedAt_refresh, hv, hw]
  by_cases htv : t = v.target
  · simp [htv, h]
  · simp [htv]

/-- Two targets have no field in common. -/
theorem refresh_comm {v w : View} (h : v.target ≠ w.target) :
    (s.refresh v).refresh w = (s.refresh w).refresh v := by
  have hat := s.refreshedAt_refresh_comm h
  cases v <;> cases w <;> first | exact absurd rfl h | simpa [refresh, takeView] using hat

end State

namespace Session

variable {s s' : State} {e : Event} {as : List Action}

theorem views_of_pageChange {code : KeyCode} (h : PageChange s code s' as) :
    s'.view? = s.view? ∧ s'.refreshedAt = s.refreshedAt := by
  cases h with
  | opened _ => exact ⟨by simp, by simp⟩
  | moved _ => exact ⟨by simp, by simp⟩
  | _ => exact ⟨rfl, rfl⟩

theorem views_of_change (h : Change s e s' as) (he : ∀ v : View, e ≠ .refreshed v) :
    s'.view? = s.view? ∧ s'.refreshedAt = s.refreshedAt := by
  cases h with
  | paged k hd hp =>
    obtain ⟨hview, hat⟩ := views_of_pageChange hp
    exact ⟨hview, hat⟩
  | refreshed v => exact absurd rfl (he v)
  | ticked hc => split <;> exact ⟨rfl, rfl⟩
  | _ => exact ⟨rfl, rfl⟩

def fetched (t : Target) (clock : String) : Event → Option (View × String)
  | .refreshed v => if t = v.target then some (v, clock) else none
  | _ => none

theorem fetched_eq_none {t : Target} {clock : String} {e : Event}
    (h : ∀ v : View, e = .refreshed v → v.target ≠ t) : fetched t clock e = none := by
  cases e with
  | refreshed v => exact if_neg fun heq => h v rfl heq.symm
  | _ => rfl

def lastFetched (t : Target) (ts : List Turn) : Option (View × String) :=
  (ts.filterMap fun u => fetched t u.before.clock u.event).getLast?

theorem lastFetched_cons (t : Target) (u : Turn) (ts : List Turn) :
    lastFetched t (u :: ts) = (lastFetched t ts).or (fetched t u.before.clock u.event) := by
  rw [lastFetched, lastFetched, List.filterMap_cons]
  cases fetched t u.before.clock u.event with
  | none => rw [Option.or_none]
  | some x =>
    rw [List.getLast?_cons]
    cases (ts.filterMap fun u => fetched t u.before.clock u.event).getLast? <;> rfl

/-- What an event brings for a target stands in place of what was kept of it. -/
theorem kept_of_change (h : Change s e s' as) (t : Target) :
    s'.view? t = ((fetched t s.clock e).map Prod.fst).or (s.view? t) ∧
    s'.refreshedAt t = ((fetched t s.clock e).map Prod.snd).or (s.refreshedAt t) := by
  by_cases he : ∃ v : View, e = .refreshed v
  · obtain ⟨v, rfl⟩ := he
    obtain rfl : s' = s.refresh v := by
      cases h
      rfl
    rw [State.view?_refresh, State.refreshedAt_refresh, fetched]
    split <;> exact ⟨rfl, rfl⟩
  · have he : ∀ v : View, e ≠ .refreshed v := fun v hv => he ⟨v, hv⟩
    obtain ⟨hview, hat⟩ := views_of_change h he
    rw [fetched_eq_none fun v hv => absurd hv (he v), hview, hat]
    exact ⟨rfl, rfl⟩

theorem Run.kept {ts : List Turn} (h : Run s ts) (t : Target) :
    (last s ts).view? t = ((lastFetched t ts).map Prod.fst).or (s.view? t) ∧
    (last s ts).refreshedAt t = ((lastFetched t ts).map Prod.snd).or (s.refreshedAt t) := by
  -- What the rest of the run does not bring is as the first event leaves it.
  induction h with
  | nil s => exact ⟨rfl, rfl⟩
  | @cons s e o ts ho _ ih =>
    obtain ⟨hview, hat⟩ := kept_of_change (change_of_step ho) t
    rw [hview, hat] at ih
    rw [lastFetched_cons, Option.map_or, Option.map_or, Option.or_assoc, Option.or_assoc]
    exact ih

theorem target_of_decode {t : Target} {body : List Char} {v : View}
    (h : View.decode t body = .ok v) : v.target = t := by
  cases t <;>
    · obtain ⟨x, -, rfl⟩ := Except.map_eq_ok_iff.mp h
      rfl

theorem viewEvent_of_unfit {t : Target} {r : Reply}
    (h : ¬(200 ≤ r.status ∧ r.status ≤ 299) ∨
      ∃ f : Json.Fault, View.decode t r.body.toList = .error f) :
    ∃ text : String, Web.viewEvent t (.ok r) = .refreshFailed t text := by
  have hview : ∃ f : Failure, Web.viewOf t r = .error f := by
    unfold Web.viewOf
    rcases h with hs | ⟨f, hf⟩
    · rw [← r.isSuccess_iff] at hs
      exact ⟨.status r, by simp [hs]⟩
    · split
      · exact ⟨_, rfl⟩
      · exact ⟨_, by rw [hf]; rfl⟩
  obtain ⟨f, hf⟩ := hview
  exact ⟨f.text, by simp [Web.viewEvent, Except.bind, hf]⟩

theorem viewEvent_of_decode {t : Target} {r : Reply} {v : View}
    (hs : 200 ≤ r.status ∧ r.status ≤ 299) (hv : View.decode t r.body.toList = .ok v) :
    Web.viewEvent t (.ok r) = .refreshed v := by
  have hview : Web.viewOf t r = .ok v := by
    rw [Web.viewOf, r.isSuccess_iff.mpr hs, hv]
    rfl
  simp [Web.viewEvent, Except.bind, hview]

/-- Two events may come in either order, and it makes no difference. -/
def EitherOrder (s : State) (e f : Event) : Prop :=
  ∃ ts us : List Turn,
    run s [e, f] = .ok ts ∧ run s [f, e] = .ok us ∧ last s ts = last s us ∧
    ts.flatMap Turn.actions = us.flatMap Turn.actions

theorem eitherOrder_refreshed (s : State) {v w : View} (h : v.target ≠ w.target) :
    EitherOrder s (.refreshed v) (.refreshed w) :=
  ⟨_, _, rfl, rfl, s.refresh_comm h, rfl⟩

theorem eitherOrder_response (s : State) (v : View) (id : Nat) (op : Operation) (m : Message) :
    EitherOrder s (.refreshed v) (.response id op m) := by
  refine ⟨_, _, rfl, rfl, ?_, ?_⟩
  · cases v <;> rfl
  · simp [Turn.actions, response]

/-- Whatever the events: what is kept of a target is what was last fetched for it, or what there
was at the start. An answer that holds no view changes nothing, any other one is fetched for its
own target; and what is fetched for one target may change places with what is fetched for
another, or with a response. -/
theorem refreshes_are_isolated {now : Clock.Moment} {settings : Settings} {s : State}
    (h : State.initial now settings = some s) (es : List Event) :
    (∃ ts : List Turn,
      run s es = .ok ts ∧
      (∀ t : Target,
        (last s ts).view? t = ((lastFetched t ts).map Prod.fst).or (s.view? t) ∧
        (last s ts).refreshedAt t = (lastFetched t ts).map Prod.snd) ∧
      ∀ u ∈ ts, ∀ t : Target, (∀ v : View, u.event = .refreshed v → v.target ≠ t) →
        u.after.view? t = u.before.view? t ∧ u.after.refreshedAt t = u.before.refreshedAt t) ∧
    (∀ (t : Target) (r : Reply),
      ((¬(200 ≤ r.status ∧ r.status ≤ 299) ∨
          ∃ f : Json.Fault, View.decode t r.body.toList = .error f) →
        ∀ s' : State, ∃ o : Outcome,
          step s' (Web.viewEvent t (.ok r)) = .ok o ∧ o.state = s' ∧ o.actions = []) ∧
      ∀ v : View, 200 ≤ r.status ∧ r.status ≤ 299 → View.decode t r.body.toList = .ok v →
        Web.viewEvent t (.ok r) = .refreshed v ∧ v.target = t) ∧
    ∀ (s' : State) (v : View),
      (∀ w : View, v.target ≠ w.target → EitherOrder s' (.refreshed v) (.refreshed w)) ∧
      ∀ (id : Nat) (op : Operation) (m : Message),
        EitherOrder s' (.refreshed v) (.response id op m) := by
  obtain ⟨ts, hts, -⟩ := run_ok (shows_of_initial h).1 es
  have hr := run_of_eq_ok hts
  refine ⟨⟨ts, hts, fun t => ?_, fun u hu t hne => ?_⟩,
    fun t r => ⟨fun hunfit s' => ?_, fun v hs hv => ?_⟩, fun s' v =>
      ⟨fun w hne => ?_, fun id op m => ?_⟩⟩
  · obtain ⟨hview, hat⟩ := hr.kept t
    have hnone : s.refreshedAt t = none := by
      obtain ⟨clock, -, rfl⟩ := s.initial_eq_some_iff.mp h
      rfl
    rw [hnone, Option.or_none] at hat
    exact ⟨hview, hat⟩
  · obtain ⟨hview, hat⟩ := kept_of_change (hr.change hu) t
    rw [fetched_eq_none hne] at hview hat
    exact ⟨hview, hat⟩
  · obtain ⟨text, htext⟩ := viewEvent_of_unfit hunfit
    rw [htext]
    exact ⟨_, rfl, rfl, rfl⟩
  · exact ⟨viewEvent_of_decode hs hv, target_of_decode hv⟩
  · exact eitherOrder_refreshed s' hne
  · exact eitherOrder_response s' v id op m

/-- The identity is fetched twice, at two times, and the balances are not. -/
theorem refreshes_are_isolated_of_two :
    let s := State.fresh .default "00:00:00"
    let es : List Event :=
      [.refreshed (.identity ⟨"O=Buyer"⟩), .tick fun _ => ['1', '2'],
        .refreshed (.marketplace [.blank]), .refreshed (.identity ⟨"O=RepositoryNode"⟩),
        .refreshFailed .balances "HTTP 500: "]
    State.initial (fun _ => ['0', '0']) .default = some s ∧
    ∃ ts : List Turn,
      run s es = .ok ts ∧
      (last s ts).view? .identity = some (.identity ⟨"O=RepositoryNode"⟩) ∧
      (last s ts).refreshedAt .identity = some "12:12:12" ∧
      (last s ts).refreshedAt .balances = none := by
  intro s es
  have h := State.initial_default
  have hclock : Clock.render (fun _ => ['1', '2']) s.settings.timestampFormat =
      some "12:12:12" := by
    decide +kernel
  have hidentity : (run s es).map (lastFetched .identity) =
      .ok (some (.identity ⟨"O=RepositoryNode"⟩, "12:12:12")) := by
    simp only [es, run, step, tick, bind, Except.bind, State.settings_refresh, hclock]
    rfl
  have hbalances : (run s es).map (lastFetched .balances) = .ok none := by
    simp only [es, run, step, tick, bind, Except.bind, State.settings_refresh, hclock]
    rfl
  obtain ⟨⟨ts, hts, hkept, -⟩, -⟩ := refreshes_are_isolated h es
  rw [hts] at hidentity hbalances
  obtain ⟨hview, hat⟩ := hkept .identity
  rw [Except.ok.inj hidentity] at hview hat
  exact ⟨h, ts, hts, hview, hat, (hkept .balances).2.trans (congrArg _ (Except.ok.inj hbalances))⟩

end Session

end PackageMarket
