import Mathlib.Data.Finset.Basic
import Mathlib.Data.Finset.Card
import PackageMarket.Proofs.Session.Ids
import PackageMarket.Web.Client

set_option autoImplicit false

namespace PackageMarket.Session

open Market

def ById (ps : List (Nat × Operation)) : Prop := ps.Pairwise fun p q => p.1 < q.1

theorem mem_insertPending_iff {id : Nat} {op : Operation} {p : Nat × Operation}
    {ps : List (Nat × Operation)} (h : ∀ q ∈ ps, q.1 ≠ id) :
    p ∈ State.insertPending id op ps ↔ p = (id, op) ∨ p ∈ ps := by
  refine ⟨mem_insertPending, ?_⟩
  induction ps with
  | nil => simp [State.insertPending]
  | cons q ps ih =>
    have hne : id ≠ q.1 := fun he => h q List.mem_cons_self he.symm
    have ih := ih fun r hr => h r (List.mem_cons_of_mem _ hr)
    unfold State.insertPending
    split
    · exact fun hp => List.mem_cons.mpr hp
    · rw [List.mem_cons, List.mem_cons]
      rintro (rfl | rfl | hp)
      · exact .inr (ih (.inl rfl))
      · exact .inl rfl
      · exact .inr (ih (.inr hp))

theorem ById.insertPending {ps : List (Nat × Operation)} (h : ById ps) (id : Nat) (op : Operation) :
    ById (State.insertPending id op ps) := by
  induction ps with
  | nil => exact List.pairwise_singleton _ _
  | cons q ps ih =>
    obtain ⟨hq, hps⟩ := List.pairwise_cons.mp h
    unfold State.insertPending
    split
    · rename_i hlt
      refine List.pairwise_cons.mpr ⟨fun p hp => ?_, h⟩
      rcases List.mem_cons.mp hp with rfl | hp
      · exact hlt
      · exact Nat.lt_trans hlt (hq p hp)
    split
    · rename_i heq
      exact List.pairwise_cons.mpr ⟨fun p hp => heq ▸ hq p hp, hps⟩
    · refine List.pairwise_cons.mpr ⟨fun p hp => ?_, ih hps⟩
      rcases mem_insertPending hp with rfl | hp
      · dsimp only
        omega
      · exact hq p hp

theorem ById.removePending {ps : List (Nat × Operation)} (h : ById ps) (id : Nat) :
    ById (State.removePending id ps) := h.filter _

theorem ById.nodup_ids {ps : List (Nat × Operation)} (h : ById ps) : (ps.map Prod.fst).Nodup := by
  rw [List.Nodup, List.pairwise_map]
  exact h.imp fun hlt => Nat.ne_of_lt hlt

theorem ById.lookup_eq_some_iff {ps : List (Nat × Operation)} (h : ById ps) {id : Nat}
    {op : Operation} : ps.lookup id = some op ↔ (id, op) ∈ ps := by
  induction ps with
  | nil => simp
  | cons q ps ih =>
    obtain ⟨hq, hps⟩ := List.pairwise_cons.mp h
    rw [List.lookup_cons, List.mem_cons]
    by_cases hid : id = q.1
    · have hnot : (id, op) ∉ ps := by
        intro hp
        have := hq _ hp
        omega
      subst hid
      simp [hnot, Prod.ext_iff, eq_comm]
    · have hne : (id, op) ≠ q := fun heq => hid (congrArg Prod.fst heq)
      have hbeq : (id == q.1) = false := by simpa using hid
      simp [hbeq, hne, ih hps]

/-- A session, and the requests it has sent that wait for an answer. -/
structure Runtime where
  session : State
  waiting : Finset (Nat × Operation)

def sentBy (as : List Action) : Finset (Nat × Operation) :=
  (as.filterMap fun
    | .submit id op _ => some (id, op)
    | _ => none).toFinset

def answered? : Event → Option (Nat × Operation)
  | .response id op _ => some (id, op)
  | _ => none

/-- The events that may come next, with what waits behind them. An answer needs a request, and holds
what came of it: a reply of any status, or a failure. -/
inductive Arrival (w : Runtime) : Event → Finset (Nat × Operation) → Prop where
  | unasked {e : Event} : answered? e = none → Arrival w e w.waiting
  | answer {id : Nat} {op : Operation} : (id, op) ∈ w.waiting → ∀ outcome : Except Failure Reply,
      Arrival w (.response id op (.ofOutcome outcome)) (w.waiting.erase (id, op))

/-- What a session comes to, with any events in any order. -/
inductive Reached (s : State) : Runtime → Prop where
  | start : Reached s ⟨s, ∅⟩
  | next {w : Runtime} {e : Event} {rest : Finset (Nat × Operation)} {o : Outcome} :
      Reached s w → Arrival w e rest → step w.session e = .ok o →
      Reached s ⟨o.state, rest ∪ sentBy o.actions⟩

structure Tracked (w : Runtime) : Prop where
  inOrder : InOrder w.session
  byId : ById w.session.pending
  mem_pending : ∀ p : Nat × Operation, p ∈ w.session.pending ↔ p ∈ w.waiting

theorem sentBy_of_pageChange {s t : State} {code : KeyCode} {as : List Action}
    (h : PageChange s code t as) : sentBy as = ∅ := by
  rcases actions_of_pageChange h with rfl | rfl | rfl <;> rfl

/-- Without an answer, requests under way are as before, or there is a new one. -/
theorem pending_of_change {s t : State} {e : Event} {as : List Action} (h : Change s e t as)
    (he : answered? e = none) :
    (t.pending = s.pending ∧ sentBy as = ∅) ∨
      ∃ (id : Nat) (op : Operation), id ∈ s.openIds ∧
        t.pending = State.insertPending id op s.pending ∧ sentBy as = {(id, op)} := by
  cases h with
  | @sent k d ds after r op hd hs ho =>
    exact .inr ⟨d.id, op, by simp [openIds_of_dialogs hd], rfl, rfl⟩
  | paged k hd hp => exact .inl ⟨by simpa using pending_of_pageChange hp, sentBy_of_pageChange hp⟩
  | answered id op m => simp [answered?] at he
  | refreshed v => exact .inl ⟨by simp, rfl⟩
  | ticked hc => exact .inl ⟨by split <;> rfl, rfl⟩
  | _ => exact .inl ⟨rfl, rfl⟩

theorem tracked_of_unasked {w : Runtime} {e : Event} {o : Outcome} (hw : Tracked w)
    (he : answered? e = none) (ho : step w.session e = .ok o) :
    Tracked ⟨o.state, w.waiting ∪ sentBy o.actions⟩ := by
  have hc := change_of_step ho
  refine ⟨inOrder_of_change hw.inOrder hc, ?_, fun p => ?_⟩
  · rcases pending_of_change hc he with ⟨hp, -⟩ | ⟨id, op, -, hp, -⟩
    · exact hp ▸ hw.byId
    · exact hp ▸ hw.byId.insertPending id op
  · rcases pending_of_change hc he with ⟨hp, hs⟩ | ⟨id, op, hid, hp, hs⟩
    · rw [hp, hs, Finset.union_empty]
      exact hw.mem_pending p
    · -- The id is open, so no request under way has it.
      have hnew : ∀ q ∈ w.session.pending, q.1 ≠ id := by
        rintro q hq rfl
        exact (hw.inOrder.pending_retired q hq).2 hid
      rw [hp, hs, mem_insertPending_iff hnew, hw.mem_pending, Finset.mem_union,
        Finset.mem_singleton, or_comm]

theorem tracked_of_answer {w : Runtime} {id : Nat} {op : Operation} (hw : Tracked w)
    (hid : (id, op) ∈ w.waiting) (m : Message) {o : Outcome}
    (ho : step w.session (.response id op m) = .ok o) :
    Tracked ⟨o.state, w.waiting.erase (id, op) ∪ sentBy o.actions⟩ := by
  have hord := inOrder_of_change hw.inOrder (change_of_step ho)
  cases ho
  have hs : sentBy (if m.isSuccess then [.refresh op.affected] else []) = ∅ := by
    split <;> rfl
  refine ⟨hord, hw.byId.removePending id, fun p => ?_⟩
  have hmem := (hw.mem_pending (id, op)).mpr hid
  rw [response, hs, Finset.union_empty, Finset.mem_erase, ← hw.mem_pending, and_comm]
  simp only [State.pending_openDialog, State.removePending, List.mem_filter, bne_iff_ne]
  refine and_congr_right fun hp => not_congr ⟨fun heq => ?_, fun heq => heq ▸ rfl⟩
  exact List.inj_on_of_nodup_map hw.byId.nodup_ids hp hmem heq

theorem tracked_of_reached {now : Clock.Moment} {settings : Settings} {s : State}
    (h : State.initial now settings = some s) {w : Runtime} (hw : Reached s w) : Tracked w := by
  induction hw with
  | start =>
    have hs := inOrder_of_initial h
    obtain ⟨clock, -, rfl⟩ := s.initial_eq_some_iff.mp h
    exact ⟨hs, .nil, by simp [State.fresh]⟩
  | next _ ha ho ih =>
    cases ha with
    | unasked he => exact tracked_of_unasked ih he ho
    | answer hid outcome => exact tracked_of_answer ih hid _ ho

theorem settings_of_reached {s : State} {w : Runtime} (hw : Reached s w) :
    w.session.settings = s.settings := by
  induction hw with
  | start => rfl
  | next _ _ ho ih => exact (settings_of_change (change_of_step ho)).trans ih

theorem Tracked.card_waiting {w : Runtime} (hw : Tracked w) :
    w.waiting.card = w.session.pending.length := by
  have hnodup : w.session.pending.Nodup := hw.byId.nodup_ids.of_map
  have heq : w.session.pending.toFinset = w.waiting := by
    ext p
    rw [List.mem_toFinset, hw.mem_pending]
  rw [← heq, List.toFinset_card_of_nodup hnodup]

theorem who_eq (s : State) :
    s.who = ((s.identity.map Identity.me).filter (· ≠ "")).getD "(unknown identity)" := by
  unfold State.who
  cases s.identity with
  | none => rfl
  | some i =>
    by_cases hi : i.me = ""
    · simp [hi, Option.filter]
    · simp [hi, Option.filter]

/-- Who and where one is, and how much waits, as long as there is nothing more urgent to say. -/
theorem Tracked.statusLine_eq {w : Runtime} (hw : Tracked w) (hm : w.session.statusMessage = none) :
    w.session.statusLine =
      ((w.session.identity.map Identity.me).filter (· ≠ "")).getD "(unknown identity)" ++ " | " ++
        w.session.settings.baseUrl ++
        if 0 < w.waiting.card then " | " ++ toString w.waiting.card ++ " pending" else "" := by
  rw [hw.card_waiting, State.statusLine, hm, ← who_eq]
  simp only [Decimal.ofList_digits]
  congr 1
  cases w.session.pending with
  | nil => rfl
  | cons p ps => simp

/-- Whatever comes in whatever order: the requests under way are those that wait for an answer, the
status line counts them, no event is refused, and an answer is shown over everything else and makes
stale what its operation affects if it is a success. -/
theorem pending_is_what_waits {now : Clock.Moment} {settings : Settings} {s : State}
    (h : State.initial now settings = some s) {w : Runtime} (hw : Reached s w) :
    (∀ (id : Nat) (op : Operation),
      w.session.pending.lookup id = some op ↔ (id, op) ∈ w.waiting) ∧
    (w.session.statusMessage = none →
      w.session.statusLine =
        ((w.session.identity.map Identity.me).filter (· ≠ "")).getD "(unknown identity)" ++ " | " ++
          settings.baseUrl ++
          if 0 < w.waiting.card then " | " ++ toString w.waiting.card ++ " pending" else "") ∧
    (∀ (e : Event) (rest : Finset (Nat × Operation)), Arrival w e rest →
      ∃ o : Outcome, step w.session e = .ok o) ∧
    ∀ (id : Nat) (op : Operation), (id, op) ∈ w.waiting → ∀ outcome : Except Failure Reply,
      ∃ o : Outcome,
        step w.session (.response id op (.ofOutcome outcome)) = .ok o ∧
        o.state.dialogs =
          ⟨w.session.nextId, .message op.title (.ofOutcome outcome) .top⟩ :: w.session.dialogs ∧
        o.actions =
          match outcome with
          | .ok r => if 200 ≤ r.status ∧ r.status ≤ 299 then [.refresh op.affected] else []
          | .error _ => [] := by
  have ht := tracked_of_reached h hw
  obtain ⟨hshows, hset⟩ := shows_of_initial h
  have hsettings := settings_of_reached hw
  refine ⟨fun id op => ?_, fun hm => ?_, fun e rest _ => ?_, fun id op _ outcome => ?_⟩
  · rw [ht.byId.lookup_eq_some_iff, ht.mem_pending]
  · rw [ht.statusLine_eq hm, hsettings, hset]
  · refine step_ok (fun later => ?_) e
    rw [hsettings]
    exact hshows later
  · refine ⟨_, rfl, rfl, ?_⟩
    cases outcome with
    | error f => rfl
    | ok r => simp only [response, Message.ofOutcome, Message.isSuccess, r.isSuccess_iff]

/-- Two purchases wait for their answers, and that of the second comes first. -/
theorem pending_is_what_waits_of_two :
    let s := State.fresh .default "00:00:00"
    State.initial (fun _ => ['0', '0']) .default = some s ∧
    ∃ w : Runtime,
      Reached s w ∧ w.waiting = {(0, .buyPkg), (1, .buyPkg)} ∧
      w.session.pending.lookup 1 = some .buyPkg ∧
      w.session.statusLine = "(unknown identity) | http://localhost:10050/ | 2 pending" ∧
      ∃ o : Outcome,
        step w.session (.response 1 .buyPkg (.ofOutcome (.ok ⟨204, ""⟩))) = .ok o ∧
        o.actions = [.refresh [.marketplace, .licenses, .balances]] := by
  intro s
  have h := State.initial_default
  let press (c : Char) : Event := .input (.key (.press (.char c)))
  obtain ⟨w, hw, hwaiting, hm, hidentity⟩ :
      ∃ w : Runtime,
        Reached s w ∧ w.waiting = {(0, .buyPkg), (1, .buyPkg)} ∧
        w.session.statusMessage = none ∧ w.session.identity = none := by
    have listed := (Reached.start (s := s)).next (e := .refreshed (.marketplace [.blank]))
        (.unasked rfl) rfl
    have asked := listed.next (e := press 'b') (.unasked rfl) rfl
    have bought := asked.next (e := press 'y') (.unasked rfl) rfl
    have askedAgain := bought.next (e := press 'b') (.unasked rfl) rfl
    have boughtAgain := askedAgain.next (e := press 'y') (.unasked rfl) rfl
    exact ⟨_, boughtAgain, rfl, rfl, rfl⟩
  obtain ⟨hpending, hline, -, hanswer⟩ := pending_is_what_waits h hw
  have hone : (1, Operation.buyPkg) ∈ w.waiting := by simp [hwaiting]
  obtain ⟨o, ho, -, hactions⟩ := hanswer 1 .buyPkg hone (.ok ⟨204, ""⟩)
  refine ⟨h, w, hw, hwaiting, (hpending 1 .buyPkg).mpr hone, ?_, o, ho, hactions⟩
  rw [hline hm, hwaiting, hidentity]
  rfl

end PackageMarket.Session
