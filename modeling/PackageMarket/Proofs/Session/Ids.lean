import PackageMarket.Proofs.Session.Stack

set_option autoImplicit false

/-!
Ids of dialogs. They grow from the bottom of the stack to the top, and one that is no longer open
never comes back; so a dialog, which is gone once it has sent its request, sends one at most.
-/

namespace PackageMarket.Session

open Market

/-- An id given to a dialog that is no longer open. -/
def Retired (s : State) (id : Nat) : Prop := id < s.nextId ∧ id ∉ s.openIds

structure InOrder (s : State) : Prop where
  ascending : s.openIds.Pairwise (· < ·)
  below_next : ∀ id ∈ s.openIds, id < s.nextId
  pending_retired : ∀ p ∈ s.pending, Retired s p.1

inductive IdChange (s t : State) : Prop where
  | kept : t.openIds = s.openIds → t.nextId = s.nextId → IdChange s t
  | closed {ids : List Nat} {id : Nat} : s.openIds = ids ++ [id] → t.openIds = ids →
      t.nextId = s.nextId → IdChange s t
  | replaced {ids : List Nat} {id : Nat} : s.openIds = ids ++ [id] →
      t.openIds = ids ++ [s.nextId] → t.nextId = s.nextId + 1 → IdChange s t
  | opened : t.openIds = s.openIds ++ [s.nextId] → t.nextId = s.nextId + 1 → IdChange s t

theorem openIds_of_dialogs {s : State} {d : OpenDialog} {ds : List OpenDialog}
    (h : s.dialogs = d :: ds) : s.openIds = (ds.map OpenDialog.id).reverse ++ [d.id] := by
  simp [State.openIds, h]

theorem idChange_of_stackChange {s t : State} {e : Event} (h : StackChange s e t) :
    IdChange s t := by
  cases h with
  | kept ht hn => exact .kept (by rw [State.openIds, State.openIds, ht]) hn
  | edited _ _ hs _ ht hn => exact .kept (by simp [State.openIds, hs, ht]) hn
  | closed hs ht hn => exact .closed (openIds_of_dialogs hs) (by rw [State.openIds, ht]) hn
  | replaced hs _ _ _ ht hn =>
    exact .replaced (openIds_of_dialogs hs) (by simp [State.openIds, ht]) hn
  | opened _ ht hn => exact .opened (by simp [State.openIds, ht]) hn

theorem idChange_of_change {s t : State} {e : Event} {as : List Action} (h : Change s e t as) :
    IdChange s t :=
  idChange_of_stackChange (stackChange_of_change h)

theorem IdChange.nextId_le {s t : State} (h : IdChange s t) : s.nextId ≤ t.nextId := by
  cases h <;> omega

theorem not_mem_append_next {ids : List Nat} {id next : Nat} (h : id ∉ ids) (hlt : id < next) :
    id ∉ ids ++ [next] := by
  rw [List.mem_append, List.mem_singleton, not_or]
  exact ⟨h, Nat.ne_of_lt hlt⟩

theorem IdChange.retired {s t : State} {id : Nat} (h : IdChange s t) (hr : Retired s id) :
    Retired t id := by
  obtain ⟨hlt, hopen⟩ := hr
  refine ⟨Nat.lt_of_lt_of_le hlt h.nextId_le, ?_⟩
  cases h with
  | kept ho _ => rwa [ho]
  | closed hs ho _ =>
    rw [hs, List.mem_append, not_or] at hopen
    rw [ho]
    exact hopen.1
  | replaced hs ho _ =>
    rw [hs, List.mem_append, not_or] at hopen
    rw [ho]
    exact not_mem_append_next hopen.1 hlt
  | opened ho _ =>
    rw [ho]
    exact not_mem_append_next hopen hlt

def OrderedBelow (ids : List Nat) (next : Nat) : Prop :=
  ids.Pairwise (· < ·) ∧ ∀ id ∈ ids, id < next

theorem OrderedBelow.of_append {ids : List Nat} {id next : Nat}
    (h : OrderedBelow (ids ++ [id]) next) :
    OrderedBelow ids next :=
  ⟨(List.pairwise_append.mp h.1).1, fun _ hid => h.2 _ (List.mem_append_left _ hid)⟩

theorem OrderedBelow.append {ids : List Nat} {next : Nat} (h : OrderedBelow ids next) :
    OrderedBelow (ids ++ [next]) (next + 1) := by
  obtain ⟨hasc, hbelow⟩ := h
  constructor
  · rw [List.pairwise_append]
    refine ⟨hasc, List.pairwise_singleton _ _, fun a ha b hb => ?_⟩
    rw [List.mem_singleton] at hb
    exact hb ▸ hbelow a ha
  · intro id hid
    rcases List.mem_append.mp hid with hid | hid
    · exact Nat.lt_succ_of_lt (hbelow id hid)
    · rw [List.mem_singleton] at hid
      omega

theorem IdChange.orderedBelow {s t : State} (h : IdChange s t)
    (hs : OrderedBelow s.openIds s.nextId) :
    OrderedBelow t.openIds t.nextId := by
  cases h with
  | kept ho hn => rwa [ho, hn]
  | closed ho ho' hn =>
    rw [ho] at hs
    rw [ho', hn]
    exact hs.of_append
  | replaced ho ho' hn =>
    rw [ho] at hs
    rw [ho', hn]
    exact hs.of_append.append
  | opened ho' hn =>
    rw [ho', hn]
    exact hs.append

theorem mem_insertPending {id : Nat} {op : Operation} {p : Nat × Operation}
    {ps : List (Nat × Operation)} (h : p ∈ State.insertPending id op ps) :
    p = (id, op) ∨ p ∈ ps := by
  induction ps with
  | nil => exact .inl (by simpa [State.insertPending] using h)
  | cons q ps ih =>
    unfold State.insertPending at h
    split at h
    · rcases List.mem_cons.mp h with h | h
      · exact .inl h
      · exact .inr h
    split at h
    · rcases List.mem_cons.mp h with h | h
      · exact .inl h
      · exact .inr (List.mem_cons_of_mem _ h)
    · rcases List.mem_cons.mp h with rfl | h
      · exact .inr List.mem_cons_self
      · exact (ih h).imp_right (List.mem_cons_of_mem _)

theorem pending_of_pageChange {s t : State} {code : KeyCode} {as : List Action}
    (h : PageChange s code t as) : t.pending = s.pending := by
  cases h <;> simp

/-- A request under way was under way before, or the dialog on top has just sent it. -/
theorem mem_pending_of_change {s t : State} {e : Event} {as : List Action} (h : Change s e t as)
    {p : Nat × Operation} (hp : p ∈ t.pending) :
    p ∈ s.pending ∨ ∃ r : Request, .submit p.1 p.2 r ∈ as := by
  cases h with
  | sent k hd hs ho =>
    rcases mem_insertPending hp with rfl | hp
    · exact .inr ⟨_, List.mem_singleton.mpr rfl⟩
    · exact .inl hp
  | paged k hd hc =>
    rw [pending_of_pageChange hc] at hp
    exact .inl hp
  | answered id op m =>
    exact .inl (List.mem_filter.mp hp).1
  | refreshed v => exact .inl (by simpa using hp)
  | ticked hc => split at hp <;> exact .inl hp
  | _ => exact .inl hp

/-- A dialog that sends a request is on top before, and its id is retired from then on. -/
theorem retired_of_sent {s t : State} {e : Event} {as : List Action} (hs : InOrder s)
    (h : Change s e t as) {id : Nat} {op : Operation} {r : Request} (ha : .submit id op r ∈ as) :
    (∃ d : OpenDialog, s.dialogs.head? = some d ∧ d.id = id) ∧ Retired t id := by
  obtain ⟨d, ds, after, hd, rfl, -, -, hds, hn, -⟩ := sent_of_change h ha
  have ho := openIds_of_dialogs hd
  have hasc := hs.ascending
  have hlt := hs.below_next d.id (by simp [ho])
  rw [ho, List.pairwise_append] at hasc
  refine ⟨⟨d, by rw [hd]; rfl, rfl⟩, by omega, fun hmem => ?_⟩
  rw [State.openIds, hds] at hmem
  have := hasc.2.2 d.id hmem d.id List.mem_cons_self
  omega

theorem inOrder_of_initial {now : Clock.Moment} {settings : Settings} {s : State}
    (h : State.initial now settings = some s) : InOrder s := by
  obtain ⟨clock, -, rfl⟩ := s.initial_eq_some_iff.mp h
  exact ⟨.nil, by simp [State.openIds, State.fresh], by simp [State.fresh]⟩

theorem inOrder_of_change {s t : State} {e : Event} {as : List Action} (hs : InOrder s)
    (h : Change s e t as) : InOrder t := by
  have hid := idChange_of_change h
  obtain ⟨hasc, hbelow⟩ := hid.orderedBelow ⟨hs.ascending, hs.below_next⟩
  refine ⟨hasc, hbelow, fun p hp => ?_⟩
  rcases mem_pending_of_change h hp with hp | ⟨r, hr⟩
  · exact hid.retired (hs.pending_retired p hp)
  · exact (retired_of_sent hs h hr).2

/-- The ids of the dialogs that send a request in a run, as often as they do. -/
def submitIds (ts : List Turn) : List Nat :=
  ts.flatMap fun t => t.actions.filterMap fun
    | .submit id _ _ => some id
    | _ => none

theorem mem_submitIds {ts : List Turn} {id : Nat} :
    id ∈ submitIds ts ↔
      ∃ t ∈ ts, ∃ (op : Operation) (r : Request), .submit id op r ∈ t.actions := by
  simp only [submitIds, List.mem_flatMap, List.mem_filterMap]
  refine exists_congr fun t => and_congr_right fun _ => ⟨?_, ?_⟩
  · rintro ⟨a, ha, h⟩
    cases a <;> simp at h
    subst h
    exact ⟨_, _, ha⟩
  · rintro ⟨op, r, ha⟩
    exact ⟨_, ha, rfl⟩

theorem Run.retired {s : State} {ts : List Turn} {id : Nat} (h : Run s ts) (hr : Retired s id) :
    ∀ r ∈ states s ts, Retired r id :=
  h.invariant (fun _ _ _ _ hr hc => (idChange_of_change hc).retired hr) hr

theorem Run.inOrder {s : State} {ts : List Turn} (h : Run s ts) (hs : InOrder s) :
    ∀ r ∈ states s ts, InOrder r :=
  h.invariant (fun _ _ _ _ hs hc => inOrder_of_change hs hc) hs

theorem Run.not_mem_submitIds {s : State} {ts : List Turn} {id : Nat} (h : Run s ts)
    (hs : InOrder s) (hr : Retired s id) : id ∉ submitIds ts := by
  intro hid
  obtain ⟨t, ht, op, r, ha⟩ := mem_submitIds.mp hid
  have hb := h.before_mem_states ht
  obtain ⟨⟨d, hd, rfl⟩, -⟩ := retired_of_sent (h.inOrder hs _ hb) (h.change ht) ha
  obtain ⟨ds, hds⟩ := List.head?_eq_some_iff.mp hd
  exact (h.retired hr _ hb).2 (by simp [openIds_of_dialogs hds])

theorem Run.nodup_submitIds {s : State} {ts : List Turn} (h : Run s ts) (hs : InOrder s) :
    (submitIds ts).Nodup := by
  -- An id that is sent under is retired, so the rest of the run has other ones.
  induction h with
  | nil s => exact .nil
  | @cons s e o ts ho hr ih =>
    have hc := change_of_step ho
    have hs' := inOrder_of_change hs hc
    have hlen := length_actions_of_change hc
    rw [submitIds, List.flatMap_cons, List.nodup_append]
    refine ⟨?_, ih hs', ?_⟩
    · cases ho : o.actions with
      | nil => simp [Turn.actions, ho]
      | cons a as =>
        rw [ho, List.length_cons] at hlen
        obtain rfl : as = [] := List.eq_nil_of_length_eq_zero (by omega)
        cases a <;> simp [Turn.actions, ho]
    · rintro id hid _ hid' rfl
      have hid : id ∈ submitIds [⟨s, e, o⟩] := by simpa [submitIds] using hid
      obtain ⟨t, ht, op, r, ha⟩ := mem_submitIds.mp hid
      obtain rfl := List.mem_singleton.mp ht
      exact hr.not_mem_submitIds hs' (retired_of_sent hs hc ha).2 hid'

/-- Whatever the events: ids are in order in every state, an event makes one action at
most, and no two requests come from one dialog. The one that sends was on top and is
open in no state from then on. -/
theorem each_dialog_sends_at_most_once {now : Clock.Moment} {settings : Settings} {s : State}
    (h : State.initial now settings = some s) (es : List Event) :
    ∃ ts : List Turn,
      run s es = .ok ts ∧
      (∀ r ∈ states s ts, InOrder r) ∧
      (∀ t ∈ ts, t.actions.length ≤ 1) ∧
      (submitIds ts).Nodup ∧
      ∀ (us : List Turn) (t : Turn) (vs : List Turn), ts = us ++ t :: vs →
        ∀ (id : Nat) (op : Operation) (r : Request), .submit id op r ∈ t.actions →
          (∃ d : OpenDialog, t.before.dialogs.head? = some d ∧ d.id = id) ∧
          ∀ u ∈ t :: vs, id ∉ u.after.openIds := by
  obtain ⟨ts, hts, -⟩ := run_ok (shows_of_initial h).1 es
  have hr := run_of_eq_ok hts
  have hs := inOrder_of_initial h
  refine ⟨ts, hts, hr.inOrder hs, ?_, hr.nodup_submitIds hs, ?_⟩
  · intro t ht
    exact length_actions_of_change (hr.change ht)
  · rintro us t vs rfl id op r ha
    have ht : t ∈ us ++ t :: vs := by simp
    obtain ⟨htop, hret⟩ :=
      retired_of_sent (hr.inOrder hs _ (hr.before_mem_states ht)) (hr.change ht) ha
    refine ⟨htop, fun u hu => ?_⟩
    have hv := (Run.append_iff.mp hr).2.tail
    rcases List.mem_cons.mp hu with rfl | hu
    · exact hret.2
    · exact (hv.retired hret _ (Run.after_mem_states _ hu)).2

/-- The answer to the first request comes while the form of the second is filled in. -/
theorem each_dialog_sends_at_most_once_of_two :
    let press (c : KeyCode) : Event := .input (.key (.press c))
    let first := [.char 'i', .char '5', .tab, .char 'E', .char 'U', .char 'R', .enter].map press
    let second := [.char 'i', .char '7', .tab, .char 'U'].map press
    let answer := Event.response 0 .selfIssueCash (.reply ⟨201, "5.00 EUR issued"⟩)
    let rest := [.esc, .char 'S', .char 'D', .enter].map press
    State.initial (fun _ => ['0', '0']) .default = some (.fresh .default "00:00:00") ∧
    ∃ ts : List Turn,
      run (.fresh .default "00:00:00") (first ++ second ++ answer :: rest) = .ok ts ∧
      submitIds ts = [0, 1] ∧ (submitIds ts).Nodup := by
  intro press first second answer rest
  have h := State.initial_default
  have hids : (run (.fresh .default "00:00:00") (first ++ second ++ answer :: rest)).map submitIds =
      .ok [0, 1] := rfl
  obtain ⟨ts, hts, -, -, hnodup, -⟩ :=
    each_dialog_sends_at_most_once h (first ++ second ++ answer :: rest)
  rw [hts] at hids
  exact ⟨h, ts, hts, Except.ok.inj hids, hnodup⟩

end PackageMarket.Session
