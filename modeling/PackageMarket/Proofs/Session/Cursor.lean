import PackageMarket.Proofs.Session.Run

set_option autoImplicit false

namespace PackageMarket

open Market

namespace Selection

/-- A row of a list of `n`; an empty one has its cursor at zero. -/
def Fits (n i : Nat) : Prop := i < n ∨ n = 0 ∧ i = 0

def inside (n : Nat) (i : Int) : Nat := (max 0 (min i (n - 1))).toNat

theorem fits_clamp (n i : Nat) : Fits n (clamp n i) := by
  unfold Fits clamp
  split
  · omega
  · split <;> omega

theorem fits_inside (n : Nat) (i : Int) : Fits n (inside n i) := by
  unfold Fits inside
  omega

variable {n i : Nat}

theorem next_eq (h : Fits n i) : next n i = min (i + 1) (n - 1) := by
  unfold Fits at h
  unfold next
  split <;> omega

theorem repeat_next (h : Fits n i) (k : Nat) : Nat.repeat (next n) k i = min (i + k) (n - 1) := by
  induction k with
  | zero =>
    unfold Fits at h
    simp only [Nat.repeat]
    omega
  | succ k ih =>
    have hk : Fits n (Nat.repeat (next n) k i) := by
      unfold Fits at h ⊢
      omega
    rw [Nat.repeat, next_eq hk, ih]
    omega

end Selection

namespace State

variable (s : State)

def offersOn : Page → List Offer
  | .marketplace => s.marketplace
  | .developer => s.pkgOffers

def cursorOn : Page → Nat
  | .marketplace => s.marketCursor
  | .developer => s.developerCursor

theorem visibleOffers_eq : s.visibleOffers = s.offersOn s.page := by
  unfold visibleOffers offersOn
  split <;> simp_all

theorem cursor_eq : s.cursor = s.cursorOn s.page := by
  unfold cursor cursorOn
  split <;> simp_all

section Move

variable (f : Nat → Nat → Nat) (p : Page)

@[simp] theorem page_moveCursor : (s.moveCursor f).page = s.page := by
  unfold moveCursor
  split <;> simp_all

@[simp] theorem offersOn_moveCursor : (s.moveCursor f).offersOn p = s.offersOn p := by
  unfold moveCursor
  cases p <;> split <;> rfl

theorem cursorOn_moveCursor :
    (s.moveCursor f).cursorOn p =
      if p = s.page then f (s.offersOn p).length (s.cursorOn p) else s.cursorOn p := by
  unfold moveCursor
  cases p <;> cases h : s.page <;> rfl

end Move

def CursorsFit : Prop := ∀ p : Page, Selection.Fits (s.offersOn p).length (s.cursorOn p)

theorem cursorsFit_fresh (settings : Settings) (clock : String) :
    (fresh settings clock).CursorsFit := by
  intro p
  cases p <;> exact .inr ⟨rfl, rfl⟩

variable {s}

theorem CursorsFit.refresh (h : s.CursorsFit) (v : View) : (s.refresh v).CursorsFit := by
  intro p
  have hp := h p
  cases v with
  | marketplace os => cases p with
    | marketplace => exact Selection.fits_clamp os.length s.marketCursor
    | developer => exact hp
  | pkgOffers os => cases p with
    | marketplace => exact hp
    | developer => exact Selection.fits_clamp os.length s.developerCursor
  | _ => cases p <;> exact hp

theorem CursorsFit.isSome_selectedOffer? (h : s.CursorsFit) :
    s.selectedOffer?.isSome ↔ s.visibleOffers ≠ [] := by
  have hp := h s.page
  rw [← visibleOffers_eq, ← cursor_eq] at hp
  unfold Selection.Fits at hp
  have hlength : s.visibleOffers.length = 0 ↔ s.visibleOffers = [] := List.length_eq_zero_iff
  rw [selectedOffer?, isSome_getElem?]
  constructor
  · intro hlt hnil
    rw [hlength.mpr hnil] at hlt
    omega
  · intro hne
    have hpos : s.visibleOffers.length ≠ 0 := fun h0 => hne (hlength.mp h0)
    omega

end State

namespace Session

/-- Where a key sends the cursor that is on row `i` of a list of `n`, the ends of the list aside. -/
def aim (n i : Nat) : KeyCode → Option Int
  | .up => some (i - 1)
  | .down => some (i + 1)
  | .pageUp => some (i - 10)
  | .pageDown => some (i + 10)
  | .home => some 0
  | .last => some (n - 1)
  | _ => none

inductive Asks : Page → KeyCode → (Offer → Dialog) → Prop where
  | details (p : Page) : Asks p .enter .newDetails
  | buy : Asks .marketplace (.char 'b') .newBuy
  | delete {code : KeyCode} : code = .char 'x' ∨ code = .delete → Asks .developer code .newDelete

variable {n i : Nat} {s t : State} {code : KeyCode} {as : List Action} {f : Nat → Nat → Nat}

theorem CursorMove.eq_inside (h : CursorMove code f) (hi : Selection.Fits n i) {x : Int}
    (hx : aim n i code = some x) : f n i = Selection.inside n x := by
  cases h with
  | pageDown =>
    cases hx
    have hrow : Session.pageDown n i = min (i + 10) (n - 1) := Selection.repeat_next hi pageStep
    unfold Selection.Fits at hi
    simp only [hrow, Selection.inside]
    omega
  | down =>
    cases hx
    have hrow := Selection.next_eq hi
    unfold Selection.Fits at hi
    simp only [hrow, Selection.inside]
    omega
  | _ =>
    cases hx
    unfold Selection.Fits at hi
    simp only [Selection.prev, Selection.inside, pageStep]
    omega

theorem CursorMove.exists_aim (h : CursorMove code f) (n i : Nat) :
    ∃ x : Int, aim n i code = some x := by
  cases h <;> exact ⟨_, rfl⟩

theorem cursorsFit_of_pageChange (hs : s.CursorsFit) (h : PageChange s code t as) :
    t.CursorsFit := by
  cases h with
  | moved hm =>
    intro p
    rw [State.offersOn_moveCursor, State.cursorOn_moveCursor]
    split
    · -- Wherever it aims, a cursor that has been moved is inside its list.
      obtain ⟨x, hx⟩ := hm.exists_aim (s.offersOn p).length (s.cursorOn p)
      rw [hm.eq_inside (hs p) hx]
      exact Selection.fits_inside _ x
    · exact hs p
  | _ => exact hs

theorem cursorsFit_of_change {e : Event} (hs : s.CursorsFit) (h : Change s e t as) :
    t.CursorsFit := by
  cases h with
  | paged k hd hp =>
    exact cursorsFit_of_pageChange (s := { s with statusMessage := none, dirty := true }) hs hp
  | refreshed v => exact hs.refresh v
  | ticked hc => split <;> exact hs
  | _ => exact hs

theorem Run.cursorsFit {ts : List Turn} (h : Run s ts) (hs : s.CursorsFit) :
    ∀ r ∈ states s ts, r.CursorsFit :=
  h.invariant (fun _ _ _ _ hs hc => cursorsFit_of_change hs hc) hs

variable {k : Key}

theorem step_of_page (hs : s.dialogs = []) (hk : k.kind ≠ .release) (hc : k.code ≠ .char 'c') :
    step s (.input (.key k)) = .ok (pageKey { s with dirty := true } k) := by
  have hq : (k.ctrl && k.code = .char 'c') = false := by simp [hc]
  simp only [step, input, if_neg hk, key, hq, hs]
  rfl

theorem pageKey_of_aim {x : Int} (hx : aim n i k.code = some x) :
    ∃ f : Nat → Nat → Nat, CursorMove k.code f ∧
      pageKey s k = .quiet ({ s with statusMessage := none }.moveCursor f) := by
  obtain ⟨code, ctrl, shift, alt, kind⟩ := k
  cases code with
  | up => exact ⟨_, .up, rfl⟩
  | down => exact ⟨_, .down, rfl⟩
  | pageUp => exact ⟨_, .pageUp, rfl⟩
  | pageDown => exact ⟨_, .pageDown, rfl⟩
  | home => exact ⟨_, .home, rfl⟩
  | last => exact ⟨_, .last, rfl⟩
  | _ => cases hx

theorem Asks.code_ne {p : Page} {make : Offer → Dialog} (h : Asks p code make) :
    code ≠ .char 'c' := by
  rintro rfl
  cases h with
  | delete hc => simp at hc

theorem Asks.eq_newDetails {p : Page} {make : Offer → Dialog} (h : Asks p .enter make) :
    make = .newDetails := by
  cases h with
  | details p => rfl
  | delete hc => simp at hc

theorem dialogs_openFor (make : Offer → Dialog) :
    (openFor s make).dialogs =
      (s.selectedOffer?.map fun o => (⟨s.nextId, make o⟩ : OpenDialog)).toList ++ s.dialogs := by
  unfold openFor
  cases s.selectedOffer? <;> rfl

theorem pageKey_of_asks {make : Offer → Dialog} (h : Asks s.page k.code make)
    (hk : k.code ≠ .enter) :
    (pageKey s k).state = openFor { s with statusMessage := none } make := by
  obtain ⟨code, ctrl, shift, alt, kind⟩ := k
  cases s
  cases h with
  | details p => exact absurd rfl hk
  | buy => rfl
  | delete hc => rcases hc with rfl | rfl <;> rfl

theorem dialogs_of_asks {make : Offer → Dialog} (h : Asks s.page k.code make) :
    (pageKey s k).state.dialogs =
      (s.selectedOffer?.map fun o => (⟨s.nextId, make o⟩ : OpenDialog)).toList ++ s.dialogs := by
  by_cases hk : k.code = .enter
  · have hcleared : ({ s with statusMessage := none } : State).selectedOffer? = s.selectedOffer? :=
      rfl
    rw [hk] at h
    obtain rfl := h.eq_newDetails
    simp only [pageKey, hk, hcleared]
    cases s.selectedOffer? <;> rfl
  · rw [pageKey_of_asks h hk]
    exact dialogs_openFor make

/-- Whatever the events, in every state: each cursor is on a row of its list, so that a package
is selected if the page lists one, and a key opens a dialog about it exactly then. Without a
dialog, the keys that move the cursor of the page send it where they point to as far as the list
goes, and leave the other one. -/
theorem cursors_stay_on_their_lists {now : Clock.Moment} {settings : Settings} {s : State}
    (h : State.initial now settings = some s) (es : List Event) :
    ∃ ts : List Turn,
      run s es = .ok ts ∧
      ∀ r ∈ states s ts,
        (r.marketCursor < r.marketplace.length ∨ r.marketplace.length = 0 ∧ r.marketCursor = 0) ∧
        (r.developerCursor < r.pkgOffers.length ∨ r.pkgOffers.length = 0 ∧ r.developerCursor = 0) ∧
        (r.selectedOffer?.isSome ↔ r.visibleOffers ≠ []) ∧
        (r.dialogs = [] → ∀ k : Key, k.kind ≠ .release →
          (∀ make : Offer → Dialog, Asks r.page k.code make →
            ∃ o : Outcome,
              step r (.input (.key k)) = .ok o ∧
              o.state.dialogs =
                (r.selectedOffer?.map fun x => (⟨r.nextId, make x⟩ : OpenDialog)).toList) ∧
          ∀ x : Int, aim r.visibleOffers.length r.cursor k.code = some x →
            ∃ o : Outcome,
              step r (.input (.key k)) = .ok o ∧ o.actions = [] ∧ o.state.page = r.page ∧
              ∀ p : Page, o.state.cursorOn p =
                if p = r.page then Selection.inside r.visibleOffers.length x
                else r.cursorOn p) := by
  obtain ⟨ts, hts, -⟩ := run_ok (shows_of_initial h).1 es
  obtain ⟨clock, -, rfl⟩ := s.initial_eq_some_iff.mp h
  refine ⟨ts, hts, fun r hr => ?_⟩
  have hfit := (run_of_eq_ok hts).cursorsFit (State.cursorsFit_fresh settings clock) r hr
  refine ⟨hfit .marketplace, hfit .developer, hfit.isSome_selectedOffer?,
    fun hd k hk => ⟨fun make hask => ?_, fun x hx => ?_⟩⟩
  · refine ⟨_, step_of_page hd hk hask.code_ne, ?_⟩
    rw [dialogs_of_asks (s := { r with dirty := true }) hask]
    simp only [hd, List.append_nil]
    rfl
  · have hc : k.code ≠ .char 'c' := by
      intro hc
      rw [hc] at hx
      cases hx
    obtain ⟨f, hf, hkey⟩ := pageKey_of_aim (s := { r with dirty := true }) hx
    refine ⟨_, step_of_page hd hk hc, ?_⟩
    rw [hkey]
    refine ⟨rfl, State.page_moveCursor _ f, fun p => ?_⟩
    rw [State.visibleOffers_eq, State.cursor_eq] at hx
    rw [State.visibleOffers_eq, ← hf.eq_inside (hfit r.page) hx]
    have hmove := State.cursorOn_moveCursor { r with statusMessage := none, dirty := true } f p
    by_cases hp : p = r.page
    · rw [if_pos hp]
      subst hp
      exact hmove.trans (if_pos rfl)
    · rw [if_neg hp]
      exact hmove.trans (if_neg hp)

/-- The cursor is at the end of a list of twelve when the list is
fetched anew, with two packages. -/
theorem cursors_stay_on_their_lists_of_shrunk :
    let press (c : KeyCode) : Key := .press c
    let s := State.fresh .default "00:00:00"
    let es : List Event :=
      [.refreshed (.marketplace (List.replicate 12 .blank)), .input (.key (press .last)),
        .refreshed (.marketplace (List.replicate 2 .blank))]
    State.initial (fun _ => ['0', '0']) .default = some s ∧
    ∃ (ts : List Turn) (o o' : Outcome),
      run s es = .ok ts ∧ (last s ts).marketCursor = 1 ∧
      step (last s ts) (.input (.key (press .pageUp))) = .ok o ∧ o.state.marketCursor = 0 ∧
      step (last s ts) (.input (.key (press (.char 'b')))) = .ok o' ∧
        o'.state.dialogs = [⟨0, .newBuy .blank⟩] := by
  intro press s es
  have h := State.initial_default
  obtain ⟨ts, hts, hcursor, hpage, hopen, hid, hoffers, hselected⟩ :
      ∃ ts : List Turn, run s es = .ok ts ∧ (last s ts).marketCursor = 1 ∧
        (last s ts).page = .marketplace ∧ (last s ts).dialogs = [] ∧ (last s ts).nextId = 0 ∧
        (last s ts).visibleOffers = List.replicate 2 .blank ∧
        (last s ts).selectedOffer? = some .blank :=
    ⟨[_, _, _], rfl, rfl, rfl, rfl, rfl, rfl, rfl⟩
  obtain ⟨us, hus, hall⟩ := cursors_stay_on_their_lists h es
  obtain rfl : us = ts := Except.ok.inj (hus.symm.trans hts)
  obtain ⟨-, -, -, hkeys⟩ := hall _ (last_mem_states s us)
  have haim : aim (last s us).visibleOffers.length (last s us).cursor .pageUp = some (-9) := by
    rw [State.cursor_eq, hpage, State.cursorOn, hcursor]
    rfl
  obtain ⟨o, ho, -, -, hmoved⟩ := (hkeys hopen (press .pageUp) (by decide)).2 _ haim
  obtain ⟨o', ho', hbuy⟩ := (hkeys hopen (press (.char 'b')) (by decide)).1 .newBuy (hpage ▸ .buy)
  refine ⟨h, us, o, o', hus, hcursor, ho, ?_, ho', ?_⟩
  · have hmoved := hmoved .marketplace
    rwa [if_pos hpage.symm, hoffers] at hmoved
  · rwa [hselected, hid] at hbuy

end Session

end PackageMarket
