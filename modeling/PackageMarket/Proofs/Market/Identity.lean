import Mathlib.Data.List.Forall2
import PackageMarket.Market.View
import PackageMarket.Proofs.Text.Lines

set_option autoImplicit false

theorem List.findSome?_of_perm {α β : Type} {f : α → Option β} {xs ys : List α} (h : xs.Perm ys)
    (hone : xs.countP (fun x => (f x).isSome) ≤ 1) : ys.findSome? f = xs.findSome? f := by
  have hperm : (xs.filterMap f).Perm (ys.filterMap f) := h.filterMap f
  have hlength : (xs.filterMap f).length ≤ 1 := by rwa [List.length_filterMap_eq_countP]
  rw [← List.head?_filterMap, ← List.head?_filterMap]
  match hxs : xs.filterMap f, hlength with
  | [], _ => rw [hxs] at hperm; rw [hperm.nil_eq]
  | [b], _ => rw [hxs] at hperm; rw [List.singleton_perm.mp hperm]

namespace PackageMarket.Market

open Text

/-- The component begins with `O=`, white space aside. -/
def Named (p : List Char) : Prop := ∃ rest : List Char, Trimmed p ('O' :: '=' :: rest)

/-- One component with some white space around it, and with other white space. -/
inductive Respaced : List Char → List Char → Prop where
  | around {b e b' e' : List Char} (p : List Char) :
      AllBlank b → AllBlank e → AllBlank b' → AllBlank e' → Respaced (b ++ p ++ e) (b' ++ p ++ e')

def said (p : List Char) : Option (List Char) := (organisationOf (trim p)).map trim

def roleNamed (o : Option String) : Role :=
  if o = some "Buyer" then .buyer else if o = some "RepositoryNode" then .repositoryNode else .other

def Identity.ofComponents (ps : List (List Char)) : Identity := ⟨String.ofList (joinWith [','] ps)⟩

section

variable {p q o : List Char}

theorem organisationOf_eq_some_iff {s rest : List Char} :
    organisationOf s = some rest ↔ s = 'O' :: '=' :: rest := by
  unfold organisationOf
  split
  · simp
  · rename_i hne
    simp only [reduceCtorEq, false_iff]
    exact hne rest

theorem said_eq_some_iff :
    said p = some o ↔ ∃ rest : List Char, Trimmed p ('O' :: '=' :: rest) ∧ Trimmed rest o := by
  simp only [said, Option.map_eq_some_iff, organisationOf_eq_some_iff, trim_eq_iff]

theorem isSome_said : (said p).isSome ↔ Named p := by
  simp only [Option.isSome_iff_exists, said_eq_some_iff]
  constructor
  · rintro ⟨o, rest, hrest, -⟩
    exact ⟨rest, hrest⟩
  · rintro ⟨rest, hrest⟩
    exact ⟨_, rest, hrest, trimmed_trim rest⟩

instance : DecidablePred Named := fun _ => decidable_of_iff _ isSome_said

theorem said_eq_none_iff : said p = none ↔ ¬Named p := by
  rw [← isSome_said, Option.not_isSome_iff_eq_none]

theorem Respaced.refl (p : List Char) : Respaced p p := by
  have hnil : AllBlank [] := fun c hc => absurd hc List.not_mem_nil
  simpa using Respaced.around p hnil hnil hnil hnil

theorem Respaced.trim_eq (h : Respaced p q) : trim q = trim p := by
  cases h with
  | around p hb he hb' he' => rw [trim_around hb' p he', trim_around hb p he]

theorem Respaced.said_eq (h : Respaced p q) : said q = said p := by
  rw [said, said, h.trim_eq]

theorem not_mem_of_allBlank {s : List Char} (h : AllBlank s) : ',' ∉ s := fun hmem => by
  have hcomma : isBlank ',' = false := by decide
  rw [h _ hmem] at hcomma
  cases hcomma

theorem Respaced.not_mem (h : Respaced p q) (hp : ',' ∉ p) : ',' ∉ q := by
  cases h with
  | around p _ _ hb' he' =>
    simp only [List.mem_append, not_or] at hp ⊢
    exact ⟨⟨not_mem_of_allBlank hb', hp.1.2⟩, not_mem_of_allBlank he'⟩

end

section

variable {ps qs : List (List Char)}

theorem organisation_joinWith (h : ∀ p ∈ ps, ',' ∉ p) :
    organisation (joinWith [','] ps) = ps.findSome? said := by
  have hfind (qs : List (List Char)) :
      ((qs.map trim).findSome? organisationOf).map trim = qs.findSome? said := by
    rw [List.findSome?_map, List.map_findSome?]
    rfl
  cases ps with
  | nil => rfl
  | cons p ps => rw [organisation, splitOn_joinWith (List.cons_ne_nil p ps) h, hfind]

theorem organisation_ofComponents (h : ∀ p ∈ ps, ',' ∉ p) :
    (Identity.ofComponents ps).organisation = (ps.findSome? said).map String.ofList := by
  rw [Identity.organisation, Identity.ofComponents, String.toList_ofList, organisation_joinWith h]

theorem role_eq (i : Identity) : i.role = roleNamed i.organisation := by
  have hword (w : String) : i.organisation = some w ↔ organisation i.me.toList = some w.toList := by
    rw [Identity.organisation, Option.map_eq_some_iff]
    constructor
    · rintro ⟨s, hs, rfl⟩
      rw [hs, String.toList_ofList]
    · exact fun hs => ⟨_, hs, String.ofList_toList⟩
  simp only [roleNamed, hword]
  rw [Identity.role, roleOf]
  cases organisation i.me.toList with
  | none => rfl
  | some o => simp only [Option.some.injEq]

theorem roleNamed_eq_iff (o : Option String) :
    (roleNamed o = .buyer ↔ o = some "Buyer") ∧
      (roleNamed o = .repositoryNode ↔ o = some "RepositoryNode") := by
  unfold roleNamed
  split
  · simp_all
  · split <;> simp_all

theorem findSome?_said_of_respaced (h : List.Forall₂ Respaced ps qs) :
    qs.findSome? said = ps.findSome? said := by
  induction h with
  | nil => rfl
  | cons hpq _ ih => rw [List.findSome?_cons, List.findSome?_cons, hpq.said_eq, ih]

theorem not_mem_of_respaced (h : List.Forall₂ Respaced ps qs) (hps : ∀ p ∈ ps, ',' ∉ p) :
    ∀ q ∈ qs, ',' ∉ q := by
  induction h with
  | nil => exact hps
  | cons hpq _ ih =>
    obtain ⟨hp, hps⟩ := List.forall_mem_cons.mp hps
    exact List.forall_mem_cons.mpr ⟨hpq.not_mem hp, ih hps⟩

theorem organisation_of_respaced (h : List.Forall₂ Respaced ps qs) (hps : ∀ p ∈ ps, ',' ∉ p) :
    (Identity.ofComponents qs).organisation = (Identity.ofComponents ps).organisation := by
  rw [organisation_ofComponents hps, organisation_ofComponents (not_mem_of_respaced h hps),
    findSome?_said_of_respaced h]

theorem organisation_of_perm (h : ps.Perm qs) (hps : ∀ p ∈ ps, ',' ∉ p)
    (hone : ps.countP Named ≤ 1) :
    (Identity.ofComponents qs).organisation = (Identity.ofComponents ps).organisation := by
  have hsaid : ps.countP (fun p => (said p).isSome) = ps.countP Named :=
    List.countP_congr fun p _ => by rw [isSome_said, decide_eq_true_eq]
  rw [organisation_ofComponents hps, organisation_ofComponents fun q hq => hps q (h.mem_iff.mpr hq),
    List.findSome?_of_perm h (hsaid ▸ hone)]

/-- Of components without commas, the first that begins with `O=` gives the organisation: what
follows, without the white space around it. If there is none, there is no organisation. Its word
alone decides the role. White space around components does not matter, and their order does not
either unless two of them begin so. -/
theorem organisation_decides_the_role (h : ∀ p ∈ ps, ',' ∉ p) :
    (∀ o : String, (Identity.ofComponents ps).organisation = some o ↔
      ∃ (before after : List (List Char)) (p rest : List Char),
        ps = before ++ p :: after ∧ (∀ q ∈ before, ¬Named q) ∧ Trimmed p ('O' :: '=' :: rest) ∧
          Trimmed rest o.toList) ∧
    ((Identity.ofComponents ps).organisation = none ↔ ∀ p ∈ ps, ¬Named p) ∧
    ((Identity.ofComponents ps).role = .buyer ↔
      (Identity.ofComponents ps).organisation = some "Buyer") ∧
    ((Identity.ofComponents ps).role = .repositoryNode ↔
      (Identity.ofComponents ps).organisation = some "RepositoryNode") ∧
    (∀ qs : List (List Char), List.Forall₂ Respaced ps qs →
      (Identity.ofComponents qs).organisation = (Identity.ofComponents ps).organisation ∧
        (Identity.ofComponents qs).role = (Identity.ofComponents ps).role) ∧
    (ps.countP Named ≤ 1 → ∀ rs qs : List (List Char), ps.Perm rs → List.Forall₂ Respaced rs qs →
      (Identity.ofComponents qs).organisation = (Identity.ofComponents ps).organisation ∧
        (Identity.ofComponents qs).role = (Identity.ofComponents ps).role) := by
  have hrole {i j : Identity} (hij : j.organisation = i.organisation) : j.role = i.role := by
    rw [role_eq, role_eq, hij]
  have hword := role_eq (Identity.ofComponents ps) ▸
      roleNamed_eq_iff (Identity.ofComponents ps).organisation
  refine ⟨fun o => ?_, ?_, hword.1, hword.2, fun qs hqs => ?_, fun hone rs qs hrs hqs => ?_⟩
  · rw [organisation_ofComponents h, Option.map_eq_some_iff]
    simp only [List.findSome?_eq_some_iff, said_eq_some_iff, said_eq_none_iff]
    constructor
    · rintro ⟨s, ⟨before, p, after, hps, ⟨rest, hp, hrest⟩, hbefore⟩, rfl⟩
      exact ⟨before, after, p, rest, hps, hbefore, hp, String.toList_ofList ▸ hrest⟩
    · rintro ⟨before, after, p, rest, hps, hbefore, hp, hrest⟩
      exact ⟨_, ⟨before, p, after, hps, ⟨rest, hp, hrest⟩, hbefore⟩, String.ofList_toList⟩
  · rw [organisation_ofComponents h, Option.map_eq_none_iff, List.findSome?_eq_none_iff]
    simp only [said_eq_none_iff]
  · have hsame := organisation_of_respaced hqs h
    exact ⟨hsame, hrole hsame⟩
  · have hsame := (organisation_of_respaced hqs fun r hr => h r (hrs.mem_iff.mpr hr)).trans
      (organisation_of_perm hrs h hone)
    exact ⟨hsame, hrole hsame⟩

/-- The organisation comes last, behind a unit of that name and a common name that has `O=` in it,
and is then put first, with other white space around it. -/
theorem organisation_decides_the_role_of_unit :
    let unit := "OU=Buyer".toList
    let common := "CN=O=Dev".toList
    let named := "O=\u00a0Buyer".toList
    let ps : List (List Char) := [unit, [], [' '] ++ common ++ [], ['\u3000'] ++ named ++ ['\t']]
    let rs : List (List Char) := [['\u3000'] ++ named ++ ['\t'], unit, [], [' '] ++ common ++ []]
    let qs : List (List Char) := [[] ++ named ++ ['\n'], unit, [], [] ++ common ++ ['\u2003']]
    (∀ p ∈ ps, ',' ∉ p) ∧ ps.countP Named ≤ 1 ∧ ps.Perm rs ∧ List.Forall₂ Respaced rs qs ∧
      (Identity.ofComponents ps).organisation = some "Buyer" ∧
        (Identity.ofComponents ps).role = .buyer ∧
      (Identity.ofComponents qs).organisation = some "Buyer" ∧
        (Identity.ofComponents qs).role = .buyer := by
  intro unit common named ps rs qs
  have h : ∀ p ∈ ps, ',' ∉ p := by decide
  have hone : ps.countP Named ≤ 1 := by decide
  have hperm : ps.Perm rs := by decide
  have hrespaced : List.Forall₂ Respaced rs qs :=
    .cons (.around named (by decide) (by decide) (by decide) (by decide)) <|
    .cons (.refl unit) <| .cons (.refl []) <|
    .cons (.around common (by decide) (by decide) (by decide) (by decide)) .nil
  obtain ⟨hfirst, -, hbuyer, -, -, hany⟩ := organisation_decides_the_role h
  have horganisation : (Identity.ofComponents ps).organisation = some "Buyer" :=
    (hfirst "Buyer").mpr ⟨[unit, [], [' '] ++ common ++ []], [], ['\u3000'] ++ named ++ ['\t'],
      "\u00a0Buyer".toList, rfl, by decide, trim_eq_iff.mp (by decide), trim_eq_iff.mp (by decide)⟩
  have hrole := hbuyer.mpr horganisation
  obtain ⟨horganisation', hrole'⟩ := hany hone rs qs hperm hrespaced
  exact ⟨h, hone, hperm, hrespaced, horganisation, hrole, horganisation'.trans horganisation,
    hrole'.trans hrole⟩

end

end PackageMarket.Market
