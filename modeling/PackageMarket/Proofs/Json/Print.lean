import PackageMarket.Proofs.Json.Spelled

set_option autoImplicit false

/-!
Both printers spell the value they print. They lay out arrays and objects by one scheme and differ
in the blanks before an item, before a closing bracket and behind a colon.
-/

namespace PackageMarket.Json

namespace Value

def separated {α : Type} (lead : List Char) (text : α → List Char) : List α → List Char
  | [] => []
  | [a] => lead ++ text a
  | a :: as => lead ++ text a ++ ',' :: separated lead text as

theorem compactItems_eq (vs : List Value) : compactItems vs = separated [] compact vs := by
  induction vs with
  | nil => rfl
  | cons v vs ih => cases vs <;> simp [compactItems, separated, ih]

theorem compactMembers_eq (ms : List (String × Value)) :
    compactMembers ms = separated [] (fun m => quote m.1.toList ++ ':' :: compact m.2) ms := by
  induction ms with
  | nil => rfl
  | cons m ms ih => cases ms <;> simp [compactMembers, separated, ih]

theorem prettyItems_eq (level : Nat) (vs : List Value) :
    prettyItems level vs = separated (newline level) (prettyAt level) vs := by
  induction vs with
  | nil => rfl
  | cons v vs ih => cases vs <;> simp [prettyItems, separated, ih]

theorem prettyMembers_eq (level : Nat) (ms : List (String × Value)) :
    prettyMembers level ms =
      separated (newline level) (fun m => quote m.1.toList ++ ':' :: ' ' :: prettyAt level m.2)
        ms := by
  induction ms with
  | nil => simp [prettyMembers, separated]
  | cons m ms ih => cases ms <;> simp [prettyMembers, separated, ih]

section

variable {d : Nat} {lead close : List Char}

theorem spelled_behind_comma {v : Value} {vs : List Value} {t : List Char}
    (h : Spelled (.items d true (v :: vs)) t) : Spelled (.items d false (v :: vs)) (',' :: t) := by
  cases h with
  | item hb hs ht => exact .item hb hs ht

theorem spelled_items (hlead : Blank lead) (hclose : Blank close) {text : Value → List Char}
    {vs : List Value} (hvs : ∀ v ∈ vs, Spelled (.value d v) (text v)) :
    Spelled (.items d true vs) (separated lead text vs ++ (close ++ [']'])) := by
  induction vs with
  | nil => exact .endItems hclose
  | cons v vs ih =>
    obtain ⟨hv, hvs⟩ := List.forall_mem_cons.mp hvs
    cases vs with
    | nil =>
      have h : Spelled (.items d true [v]) (lead ++ (text v ++ (close ++ [']']))) :=
        .item hlead hv (.endItems hclose)
      simpa only [separated, List.append_assoc] using h
    | cons w vs =>
      have h : Spelled (.items d true (v :: w :: vs)) (lead ++ (text v ++ ',' :: _)) :=
        .item hlead hv (spelled_behind_comma (ih hvs))
      simpa only [separated, List.append_assoc, List.cons_append] using h

theorem spelled_member_behind_comma {m : String × Value} {ms : List (String × Value)}
    {t : List Char} (h : Spelled (.members d true (m :: ms)) t) :
    Spelled (.members d false (m :: ms)) (',' :: t) := by
  cases h with
  | member hb hb' hs ht => exact .member hb hb' hs ht

theorem spelled_members (hlead : Blank lead) (hclose : Blank close) {gap : List Char}
    (hgap : Blank gap) {text : Value → List Char} {ms : List (String × Value)}
    (hms : ∀ m ∈ ms, Spelled (.value d m.2) (text m.2)) :
    Spelled (.members d true ms)
      (separated lead (fun m => quote m.1.toList ++ ':' :: (gap ++ text m.2))
        ms ++ (close ++ ['\x7d'])) := by
  induction ms with
  | nil => exact .endMembers hclose
  | cons m ms ih =>
    obtain ⟨hm, hms⟩ := List.forall_mem_cons.mp hms
    cases ms with
    | nil =>
      have h : Spelled (.members d true [m])
          (lead ++ (quote m.1.toList ++ ':' :: (gap ++ (text m.2 ++ (close ++ ['\x7d']))))) :=
        .member hlead hgap hm (.endMembers hclose)
      simpa only [separated, List.append_assoc, List.cons_append] using h
    | cons n ms =>
      have h : Spelled (.members d true (m :: n :: ms))
          (lead ++ (quote m.1.toList ++ ':' :: (gap ++ (text m.2 ++ ',' :: _)))) :=
        .member hlead hgap hm (spelled_member_behind_comma (ih hms))
      simpa only [separated, List.append_assoc, List.cons_append] using h

theorem blank_gap : Blank [' '] := by
  intro c hc
  rw [List.mem_singleton.mp hc]
  rfl

theorem blank_newline (level : Nat) : Blank (newline level) := by
  intro c hc
  rcases List.mem_cons.mp hc with rfl | hc
  · rfl
  · rw [List.eq_of_mem_replicate hc]
    rfl

theorem spelled_compact {v : Value} (h : Within Number.ReadsBack d v) :
    Spelled (.value d v) v.compact := by
  induction h with
  | null => exact .null
  | @bool _ b => cases b <;> constructor
  | number hn => exact .number hn
  | string => exact .string
  | array _ ih =>
    rw [compact, compactItems_eq]
    exact .array (spelled_items blank_nil blank_nil ih)
  | object _ ih =>
    rw [compact, compactMembers_eq]
    exact .object (spelled_members blank_nil blank_nil blank_nil ih)

theorem spelled_prettyAt {v : Value} (h : Within Number.ReadsBack d v) (level : Nat) :
    Spelled (.value d v) (prettyAt level v) := by
  induction h generalizing level with
  | null => exact .null
  | @bool _ b => cases b <;> constructor
  | number hn => exact .number hn
  | string => exact .string
  | @array _ vs _ ih =>
    cases vs with
    | nil => exact .array (.endItems blank_nil)
    | cons v vs =>
      rw [prettyAt, prettyItems_eq, List.cons_append, List.cons_append, List.append_assoc]
      exact .array (spelled_items (blank_newline _) (blank_newline _) fun v hv => ih v hv _)
  | @object _ ms _ ih =>
    cases ms with
    | nil => exact .object (.endMembers blank_nil)
    | cons m ms =>
      rw [prettyAt, prettyMembers_eq, List.cons_append, List.cons_append, List.append_assoc]
      exact .object (spelled_members (blank_newline _) (blank_newline _) blank_gap
        fun m hm => ih m hm _)

end

end Value

end PackageMarket.Json
