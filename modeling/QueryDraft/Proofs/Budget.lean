import QueryDraft.Proofs.Charge
import QueryDraft.Proofs.Naming

namespace QueryDraft

open Selection

theorem Name.count_brace {name : String} (h : isValid name = true) :
    name.toList.count '\x7b' = 0 := by
  apply List.count_eq_zero.mpr
  intro hm
  have hp : isPart '\x7b' = true := isPart_of_isValid h hm
  have hn : isPart '\x7b' = false := by rfl
  rw [hn] at hp
  cases hp

theorem Label.count_brace {label : Label} (h : Name.isValid label.name = true) :
    label.text.count '\x7b' = 0 := by
  cases label with
  | field name =>
    have hn : Name.isValid name = true := h
    have ht : (field name).text = name.toList := rfl
    rw [ht, Name.count_brace hn]
  | fragment member =>
    have hm : Name.isValid member = true := h
    have ht : (fragment member).text = "... on ".toList ++ member.toList := rfl
    have hs : "... on ".toList.count '\x7b' = 0 := by decide
    rw [ht, List.count_append, hs, Name.count_brace hm]

namespace Selection

theorem count_brace_lines (body : List Selection) :
    (body.flatMap line).count '\x7b' = (bodyText body).count '\x7b' := by
  cases body with
  | nil => rfl
  | cons s rest =>
    rw [bodyText_cons, List.flatMap_cons, line, List.cons_append]
    exact List.count_cons_of_ne (by decide)

theorem count_brace_body {body : List Selection}
    (h : ∀ s ∈ body, s.text.count '\x7b' = s.openings) :
    (body.flatMap line).count '\x7b' = bodyOpenings body := by
  induction body with
  | nil => rfl
  | cons s rest ih =>
    have hn : ('\n' : Char) ≠ '\x7b' := by decide
    rw [List.flatMap_cons, List.count_append, ih fun t ht => h t (List.mem_cons_of_mem s ht), line,
      List.count_cons_of_ne hn, h s List.mem_cons_self, bodyOpenings]

theorem count_brace {s : Selection} (h : s.WellNamed) : s.text.count '\x7b' = s.openings := by
  induction h with
  | leaf hn => exact Name.count_brace hn
  | @node label body hn _ ih =>
    have ho : opening.count '\x7b' = 1 := by decide
    have hc : closing.count '\x7b' = 0 := by decide
    have hb := count_brace_body ih
    rw [count_brace_lines] at hb
    simp only [text, List.count_append, Label.count_brace hn, ho, hc, hb, openings]
    omega

theorem text_ne_nil {s : Selection} (h : s.WellNamed) : s.text ≠ [] := by
  cases h with
  | @leaf name hn =>
    intro he
    rw [text] at he
    rw [Name.isValid, he] at hn
    cases hn
  | node hn hb => simp [text, opening]

end Selection

def textCharge (text : List Char) : Nat :=
  if text = [] then 0 else text.length + 1 + text.count '\x7b'

theorem bodyCost_eq_textCharge {body : List Selection} (hw : ∀ s ∈ body, s.WellNamed)
    (hf : ∀ s ∈ body, s.Full) : bodyCost body = textCharge (bodyText body) := by
  by_cases hn : body = []
  · rw [hn]
    rfl
  · have ht : bodyText body ≠ [] := by
      obtain ⟨s, rest, rfl⟩ := List.exists_cons_of_ne_nil hn
      rw [bodyText_cons]
      exact List.append_ne_nil_of_left_ne_nil (text_ne_nil (hw s List.mem_cons_self)) _
    have hb := count_brace_body fun s hs => count_brace (hw s hs)
    rw [count_brace_lines] at hb
    rw [textCharge, if_neg ht, hb, bodyCost_eq hn hf]

structure Place where
  path : List String
  level : Int
  type : TypeRef

namespace Scope

variable (scope : Scope) (schema : Schema)

def selectAt (place : Place) (used : Nat) : Except TooLarge (List Selection) × Nat :=
  scope.select schema place.path place.level place.type.target used

/-- Selections one after another, each with the total that it leaves. The total goes on after a
failure, too. -/
def selectEach : List Place → (used : Nat) → List (Except TooLarge (List Selection) × Nat)
  | [], _ => []
  | place :: rest, used =>
    let result := scope.selectAt schema place used
    result :: selectEach rest result.2

def selectionAt (place : Place) : List Selection :=
  scope.selection schema place.path place.level place.type.target

def chargeEach : List Place → Nat
  | [] => 0
  | place :: rest => textCharge (bodyText (scope.selectionAt schema place)) + chargeEach rest

variable {schema}

theorem bodyCost_selectionAt (h : schema.WellNamed) (place : Place) :
    bodyCost (scope.selectionAt schema place) =
      textCharge (bodyText (scope.selectionAt schema place)) :=
  bodyCost_eq_textCharge (select_wellNamed (Schema.steps_isValid h scope.skipDeprecated) _ _ _)
    (select_full _ _ _ _)

/-- A selection is made if the limit allows for what is left to pay, and else it fails with a total
that passes it. -/
theorem selectAt_cases (h : schema.WellNamed) {limit : Int} (hl : scope.limit = some limit)
    (place : Place) {used : Nat} (hu : used ≤ limit) :
    (scope.selectAt schema place used = (.ok (scope.selectionAt schema place),
        used + textCharge (bodyText (scope.selectionAt schema place))) ∧
      used + textCharge (bodyText (scope.selectionAt schema place)) ≤ limit) ∨
    ∃ total, scope.selectAt schema place used = (.error (.size limit scope.depth), total) ∧
      limit < total ∧ limit < used + textCharge (bodyText (scope.selectionAt schema place)) := by
  have hfault : scope.tooLarge = .size limit scope.depth := by
    rw [tooLarge, hl]
    rfl
  have hout := scope.select_outcome schema place.path place.level place.type.target used
  rw [hl, hfault, ← selectionAt, bodyCost_selectionAt scope h] at hout
  obtain ⟨hs, hc⟩ | ⟨total, hs, ht, he⟩ := hout
  · refine .inl ⟨hs, ?_⟩
    exact_mod_cast Options.exceeds_some.mp (hc (Options.exceeds_some.mpr hu))
  · refine .inr ⟨total, hs, of_decide_eq_true ht, ?_⟩
    exact_mod_cast of_decide_eq_true he

theorem chargeEach_limit (depth : Nat) (skipDeprecated : Bool) (limit limit' : Option Int)
    (places : List Place) :
    (mk depth skipDeprecated limit).chargeEach schema places =
      (mk depth skipDeprecated limit').chargeEach schema places := by
  induction places with
  | nil => rfl
  | cons place rest ih =>
    rw [chargeEach, chargeEach, ih]
    rfl

end Scope

def FirstFailure {α : Type} (results : List (Except TooLarge α × Nat)) (i : Nat) : Prop :=
  (∃ e total, results[i]? = some (.error e, total)) ∧
    ∀ j < i, ∃ a total, results[j]? = some (.ok a, total)

theorem not_firstFailure_ok {α : Type} {a : α} {total : Nat}
    {results : List (Except TooLarge α × Nat)} : ¬ FirstFailure ((.ok a, total) :: results) 0 := by
  rintro ⟨⟨e, total', he⟩, -⟩
  cases he

theorem firstFailure_ok_succ {α : Type} {a : α} {total : Nat}
    {results : List (Except TooLarge α × Nat)} {i : Nat} :
    FirstFailure ((.ok a, total) :: results) (i + 1) ↔ FirstFailure results i := by
  constructor
  · rintro ⟨⟨e, total', he⟩, hb⟩
    exact ⟨⟨e, total', he⟩, fun j hj => hb (j + 1) (Nat.succ_lt_succ hj)⟩
  · rintro ⟨⟨e, total', he⟩, hb⟩
    refine ⟨⟨e, total', he⟩, fun j hj => ?_⟩
    cases j with
    | zero => exact ⟨a, total, rfl⟩
    | succ j => exact hb j (Nat.lt_of_succ_lt_succ hj)

theorem firstFailure_error {α : Type} {e : TooLarge} {total : Nat}
    {results : List (Except TooLarge α × Nat)} {i : Nat} :
    FirstFailure ((.error e, total) :: results) i ↔ i = 0 := by
  constructor
  · rintro ⟨-, hb⟩
    cases i with
    | zero => rfl
    | succ i =>
      obtain ⟨a, total', ha⟩ := hb 0 (Nat.succ_pos i)
      cases ha
  · rintro rfl
    exact ⟨⟨e, total, rfl⟩, fun j hj => absurd hj (Nat.not_lt_zero j)⟩

namespace Scope

variable {scope : Scope} {schema : Schema} (h : schema.WellNamed) {limit : Int}
    (hl : scope.limit = some limit)

include h hl

/-- As long as the charges are within the limit, every selection is made and leaves what was charged
until then. -/
theorem selectEach_within (places : List Place) {used i : Nat} {place : Place}
    (hp : places[i]? = some place)
    (ht : used + scope.chargeEach schema (places.take (i + 1)) ≤ limit) :
    (scope.selectEach schema places used)[i]? =
      some (.ok (scope.selectionAt schema place),
        used + scope.chargeEach schema (places.take (i + 1))) := by
  induction places generalizing used i with
  | nil => cases hp
  | cons first rest ih =>
    rw [List.take_succ_cons, chargeEach] at ht ⊢
    obtain ⟨hs, -⟩ | ⟨-, -, -, he⟩ :=
      scope.selectAt_cases h hl first (show (used : Int) ≤ limit by omega)
    · rw [selectEach, hs]
      cases i with
      | zero =>
        cases hp
        rfl
      | succ i =>
        rw [← Nat.add_assoc]
        exact ih hp (by omega)
    · omega

theorem selectEach_first (places : List Place) (used : Nat) (hu : used ≤ limit) (i : Nat) :
    FirstFailure (scope.selectEach schema places used) i ↔
      i < places.length ∧ used + scope.chargeEach schema (places.take i) ≤ limit ∧
        limit < used + scope.chargeEach schema (places.take (i + 1)) := by
  -- What is left of the places starts with another total, so the induction is for all of them.
  induction places generalizing used i with
  | nil =>
    refine ⟨?_, fun hi => absurd hi.1 (Nat.not_lt_zero i)⟩
    rintro ⟨⟨e, total, he⟩, -⟩
    cases he
  | cons place rest ih =>
    have hz : scope.chargeEach schema [] = 0 := rfl
    rw [List.take_succ_cons, chargeEach, List.length_cons]
    obtain ⟨hs, hc⟩ | ⟨total, hs, -, hc⟩ := scope.selectAt_cases h hl place hu
    · rw [selectEach, hs]
      cases i with
      | zero =>
        simp only [List.take_zero, hz]
        exact ⟨fun hf => absurd hf not_firstFailure_ok, fun hi => by omega⟩
      | succ i =>
        have hi := ih (used + textCharge (bodyText (scope.selectionAt schema place))) (by omega) i
        rw [firstFailure_ok_succ, List.take_succ_cons, chargeEach, hi]
        omega
    · rw [selectEach, hs, firstFailure_error]
      cases i with
      | zero =>
        rw [List.take_zero, hz]
        exact ⟨fun _ => ⟨Nat.succ_pos _, by omega, by omega⟩, fun _ => rfl⟩
      | succ i =>
        rw [List.take_succ_cons, chargeEach]
        omega

end Scope

/-- The selections of two scopes that differ in the limit alone, `free` having none. What a limit
refuses is what would pass it in the end; the total that a selection leaves counts its text and
nothing else. -/
structure Budgeted (schema : Schema) (free bounded : Scope) (limit : Int) : Prop where
  unlimited : ∀ (place : Place) (used : Nat),
    free.selectAt schema place used =
      (.ok (free.selectionAt schema place),
        used + textCharge (bodyText (free.selectionAt schema place)))
  refused : ∀ (place : Place) (used : Nat), used ≤ limit →
    ((∃ total, bounded.selectAt schema place used = (.error (.size limit bounded.depth), total)) ↔
      limit < used + textCharge (bodyText (free.selectionAt schema place)))
  passed : ∀ (place : Place) (used : Nat), used ≤ limit → ∀ e total,
    bounded.selectAt schema place used = (.error e, total) →
    e = .size limit bounded.depth ∧ limit < total
  granted : ∀ (place : Place) (used : Nat),
    used + textCharge (bodyText (free.selectionAt schema place)) ≤ limit →
    bounded.selectAt schema place used =
      (.ok (free.selectionAt schema place),
        used + textCharge (bodyText (free.selectionAt schema place)))
  within : ∀ (places : List Place) (used i : Nat) (place : Place), places[i]? = some place →
    used + free.chargeEach schema (places.take (i + 1)) ≤ limit →
    (bounded.selectEach schema places used)[i]? =
      some (.ok (free.selectionAt schema place),
        used + free.chargeEach schema (places.take (i + 1)))
  first : ∀ (places : List Place) (used : Nat), used ≤ limit → ∀ i,
    FirstFailure (bounded.selectEach schema places used) i ↔
      i < places.length ∧ used + free.chargeEach schema (places.take i) ≤ limit ∧
        limit < used + free.chargeEach schema (places.take (i + 1))

theorem budget_spent {payload : Json} {schema : Schema} (h : Schema.ofPayload payload = .ok schema)
    (depth : Nat) (skipDeprecated : Bool) (limit : Int) :
    Budgeted schema ⟨depth, skipDeprecated, none⟩ ⟨depth, skipDeprecated, some limit⟩ limit := by
  have hw := Schema.wellNamed_ofPayload h
  let free : Scope := ⟨depth, skipDeprecated, none⟩
  let bounded : Scope := ⟨depth, skipDeprecated, some limit⟩
  have hcharge : ∀ places, free.chargeEach schema places = bounded.chargeEach schema places :=
    Scope.chargeEach_limit depth skipDeprecated none (some limit)
  refine ⟨?unlimited, ?refused, ?passed, ?granted, ?within, ?first⟩
  case unlimited =>
    intro place used
    rw [← Scope.bodyCost_selectionAt free hw place]
    exact free.select_free rfl schema _ _ _ used
  case refused =>
    intro place used hu
    obtain ⟨hs, hc⟩ | ⟨total, hs, -, hc⟩ := bounded.selectAt_cases hw rfl place hu
    · refine ⟨?_, fun hl => absurd hc (Int.not_le.mpr hl)⟩
      rintro ⟨total, he⟩
      cases hs.symm.trans he
    · exact ⟨fun _ => hc, fun _ => ⟨total, hs⟩⟩
  case passed =>
    intro place used hu e total he
    obtain ⟨hs, -⟩ | ⟨total', hs, ht, -⟩ := bounded.selectAt_cases hw rfl place hu
    · cases hs.symm.trans he
    · cases hs.symm.trans he
      exact ⟨rfl, ht⟩
  case granted =>
    intro place used hc
    obtain ⟨hs, -⟩ | ⟨-, -, -, hl⟩ :=
      bounded.selectAt_cases hw rfl place (show (used : Int) ≤ limit by omega)
    · exact hs
    · exact absurd hc (Int.not_le.mpr hl)
  case within =>
    intro places used i place hp ht
    rw [hcharge] at ht ⊢
    exact bounded.selectEach_within hw rfl places hp ht
  case first =>
    intro places used hu i
    rw [hcharge, hcharge]
    exact bounded.selectEach_first hw rfl places used hu i

def Sample.found : Place := ⟨[], rootLevel, .list (.named "Found")⟩

/-- The search is charged for 70 characters: a limit of 70 allows it at the start, and no longer
after one character. -/
theorem budget_spent_answer :
    Schema.ofPayload Sample.answer = .ok Sample.schema ∧
      textCharge (bodyText ((Scope.mk 2 false none).selectionAt Sample.schema Sample.found)) = 70 ∧
      ((Scope.mk 2 false (some 70)).selectAt Sample.schema Sample.found 0).2 = 70 ∧
      (Scope.mk 2 false (some 70)).selectAt Sample.schema Sample.found 1 =
        (.error (.size 70 2), 71) ∧
      Budgeted Sample.schema ⟨2, false, none⟩ ⟨2, false, some 70⟩ 70 :=
  ⟨Sample.ofPayload_answer, by decide +kernel, by decide +kernel, by rfl,
    budget_spent Sample.ofPayload_answer 2 false 70⟩

end QueryDraft
