import QueryDraft.Operation
import QueryDraft.Proofs.Tree

namespace QueryDraft

open Selection

theorem exceeds_mono {limit : Option Int} {m n : Nat} (h : m ≤ n) (hm : exceeds limit m = true) :
    exceeds limit n = true := by
  cases limit with
  | none => cases hm
  | some l =>
    simp only [exceeds, Option.any_some, decide_eq_true_eq] at hm ⊢
    omega

/-- A computation that answers `a` for `cost`. The limit stops it only if it does not allow all of
that, and always if it allowed what was spent before. -/
def Charges {α : Type} (limit : Option Int) (x : Metered α) (a : α) (cost : Nat) : Prop :=
  ∀ used,
    (x used = .ok a (used + cost) ∧
      (exceeds limit used = false → exceeds limit (used + cost) = false)) ∨
      ∃ total, x used = .error .exceeded total ∧ exceeds limit total = true ∧
      exceeds limit (used + cost) = true

namespace Charges

variable {α β : Type} {limit : Option Int}

theorem pure (a : α) : Charges limit (pure a) a 0 := fun _ => .inl ⟨rfl, fun hu => hu⟩

theorem pay (cost : Nat) : Charges limit (pay limit cost) () cost := by
  intro used
  by_cases h : exceeds limit (used + cost) = true
  · exact .inr ⟨used + cost, by simp [QueryDraft.pay, h], h, h⟩
  · exact .inl ⟨by simp [QueryDraft.pay, h], fun _ => by simpa using h⟩

theorem bind {x : Metered α} {f : α → Metered β} {a : α} {b : β} {c d : Nat}
    (hx : Charges limit x a c) (hf : Charges limit (f a) b d) :
    Charges limit (x >>= f) b (c + d) := by
  intro used
  obtain ⟨hx, hc⟩ | ⟨total, hx, ht, he⟩ := hx used
  · have hb : (x >>= f) used = f a (used + c) := by simp only [Bind.bind, EStateM.bind, hx]
    rw [hb, ← Nat.add_assoc]
    obtain ⟨hf, hd⟩ | hf := hf (used + c)
    · exact .inl ⟨hf, fun hu => hd (hc hu)⟩
    · exact .inr hf
  · refine .inr ⟨total, ?_, ht, exceeds_mono (by omega) he⟩
    simp only [Bind.bind, EStateM.bind, hx]

theorem map (f : α → β) {x : Metered α} {a : α} {c : Nat} (hx : Charges limit x a c) :
    Charges limit (x >>= fun a => Pure.pure (f a)) (f a) c :=
  hx.bind (f := fun a => Pure.pure (f a)) (Charges.pure (f a))

theorem mapM {f : β → Metered (List Selection)} {g : β → List Selection} (xs : List β)
    (h : ∀ x, Charges limit (f x) (g x) (bodyCost (g x))) :
    Charges limit (xs.mapM f) (xs.map g) (bodyCost (xs.flatMap g)) := by
  induction xs with
  | nil => exact Charges.pure []
  | cons x xs ih =>
    rw [List.mapM_cons, List.map_cons, List.flatMap_cons, bodyCost_append]
    exact (h x).bind (ih.map (g x :: ·))

end Charges

theorem labelled_charges {limit : Option Int} {x : Metered (List Selection)} {body : List Selection}
    (label : Label) (hx : Charges limit x body (bodyCost body)) :
    Charges limit (x >>= payLabelled limit label) (labelled label body)
      (bodyCost (labelled label body)) := by
  cases body with
  | nil => exact hx.bind (f := payLabelled limit label) (Charges.pure [])
  | cons s rest =>
    have hp : Charges limit (payLabelled limit label (s :: rest)) [.node label (s :: rest)]
        (nodeCost label) :=
      (Charges.pay (nodeCost label)).map fun _ => [Selection.node label (s :: rest)]
    exact hx.bind hp

theorem selectWithin_charges (limit : Option Int) (steps : String → List Step) (levels : Nat)
    (path : List String) (type : String) :
    Charges limit (selectWithin limit steps levels path type) (select steps levels path type)
      (bodyCost (select steps levels path type)) := by
  induction levels generalizing path type with
  | zero => exact Charges.pure []
  | succ levels ih =>
    rw [selectWithin, select_succ]
    split
    · exact Charges.pure []
    · refine Charges.map List.flatten (Charges.mapM (steps type) fun step => ?_)
      cases step with
      | leaf name => exact (Charges.pay (leafCost name)).map fun _ => [Selection.leaf name]
      | down label target => exact labelled_charges label (ih (type :: path) target)

namespace Schema

theorem fieldStep_eq_down {s : Schema} {f : Field} {label : Label} {target : String}
    (h : s.fieldStep f = .down label target) :
    label = .field f.name ∧ target = f.type.target ∧ s.isLeaf f.type.target = false := by
  rw [fieldStep] at h
  split at h
  · cases h
  · next hl =>
    cases h
    exact ⟨rfl, rfl, eq_false_of_ne_true hl⟩

theorem mem_steps {s : Schema} {skipDeprecated : Bool} {type : String} {step : Step}
    (h : step ∈ s.steps skipDeprecated type) :
    (∃ f ∈ s.fieldsOf type, s.fieldStep f = step) ∨
      ∃ ms, s.find? type = some (.union ms) ∧ ∃ m ∈ ms, .down (.fragment m) m = step := by
  have hf : ∀ fs : List Field, s.fieldsOf type = fs →
      step ∈ (fs.filter (keeps skipDeprecated)).map s.fieldStep →
      ∃ f ∈ s.fieldsOf type, s.fieldStep f = step := by
    rintro fs rfl hm
    obtain ⟨f, hf, he⟩ := List.mem_map.mp hm
    exact ⟨f, (List.mem_filter.mp hf).1, he⟩
  rw [steps] at h
  split at h
  · next fs hd => exact .inl (hf fs (by rw [fieldsOf, hd]; rfl) h)
  · next fs hd => exact .inl (hf fs (by rw [fieldsOf, hd]; rfl) h)
  · next ms hd => exact .inr ⟨ms, hd, List.mem_map.mp h⟩
  · cases h

end Schema

namespace Scope

def body (scope : Scope) (schema : Schema) (type : String) : List Selection :=
  QueryDraft.select (schema.steps scope.skipDeprecated) (effectiveDepth scope.depth) [] type

theorem levels_rootLevel (scope : Scope) : scope.levels rootLevel = effectiveDepth scope.depth := by
  rw [levels, rootLevel]
  omega

def selection (scope : Scope) (schema : Schema) (path : List String) (level : Int)
    (type : String) : List Selection :=
  QueryDraft.select (schema.steps scope.skipDeprecated) (scope.levels level) path type

theorem selection_root (scope : Scope) (schema : Schema) (type : String) :
    scope.selection schema [] rootLevel type = scope.body schema type := by
  rw [selection, levels_rootLevel, body]

/-- A limit decides whether there is a selection, by what was spent before and what the
selection costs. -/
theorem select_outcome (scope : Scope) (schema : Schema) (path : List String) (level : Int)
    (type : String) (used : Nat) :
    (scope.select schema path level type used =
        (.ok (scope.selection schema path level type),
          used + bodyCost (scope.selection schema path level type)) ∧
      (exceeds scope.limit used = false →
        exceeds scope.limit (used + bodyCost (scope.selection schema path level type)) = false)) ∨
      ∃ total, scope.select schema path level type used = (.error scope.tooLarge, total) ∧
        exceeds scope.limit total = true ∧
        exceeds scope.limit (used + bodyCost (scope.selection schema path level type)) = true := by
  rw [Scope.select]
  obtain ⟨h, hu⟩ | ⟨total, h, ht, he⟩ :=
    selectWithin_charges scope.limit (schema.steps scope.skipDeprecated)
      (scope.levels level) path type used
  · rw [h]
    exact .inl ⟨rfl, hu⟩
  · rw [h]
    exact .inr ⟨total, rfl, ht, he⟩

theorem select_cases (scope : Scope) (schema : Schema) (type : String) (used : Nat) :
    (scope.select schema [] rootLevel type used =
        (.ok (scope.body schema type), used + bodyCost (scope.body schema type)) ∧
      (exceeds scope.limit used = false →
        exceeds scope.limit (used + bodyCost (scope.body schema type)) = false)) ∨
      ∃ total, scope.select schema [] rootLevel type used = (.error scope.tooLarge, total) ∧
        exceeds scope.limit (used + bodyCost (scope.body schema type)) = true := by
  rw [← scope.selection_root]
  obtain h | ⟨total, h, -, he⟩ := scope.select_outcome schema [] rootLevel type used
  · exact .inl h
  · exact .inr ⟨total, h, he⟩

theorem select_root (scope : Scope) (schema : Schema) (type : String) (used : Nat) :
    scope.select schema [] rootLevel type used =
        (.ok (scope.body schema type), used + bodyCost (scope.body schema type)) ∨
      ∃ total, scope.select schema [] rootLevel type used = (.error scope.tooLarge, total) ∧
      scope.limit ≠ none := by
  obtain ⟨h, -⟩ | ⟨total, h, he⟩ := scope.select_cases schema type used
  · exact .inl h
  · refine .inr ⟨total, h, fun hn => ?_⟩
    rw [hn] at he
    cases he

theorem select_free (scope : Scope) (hl : scope.limit = none) (schema : Schema) (path : List String)
    (level : Int) (type : String) (used : Nat) :
    scope.select schema path level type used =
      (.ok (scope.selection schema path level type),
        used + bodyCost (scope.selection schema path level type)) := by
  obtain ⟨h, -⟩ | ⟨total, -, -, he⟩ := scope.select_outcome schema path level type used
  · exact h
  · rw [hl] at he
    cases he

theorem select_unlimited (scope : Scope) (hl : scope.limit = none) (schema : Schema) (type : String)
    (used : Nat) :
    scope.select schema [] rootLevel type used =
      (.ok (scope.body schema type), used + bodyCost (scope.body schema type)) := by
  rw [← scope.selection_root]
  exact scope.select_free hl schema [] rootLevel type used

end Scope

end QueryDraft
