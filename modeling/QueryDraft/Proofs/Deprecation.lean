import QueryDraft.Keyed
import QueryDraft.Proofs.Outline

namespace QueryDraft

open QueryDraft.Language.Selection (bodyLeafPaths bodyOpenPaths bodyLeafPaths_eq)
open Selection

def TypeDef.withoutDeprecated : TypeDef → TypeDef
  | .object fs => .object (fs.filter fun f => !f.deprecated)
  | .interface fs => .interface (fs.filter fun f => !f.deprecated)
  | d => d

theorem TypeDef.isLeaf_withoutDeprecated (d : TypeDef) : d.withoutDeprecated.isLeaf = d.isLeaf := by
  cases d with
  | object fs | interface fs => rfl
  | scalar | enum | union ms | inputObject => rfl

namespace Schema

def withoutDeprecated (s : Schema) : Schema :=
  { s with types := s.types.map fun t => (t.1, t.2.withoutDeprecated) }

variable (s : Schema)

theorem find?_withoutDeprecated (type : String) :
    s.withoutDeprecated.find? type = (s.find? type).map TypeDef.withoutDeprecated := by
  have hl : ∀ types : List (String × TypeDef),
      (types.map fun t => (t.1, t.2.withoutDeprecated)).lookup type =
        (types.lookup type).map TypeDef.withoutDeprecated := by
    intro types
    induction types with
    | nil => rfl
    | cons t types ih =>
      rw [List.map_cons, Keyed.lookup_cons, Keyed.lookup_cons, ih]
      split
      · rfl
      · rfl
  exact hl s.types

theorem isLeaf_withoutDeprecated (type : String) :
    s.withoutDeprecated.isLeaf type = s.isLeaf type := by
  rw [isLeaf, isLeaf, find?_withoutDeprecated, Option.any_map]
  congr 1
  funext d
  exact d.isLeaf_withoutDeprecated

theorem fieldStep_withoutDeprecated (f : Field) :
    s.withoutDeprecated.fieldStep f = s.fieldStep f := by
  rw [fieldStep, fieldStep, isLeaf_withoutDeprecated]

theorem steps_withoutDeprecated (type : String) :
    s.withoutDeprecated.steps false type = s.steps true type := by
  have hs : s.withoutDeprecated.fieldStep = s.fieldStep := funext s.fieldStep_withoutDeprecated
  have hk : keeps true = fun f => !f.deprecated := rfl
  rw [steps, steps, find?_withoutDeprecated]
  cases s.find? type with
  | none => rfl
  | some d =>
    cases d with
    | object fs | interface fs =>
      simp only [Option.map_some, TypeDef.withoutDeprecated, filter_keeps, hs, hk]
    | scalar | enum | union ms | inputObject => rfl

end Schema

namespace Schema

variable (s : Schema)

/-- The declared fields that a route takes, one after another. A step to a member of a union
takes none. -/
def fieldsAlong : (type : String) → (hops : List Hop) → (position : Nat) → List Field
  | type, [], i => ((s.fieldsOf type)[i]?).toList
  | type, hop :: hops, i =>
    ((s.fieldsOf type)[hop.position]?).toList ++ fieldsAlong hop.target hops i

def spares (type : String) (r : Route) : Bool :=
  (s.fieldsAlong type r.hops r.position).all fun f => !f.deprecated

def sparesAt (type : String) (i : Nat) : Bool :=
  ((s.fieldsOf type)[i]?).toList.all fun f => !f.deprecated

theorem spares_below (type : String) (hop : Hop) (r : Route) :
    s.spares type (r.below hop) = (s.sparesAt type hop.position && s.spares hop.target r) :=
  List.all_append

theorem filter_stepRoutes (type : String) (onward : String → List Route) (step : Step) (i : Nat) :
    (step.routes onward i).filter (s.spares type) =
      if s.sparesAt type i then
        step.routes (fun target => (onward target).filter (s.spares target)) i else [] := by
  cases step with
  | leaf name =>
    have hl : s.spares type ⟨[], i, name⟩ = s.sparesAt type i := rfl
    rw [Step.routes, List.filter_cons, hl, List.filter_nil, Step.routes]
  | down label target =>
    have hb : s.spares type ∘ Route.below ⟨i, label, target⟩ = fun r =>
        s.sparesAt type i && s.spares target r :=
      funext (s.spares_below type ⟨i, label, target⟩)
    rw [Step.routes, List.filter_map, hb, Step.routes]
    cases s.sparesAt type i with
    | false => simp
    | true => simp

theorem filter_sparesAt (type : String) :
    ((s.fieldsOf type).zipIdx.filter fun x => s.sparesAt type x.2) =
      (s.fieldsOf type).zipIdx.filter fun x => !x.1.deprecated := by
  refine List.filter_congr fun x hx => ?_
  rw [sparesAt, List.mem_zipIdx_iff_getElem?.mp hx]
  simp

theorem steps_true (type : String) :
    s.steps true type =
      ((s.steps false type).zipIdx.filter fun x => s.sparesAt type x.2).map Prod.fst := by
  by_cases hu : ∃ ms, s.find? type = some (.union ms)
  · obtain ⟨ms, hu⟩ := hu
    have hs : ∀ i, s.sparesAt type i = true := by
      intro i
      rw [sparesAt, fieldsOf_union hu]
      rfl
    simp only [hs, List.filter_true, List.zipIdx_map_fst]
    rw [steps_union hu, steps_union hu]
  · have hu : ∀ ms, s.find? type ≠ some (.union ms) := fun ms hm => hu ⟨ms, hm⟩
    have hz : (s.fieldsOf type).zipIdx.map Prod.fst = s.fieldsOf type :=
      List.zipIdx_map_fst 0 (s.fieldsOf type)
    have hk : keeps true = fun f => !f.deprecated := rfl
    have hc : (fun x : Step × Nat => s.sparesAt type x.2) ∘ Prod.map s.fieldStep id =
        fun x => s.sparesAt type x.2 := rfl
    rw [steps_fields hu, steps_fields hu, filter_keeps, hk]
    rw [List.zipIdx_map, List.filter_map, hc, filter_sparesAt, List.map_map]
    conv_lhs => rw [← hz, List.filter_map, List.map_map]
    rfl

end Schema

theorem flatMap_filter {α β : Type} (p : α → Bool) (f : α → List β) (xs : List α) :
    (xs.filter p).flatMap f = xs.flatMap fun x => if p x then f x else [] := by
  induction xs with
  | nil => rfl
  | cons x xs ih =>
    rw [List.filter_cons, List.flatMap_cons, ← ih]
    split
    · rw [List.flatMap_cons]
    · rw [List.nil_append]

/-- What is listed when deprecated fields are skipped: of all that is listed, in the same order,
what no deprecated field leads to. -/
theorem leafPaths_spared (s : Schema) (levels : Nat) (path : List String) (type : String) :
    ((select (s.steps true) levels path type).flatMap fun t => t.ast.leafPaths) =
      ((routes (s.steps false) levels path type).filter (s.spares type)).map Route.path := by
  induction levels generalizing path type with
  | zero => rfl
  | succ levels ih =>
    rw [select_succ, routes]
    split
    · rfl
    · rw [s.steps_true, List.flatMap_map, List.flatMap_assoc, flatMap_filter, List.filter_flatMap,
        List.map_flatMap]
      apply List.flatMap_congr
      rintro ⟨step, i⟩ -
      rw [s.filter_stepRoutes, leafPaths_branch (ih (type :: path)) step i]
      split
      · rfl
      · rfl

/-- What skipping deprecated fields does to the selection from a type, `all` being what is
selected without skipping and `kept` what is selected with it. The routes listed in `all` that go
through no deprecated field are listed in `kept`, and there is no field or fragment that is not on
one of these. -/
structure Skips (s : Schema) (depth : Nat) (path : List String) (level : Int) (type : String)
    (all kept : List Selection) (ways : List Route) : Prop where
  erased : ∀ limit used, (Scope.mk depth true limit).select s path level type used =
    (Scope.mk depth false limit).select s.withoutDeprecated path level type used
  selected : ∀ used, ((Scope.mk depth false none).select s path level type used).1 = .ok all
  skipped : ∀ used, ((Scope.mk depth true none).select s path level type used).1 = .ok kept
  declared : ∀ r ∈ ways, s.Leads type r
  listed : bodyLeafPaths (bodyAst all) = ways.map Route.path
  spared : bodyLeafPaths (bodyAst kept) = (ways.filter (s.spares type)).map Route.path
  opened : ∀ p, p ∈ bodyOpenPaths (bodyAst kept) ↔ p ≠ [] ∧ ∃ r ∈ ways, s.spares type r = true ∧
    p <+: r.labels

theorem skipping_erases (s : Schema) (depth : Nat) (path : List String) (level : Int)
    (type : TypeRef) : ∃ all kept ways, Skips s depth path level type.target all kept ways := by
  let levels := (Scope.mk depth false none).levels level
  have hsteps : s.withoutDeprecated.steps false = s.steps true := funext s.steps_withoutDeprecated
  have hf : ∀ t ∈ select (s.steps true) levels path type.target, t.Full := select_full _ _ _ _
  have hk : bodyLeafPaths (bodyAst (select (s.steps true) levels path type.target)) =
      ((routes (s.steps false) levels path type.target).filter (s.spares type.target)).map
        Route.path := by
    rw [bodyLeafPaths_ast]
    exact leafPaths_spared s levels path type.target
  refine ⟨select (s.steps false) levels path type.target,
    select (s.steps true) levels path type.target,
    routes (s.steps false) levels path type.target, ?_⟩
  exact {
    erased := by
      intro limit used
      rw [Scope.select, Scope.select, hsteps]
      rfl
    selected := fun used => by
      rw [(Scope.mk depth false none).select_free rfl]
      rfl
    skipped := fun used => by
      rw [(Scope.mk depth true none).select_free rfl]
      rfl
    declared := fun r hr => s.leads_of_follows (routes_sound hr).1
    listed := by
      rw [bodyLeafPaths_ast]
      exact leafPaths_select _ _ _ _
    spared := hk
    opened := by
      intro p
      rw [opensOnPaths_body (fun t ht => opensOnPaths (hf t ht)) p, hk]
      simp only [List.mem_map, exists_exists_and_eq_and, Route.path]
      simp only [List.mem_filter, and_assoc] }

end QueryDraft
