import Mathlib.Data.List.Count
import Mathlib.Logic.Relation
import QueryDraft.Proofs.OperationNames
import QueryDraft.Proofs.Outline

namespace QueryDraft

open Selection

def Language.Selection.condition? : Language.Selection → Option String
  | .inline type _ _ => type
  | _ => none

/-- A selection set, with the type that it selects from and the types around it, the
innermost first. -/
structure SelectionSet where
  path : List String
  type : String
  body : List Selection

def RootField.set (root : RootField) (op : Operation) : SelectionSet :=
  ⟨[], root.field.type.target, op.body⟩

namespace Schema

/-- A set opens another for each field and each fragment in it that has one. -/
inductive Opens (s : Schema) : SelectionSet → SelectionSet → Prop where
  | field {set : SelectionSet} {f : Field} {body : List Selection} (hf : f ∈ s.fieldsOf set.type)
      (h : .node (.field f.name) body ∈ set.body) :
      Opens s set ⟨set.type :: set.path, f.type.target, body⟩
  | fragment {set : SelectionSet} {m : String} {body : List Selection}
      (h : .node (.fragment m) body ∈ set.body) :
      Opens s set ⟨set.type :: set.path, m, body⟩

theorem target_of_step {s : Schema} (ho : s.FieldsOnce) {skipDeprecated : Bool} {type : String}
    {f : Field} (hf : f ∈ s.fieldsOf type) {target : String}
    (h : .down (.field f.name) target ∈ s.steps skipDeprecated type) :
    target = f.type.target := by
  obtain ⟨f', hf', he⟩ | ⟨ms, -, m, -, he⟩ := mem_steps h
  · obtain ⟨hl, rfl, -⟩ := fieldStep_eq_down he
    rw [List.inj_on_of_nodup_map (fieldsOf_once ho type) hf hf' (Label.field.inj hl)]
  · cases he

theorem opens_of_step {s : Schema} {skipDeprecated : Bool} {set : SelectionSet} {label : Label}
    {body : List Selection} (hm : .node label body ∈ set.body) {target : String}
    (h : .down label target ∈ s.steps skipDeprecated set.type) :
    s.Opens set ⟨set.type :: set.path, target, body⟩ := by
  obtain ⟨f, hf, he⟩ | ⟨ms, -, m, -, he⟩ := mem_steps h
  · obtain ⟨rfl, rfl, -⟩ := fieldStep_eq_down he
    exact .field hf hm
  · cases he
    exact .fragment hm

theorem member_of_step {s : Schema} {skipDeprecated : Bool} {type m target : String}
    (h : .down (.fragment m) target ∈ s.steps skipDeprecated type) :
    target = m ∧ ∃ ms, s.find? type = some (.union ms) ∧ m ∈ ms := by
  obtain ⟨f, -, he⟩ | ⟨ms, hd, m', hm, he⟩ := mem_steps h
  · cases (fieldStep_eq_down he).1
  · cases he
    exact ⟨rfl, ms, hd, hm⟩

end Schema

theorem members_labelled (below : String → List Selection) (ms : List String) :
    (ms.flatMap fun m => labelled (.fragment m) (below m)) =
      (ms.filter fun m => !(below m).isEmpty).map fun m => .node (.fragment m) (below m) := by
  induction ms with
  | nil => rfl
  | cons m ms ih =>
    rw [List.flatMap_cons, ih, List.filter_cons, labelled]
    cases (below m).isEmpty with
    | true => rfl
    | false => rfl

namespace Scope

variable (scope : Scope) (s : Schema)

def selectionBelow (path : List String) (type : String) : List Selection :=
  scope.selection s path (path.length + 1) type

/-- A set that the walk went on from: it holds what the ways on from its type add. -/
def Walked (set : SelectionSet) : Prop :=
  set.body = (s.steps scope.skipDeprecated set.type).flatMap
    (branch (scope.selectionBelow s (set.type :: set.path)))

variable {scope s} {set set' : SelectionSet} {path : List String} {type : String}

theorem walked (hl : path.length < effectiveDepth scope.depth)
    (hc : closesCycle path type = false) :
    scope.Walked s ⟨path, type, scope.selectionBelow s path type⟩ := by
  have hn : scope.levels (path.length + 1) = scope.levels ((type :: path).length + 1) + 1 := by
    rw [levels, levels, List.length_cons]
    omega
  have hb : scope.selectionBelow s (type :: path) =
      QueryDraft.select (s.steps scope.skipDeprecated) (scope.levels ((type :: path).length + 1))
        (type :: path) := rfl
  rw [Walked, hb, selectionBelow, selection, hn, select_succ, hc]
  rfl

theorem walked_of_ne_nil (hn : scope.selectionBelow s path type ≠ []) :
    scope.Walked s ⟨path, type, scope.selectionBelow s path type⟩ := by
  have hlevels : scope.levels (path.length + 1) = effectiveDepth scope.depth - path.length := by
    rw [levels]
    omega
  rw [selectionBelow, selection, hlevels] at hn
  -- The walk stops where the levels end or a cycle closes, and selects nothing then.
  cases hl : effectiveDepth scope.depth - path.length with
  | zero =>
    rw [hl] at hn
    exact absurd rfl hn
  | succ levels =>
    rw [hl, select_succ] at hn
    refine walked (by omega) ?_
    by_contra hc
    rw [if_pos (by simpa using hc)] at hn
    exact hn rfl

theorem walked_root (scope : Scope) (s : Schema) (root : RootField) :
    scope.Walked s (root.set (scope.drafted s root)) := by
  have hd : 0 < effectiveDepth scope.depth := by
    rw [effectiveDepth]
    split
    · decide
    · omega
  rw [RootField.set, drafted, ← selection_root]
  exact walked hd rfl

namespace Walked

theorem step (h : scope.Walked s set) {label : Label} {body : List Selection}
    (hm : .node label body ∈ set.body) :
    ∃ target, .down label target ∈ s.steps scope.skipDeprecated set.type ∧
      body = scope.selectionBelow s (set.type :: set.path) target ∧ body ≠ [] := by
  rw [h] at hm
  obtain ⟨step, hs, hm⟩ := List.mem_flatMap.mp hm
  obtain ⟨name, -, he⟩ | ⟨_, target, rfl, he, hn⟩ := mem_branch hm
  · cases he
  · cases he
    exact ⟨target, hs, rfl, hn⟩

theorem opens (ho : s.FieldsOnce) (h : scope.Walked s set) (hs : s.Opens set set') :
    scope.Walked s set' := by
  cases hs with
  | field hf hm =>
    obtain ⟨target, hs, rfl, hn⟩ := h.step hm
    obtain rfl := Schema.target_of_step ho hf hs
    exact walked_of_ne_nil hn
  | fragment hm =>
    obtain ⟨target, hs, rfl, hn⟩ := h.step hm
    obtain ⟨rfl, -⟩ := Schema.member_of_step hs
    exact walked_of_ne_nil hn

theorem within (ho : s.FieldsOnce) (h : scope.Walked s set)
    (hr : Relation.ReflTransGen s.Opens set set') : scope.Walked s set' := by
  induction hr with
  | refl => exact h
  | tail _ hs ih => exact ih.opens ho hs

theorem body_union (h : scope.Walked s set) {ms : List String}
    (hu : s.find? set.type = some (.union ms)) :
    set.body = (ms.filter fun m =>
      !(scope.selectionBelow s (set.type :: set.path) m).isEmpty).map fun m =>
      .node (.fragment m) (scope.selectionBelow s (set.type :: set.path) m) := by
  rw [h, Schema.steps_union hu, List.flatMap_map, ← members_labelled]
  rfl

end Walked

end Scope

/-- What a selection set of a union with the members `ms` holds, `below` being the selections
from these. -/
structure MembersListed (scope : Scope) (s : Schema) (set : SelectionSet) (ms : List String)
    (below : String → List Selection) (tree : List Language.Selection) : Prop where
  selected : ∀ m, (scope.select s (set.type :: set.path) (set.path.length + 2) m 0).1 =
    .ok (below m)
  body : set.body = (ms.filter fun m => !(below m).isEmpty).map fun m =>
    .node (.fragment m) (below m)
  read : Language.readSelections (bodyText set.body) = .ok tree
  listed : tree = (ms.filter fun m => !(below m).isEmpty).map fun m =>
    .inline (some m) [] (bodyAst (below m))
  times : ∀ m, (tree.map Language.Selection.condition?).count (some m) =
    if below m = [] then 0 else ms.count m
  once : ∀ m, (tree.map Language.Selection.condition?).count (some m) = 1 ↔
    below m ≠ [] ∧ ms.count m = 1

theorem count_filter_members (below : String → List Selection) (ms : List String) (m : String) :
    (ms.filter fun m => !(below m).isEmpty).count m = if below m = [] then 0 else ms.count m := by
  split
  · next hb =>
    apply List.count_eq_zero.mpr
    simp [hb]
  · next hb => exact List.count_filter (by simpa using hb)

theorem Scope.Walked.members {scope : Scope} (hl : scope.limit = none) {s : Schema}
    (hw : s.WellNamed) {set : SelectionSet} (h : scope.Walked s set) {ms : List String}
    (hu : s.find? set.type = some (.union ms)) :
    ∃ below tree, MembersListed scope s set ms below tree := by
  let below := scope.selectionBelow s (set.type :: set.path)
  let tree : List Language.Selection :=
    (ms.filter fun m => !(below m).isEmpty).map fun m => .inline (some m) [] (bodyAst (below m))
  have hb := h.body_union hu
  have hv : ∀ t ∈ set.body, t.WellNamed := by
    intro t ht
    rw [hb] at ht
    obtain ⟨m, hm, rfl⟩ := List.mem_map.mp ht
    exact .node ((Schema.wellNamed_of_find? hw hu).2 m (List.mem_filter.mp hm).1)
      (select_wellNamed (Schema.steps_isValid hw scope.skipDeprecated) _ _ _)
  have ht : bodyAst set.body = tree := by
    rw [hb, bodyAst_eq, List.map_map]
    rfl
  have hc : ∀ m, (tree.map Language.Selection.condition?).count (some m) =
      if below m = [] then 0 else ms.count m := by
    intro m
    have hm : tree.map Language.Selection.condition? =
        (ms.filter fun m => !(below m).isEmpty).map some := List.map_map
    rw [hm, List.count_map_of_injective _ _ (fun _ _ he => Option.some.inj he),
      count_filter_members]
  refine ⟨below, tree, ?_, hb, ?_, rfl, hc, ?_⟩
  · intro m
    have hlevel : (set.path.length : Int) + 2 = ((set.type :: set.path).length : Nat) + 1 := by
      rw [List.length_cons]
      omega
    rw [scope.select_free hl, hlevel]
    rfl
  · rw [readSelections_bodyText hv, ht]
  · intro m
    rw [hc m]
    split
    · next hn => simp [hn]
    · next hn => simp [hn]

/-- The selection sets of a document, each opened by a field or a fragment in another. A set of a
union has a fragment on a member for each time that the union lists it, if there is something to
select from the member, and nothing else. There are no fragments in other sets. -/
structure UnionsListed (o : Options) (s : Schema) (depth : Nat)
    (operations : RootField → Operation) : Prop where
  built : ∀ root ∈ s.roots, Built ⟨depth, o.skipDeprecated, none⟩ s root (operations root)
  assembled : (o.assemble s (fun _ => false) depth false 0).1 = .ok (s.document operations)
  only : ∀ memory limited begun raw n, o.assemble s memory depth limited begun = (.ok raw, n) →
    raw = s.document operations
  opened : ∀ root ∈ s.roots, ∀ set, Relation.ReflTransGen s.Opens (root.set (operations root)) set →
    ∀ label body, .node label body ∈ set.body →
    ∃ type, s.Opens set ⟨set.type :: set.path, type, body⟩
  members : ∀ root ∈ s.roots, ∀ set,
    Relation.ReflTransGen s.Opens (root.set (operations root)) set →
    ∀ ms, s.find? set.type = some (.union ms) →
      ∃ below tree, MembersListed ⟨depth, o.skipDeprecated, none⟩ s set ms below tree
  fragments : ∀ root ∈ s.roots, ∀ set,
    Relation.ReflTransGen s.Opens (root.set (operations root)) set →
    ∀ m body, .node (.fragment m) body ∈ set.body →
    ∃ ms, s.find? set.type = some (.union ms) ∧ m ∈ ms

theorem members_selected {payload : Json} {s : Schema} (h : Schema.ofPayload payload = .ok s)
    (o : Options) (depth : Nat) : ∃ operations, UnionsListed o s depth operations := by
  have hw := Schema.wellNamed_ofPayload h
  have hn := Schema.rootsNamed_of_wellNamed hw
  have ho := Schema.fieldsOnce_ofPayload h
  let scope : Scope := ⟨depth, o.skipDeprecated, none⟩
  have hs : ∀ (root : RootField) set,
      Relation.ReflTransGen s.Opens (root.set (scope.drafted s root)) set →
      scope.Walked s set := fun root _ hr => (scope.walked_root s root).within ho hr
  refine ⟨scope.drafted s, ?_⟩
  exact {
    built := fun root hm => scope.drafted_built hn rfl hm
    assembled := o.assemble_document hn depth
    only := fun _ _ _ _ _ ha => o.assembled_eq hn ha
    opened := by
      intro root _ set hr label body hm
      obtain ⟨target, hstep, -⟩ := (hs root set hr).step hm
      exact ⟨target, Schema.opens_of_step hm hstep⟩
    members := fun root _ set hr ms hu => (hs root set hr).members rfl hw hu
    fragments := by
      intro root _ set hr m body hm
      obtain ⟨target, hstep, -⟩ := (hs root set hr).step hm
      exact (Schema.member_of_step hstep).2 }

theorem members_selected_answer :
    Schema.ofPayload Sample.answer = .ok Sample.schema ∧
      Sample.schema.find? "Found" = some (.union ["Person", "on", "Person"]) ∧
      ∃ operations, UnionsListed .default Sample.schema 7 operations :=
  ⟨Sample.ofPayload_answer, by rfl, members_selected Sample.ofPayload_answer .default 7⟩

namespace Sample

def pairAnswer : Json := .obj [("__schema", .obj [
  ("queryType", named "Query"),
  ("types", .arr [scalar "String",
    object "Query" [field "s" (named "S") []],
    object "A" [field "x" (named "String") []],
    union "S" [named "A", named "A"]])])]

def pairSchema : Schema := ⟨Introspection.complete [("String", .scalar),
  ("Query", .object [⟨"s", .named "S", [], false⟩]),
  ("A", .object [⟨"x", .named "String", [], false⟩]), ("S", .union ["A", "A"])], some "Query", none⟩

theorem ofPayload_pairAnswer : Schema.ofPayload pairAnswer = .ok pairSchema := by rfl

end Sample

theorem repeated_member_selected_twice :
    Schema.ofPayload Sample.pairAnswer = .ok Sample.pairSchema ∧
      (Options.default.assemble Sample.pairSchema (fun _ => false) 7 false 0).1 =
        .ok ("query GetS \x7b\n  s \x7b\n    ... on A \x7b x \x7d\n".toList ++
          "    ... on A \x7b x \x7d\n  \x7d\n\x7d\n\n".toList) ∧
      Sample.pairSchema.find? "S" = some (.union ["A", "A"]) ∧
      ((Scope.mk 7 false none).select Sample.pairSchema ["S"] 2 "A" 0).1.toOption.map bodyText =
        some "x".toList ∧
      ∃ body tree,
        ((Scope.mk 7 false none).select Sample.pairSchema [] rootLevel "S" 0).1 = .ok body ∧
        Language.readSelections (bodyText body) = .ok tree ∧
        (tree.map Language.Selection.condition?).count (some "A") = 2 := by
  refine ⟨Sample.ofPayload_pairAnswer, by rfl, by rfl, by rfl, _, _, rfl, rfl, by decide +kernel⟩

end QueryDraft
