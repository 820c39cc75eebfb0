import Mathlib.Data.List.Forall2
import QueryDraft.Proofs.Cycles
import QueryDraft.Proofs.Recovery

namespace QueryDraft

def Argument.shown (a : Argument) : String × List Char := (a.name, a.type.text)

namespace Schema

variable (s s' : Schema)

/-- Types that count as the same: leaf types, whatever their names, or a type under one name that is
no leaf in either schema. -/
def SameType (type type' : String) : Prop :=
  (s.isLeaf type = true ∧ s'.isLeaf type' = true) ∨
    (s.isLeaf type = false ∧ s'.isLeaf type' = false ∧ type = type')

structure SameField (f f' : Field) : Prop where
  name : f.name = f'.name
  deprecated : f.deprecated = f'.deprecated
  type : s.SameType s' f.type.target f'.type.target

inductive SameDef : TypeDef → TypeDef → Prop where
  | object {fs fs' : List Field} (h : List.Forall₂ (s.SameField s') fs fs') :
      SameDef (.object fs) (.object fs')
  | interface {fs fs' : List Field} (h : List.Forall₂ (s.SameField s') fs fs') :
      SameDef (.interface fs) (.interface fs')
  | union (ms : List String) : SameDef (.union ms) (.union ms)

structure SameRoot (r r' : RootField) : Prop where
  kind : r.kind = r'.kind
  name : r.field.name = r'.field.name
  args : r.field.args.map Argument.shown = r'.field.args.map Argument.shown
  type : s.SameType s' r.field.type.target r'.field.type.target

/-- The types that root fields lead to. Where a field has a leaf type the way ends. -/
inductive Reaches : String → Prop where
  | root {r : RootField} (h : r ∈ s.roots) (hl : s.isLeaf r.field.type.target = false) :
      Reaches r.field.type.target
  | field {type : String} {f : Field} (ht : Reaches type) (h : f ∈ s.fieldsOf type)
      (hl : s.isLeaf f.type.target = false) : Reaches f.type.target
  | member {type m : String} {ms : List String} (ht : Reaches type)
      (h : s.find? type = some (.union ms))
      (hm : m ∈ ms) : Reaches m

/-- The same root fields, and the same composite types wherever these lead. -/
structure AgreesFromRoots : Prop where
  roots : List.Forall₂ (s.SameRoot s') s.roots s'.roots
  types : ∀ type, s.Reaches type → s.isComposite type = true ∨ s'.isComposite type = true →
    ∃ d d', s.find? type = some d ∧ s'.find? type = some d' ∧ s.SameDef s' d d'

variable {s s'}

theorem steps_eq_nil {type : String} (h : s.isComposite type = false) (skipDeprecated : Bool) :
    s.steps skipDeprecated type = [] := by
  apply List.eq_nil_iff_forall_not_mem.mpr
  intro step hs
  rw [isComposite_of_step hs] at h
  cases h

theorem isComposite_of_isLeaf {type : String} (h : s.isLeaf type = true) :
    s.isComposite type = false := by
  rw [isLeaf] at h
  rw [isComposite]
  cases hd : s.find? type with
  | none => rfl
  | some d =>
    rw [hd] at h
    cases d with
    | scalar | enum => rfl
    | object fs | interface fs | union ms | inputObject => cases h

theorem Reaches.step {type : String} {skipDeprecated : Bool} {label : Label} {target : String}
    (ht : s.Reaches type) (h : .down label target ∈ s.steps skipDeprecated type) :
    s.Reaches target := by
  obtain ⟨f, hf, he⟩ | ⟨ms, hd, m, hm, he⟩ := mem_steps h
  · obtain ⟨-, rfl, hl⟩ := fieldStep_eq_down he
    exact .field ht hf hl
  · cases he
    exact .member ht hd hm

theorem Reaches.mem {types : List String}
    (roots : ∀ r ∈ s.roots, s.isLeaf r.field.type.target = false → r.field.type.target ∈ types)
    (fields : ∀ type ∈ types, ∀ f ∈ s.fieldsOf type, s.isLeaf f.type.target = false →
      f.type.target ∈ types)
    (members : ∀ type ∈ types, ∀ m ∈ ((s.find? type).map TypeDef.members).getD [], m ∈ types)
    {type : String} (h : s.Reaches type) : type ∈ types := by
  induction h with
  | root hr hl => exact roots _ hr hl
  | field _ hf hl ih => exact fields _ ih _ hf hl
  | member _ hd hm ih => exact members _ ih _ (by rw [hd]; exact hm)

theorem fieldStep_same {f f' : Field} (h : s.SameField s' f f') :
    s.fieldStep f = s'.fieldStep f' := by
  obtain ⟨hl, hl'⟩ | ⟨hl, hl', ht⟩ := h.type
  · rw [fieldStep, fieldStep, if_pos hl, if_pos hl', h.name]
  · rw [fieldStep, fieldStep, hl, hl', h.name, ht]

theorem fieldSteps_same {fs fs' : List Field} (h : List.Forall₂ (s.SameField s') fs fs')
    (skipDeprecated : Bool) :
    (fs.filter (keeps skipDeprecated)).map s.fieldStep =
      (fs'.filter (keeps skipDeprecated)).map s'.fieldStep := by
  induction h with
  | nil => rfl
  | @cons f f' fs fs' hf _ ih =>
    have hk : keeps skipDeprecated f = keeps skipDeprecated f' := by
      rw [keeps, keeps, hf.deprecated]
    rw [List.filter_cons, List.filter_cons, hk]
    split
    · rw [List.map_cons, List.map_cons, fieldStep_same hf, ih]
    · exact ih

theorem AgreesFromRoots.steps_same (h : s.AgreesFromRoots s') {type : String} (ht : s.Reaches type)
    (skipDeprecated : Bool) : s.steps skipDeprecated type = s'.steps skipDeprecated type := by
  by_cases hc : s.isComposite type = true ∨ s'.isComposite type = true
  · obtain ⟨d, d', hd, hd', hs⟩ := h.types type ht hc
    rw [steps, steps, hd, hd']
    cases hs with
    | object hf => exact fieldSteps_same hf skipDeprecated
    | interface hf => exact fieldSteps_same hf skipDeprecated
    | union ms => rfl
  · have hn : s.isComposite type = false ∧ s'.isComposite type = false := by simpa using hc
    rw [steps_eq_nil hn.1, steps_eq_nil hn.2]

end Schema

theorem selectWithin_of_nil {steps : String → List Step} {type : String} (h : steps type = [])
    (limit : Option Int) (levels : Nat) (path : List String) :
    selectWithin limit steps levels path type = pure [] := by
  cases levels with
  | zero => rfl
  | succ levels =>
    rw [selectWithin, h]
    split
    · rfl
    · rfl

/-- Where the steps agree on the types that a walk can come to, the walk is the same, and so is
what it pays. -/
theorem selectWithin_congr {steps steps' : String → List Step} {P : String → Prop}
    (agree : ∀ type, P type → steps type = steps' type)
    (closed : ∀ type label target, P type → .down label target ∈ steps type → P target)
    (limit : Option Int) (levels : Nat) (path : List String) {type : String} (ht : P type) :
    selectWithin limit steps levels path type = selectWithin limit steps' levels path type := by
  induction levels generalizing path type with
  | zero => rfl
  | succ levels ih =>
    rw [selectWithin, selectWithin, ← agree type ht]
    split
    · rfl
    · congr 1
      apply Outcome.mapM_congr
      intro step hs
      cases step with
      | leaf name => rfl
      | down label target => simp only [ih (type :: path) (closed type label target ht hs)]

namespace Scope

variable {s s' : Schema} (scope : Scope) {r r' : RootField}

theorem select_same (h : s.AgreesFromRoots s') (hr : r ∈ s.roots) (hs : s.SameRoot s' r r')
    (used : Nat) :
    scope.select s [] rootLevel r.field.type.target used =
      scope.select s' [] rootLevel r'.field.type.target used := by
  rw [Scope.select, Scope.select]
  obtain ⟨hl, hl'⟩ | ⟨hl, -, ht⟩ := hs.type
  · rw [selectWithin_of_nil (Schema.steps_eq_nil (Schema.isComposite_of_isLeaf hl) _),
      selectWithin_of_nil (Schema.steps_eq_nil (Schema.isComposite_of_isLeaf hl') _)]
  · rw [← ht, selectWithin_congr (P := s.Reaches) (fun type ht => h.steps_same ht _)
      (fun _ _ _ => .step) _ _ _ (.root hr hl)]

end Scope

theorem Operation.paragraph_same {op op' : Operation} (hk : op.kind = op'.kind)
    (hn : op.name = op'.name) (hf : op.field = op'.field)
    (ha : op.args.map Argument.shown = op'.args.map Argument.shown) (hb : op.body = op'.body) :
    op.paragraph = op'.paragraph := by
  have hd : declaration =
      (fun x : String × List Char => '$' :: x.1.toList ++ ':' :: ' ' :: x.2) ∘ Argument.shown := rfl
  have hu : use =
      (fun x : String × List Char => x.1.toList ++ ':' :: ' ' :: '$' :: x.1.toList) ∘
        Argument.shown := rfl
  have hdecl : op.args.map declaration = op'.args.map declaration := by
    rw [hd, ← List.map_map, ha, List.map_map]
  have huse : op.args.map use = op'.args.map use := by
    rw [hu, ← List.map_map, ha, List.map_map]
  rw [paragraph, paragraph, text, text, hk, hn, hf, hb, hdecl, huse]

namespace Scope

variable {s s' : Schema} (scope : Scope) {r r' : RootField}

theorem operation_same (h : s.AgreesFromRoots s') (hr : r ∈ s.roots) (hs : s.SameRoot s' r r')
    (used : Nat) :
    (∃ e total, scope.operation s r.kind r.field.name r.field used = (.error e, total) ∧
      scope.operation s' r'.kind r'.field.name r'.field used = (.error e, total)) ∨
    ∃ op op' total, scope.operation s r.kind r.field.name r.field used = (.ok op, total) ∧
      scope.operation s' r'.kind r'.field.name r'.field used = (.ok op', total) ∧
      op.paragraph = op'.paragraph := by
  rw [operation, operation, ← hs.kind, ← hs.name]
  cases r.kind.operationName? r.field.name with
  | none => exact .inl ⟨_, _, rfl, rfl⟩
  | some name =>
    simp only [← scope.select_same h hr hs used]
    cases hsel : scope.select s [] rootLevel r.field.type.target used with
    | mk outcome total =>
      cases outcome with
      | error cause => exact .inl ⟨_, _, rfl, rfl⟩
      | ok body => exact .inr ⟨_, _, _, rfl, rfl, Operation.paragraph_same rfl rfl rfl hs.args rfl⟩

theorem paragraphs_same (h : s.AgreesFromRoots s') (faults : MemoryFaults)
    {roots roots' : List RootField} (hm : ∀ r ∈ roots, r ∈ s.roots)
    (hs : List.Forall₂ (s.SameRoot s') roots roots') (begun used size : Nat) :
    scope.paragraphs s faults roots begun used size =
      scope.paragraphs s' faults roots' begun used size := by
  induction hs generalizing begun used size with
  | nil => rfl
  | @cons r r' rest rest' hr _ ih =>
    have ih := ih fun r hm' => hm r (List.mem_cons_of_mem _ hm')
    rw [paragraphs, paragraphs]
    split
    · rfl
    · obtain ⟨e, total, ho, ho'⟩ | ⟨op, op', total, ho, ho', ht⟩ :=
        scope.operation_same h (hm r List.mem_cons_self) hr used
      · rw [ho, ho']
      · simp only [ho, ho', ht, ih]

end Scope

namespace Options

variable {s s' : Schema} (o : Options) (h : s.AgreesFromRoots s')

include h

theorem assemble_same (memory : MemoryFaults) (depth : Int) (limited : Bool) (begun : Nat) :
    o.assemble s memory depth limited begun = o.assemble s' memory depth limited begun := by
  rw [assemble, assemble]
  simp only [Scope.assemble, Scope.paragraphs_same _ h memory (fun _ hr => hr) h.roots]

theorem finish_same (faults : Faults) (depth : Int) (warnings : List Warning) (raw : List Char) :
    o.finish s faults depth warnings raw = o.finish s' faults depth warnings raw := by
  rw [finish, finish, h.roots.length_eq]

theorem unlimited_same (faults : Faults) (depth : Int) (warnings : List Warning) (cause : TooLarge)
    (begun : Nat) :
    o.unlimited s faults depth warnings cause begun =
      o.unlimited s' faults depth warnings cause begun := by
  rw [unlimited, unlimited, o.assemble_same h, h.roots.length_eq]

theorem retry_same (faults : Faults) (cause : TooLarge) (begun : Nat) :
    o.retry s faults cause begun = o.retry s' faults cause begun := by
  simp only [retry, o.unlimited_same h, o.assemble_same h, o.finish_same h]

theorem drafting_same (faults : Faults) : o.drafting s faults = o.drafting s' faults := by
  simp only [drafting, o.retry_same h, o.assemble_same h, o.finish_same h]

end Options

/-- What a schema has beside its root fields and the types that these lead to makes no difference:
not to the draft, nor to the attempts made for it, whatever goes wrong. -/
theorem draft_reachable (s s' : Schema) (h : s.AgreesFromRoots s') (o : Options) (faults : Faults) :
    o.draft s faults = o.draft s' faults ∧ o.attempts s faults = o.attempts s' faults := by
  rw [Options.draft, Options.draft, Options.attempts, Options.attempts, o.drafting_same h faults]
  exact ⟨rfl, rfl⟩

namespace Sample

def oldField (name : String) (type reason : Json) : Json :=
  .obj [("name", .str name), ("type", type), ("args", .arr []), ("deprecationReason", reason)]

def plainAnswer : Json := .obj [("__schema", .obj [
  ("queryType", named "Query"),
  ("types", .arr [scalar "String",
    object "Query" [field "user" (named "User") [argument "id" (named "String")]],
    object "User" [field "name" (named "String") [], oldField "nick" (named "String") (.str "long"),
      field "friends" (list (named "User")) [], field "found" (named "Found") []],
    object "Group" [field "title" (named "String") []],
    union "Found" [named "User", named "Group"]])])]

/-- The same from the root on. There are a further type and a subscription, the types come in
another order, leaf types have other names, output types other layers and fields arguments, and the
reason against the old field is another. -/
def dressedAnswer : Json := .obj [("__schema", .obj [
  ("queryType", named "Query"),
  ("subscriptionType", named "Extra"),
  ("types", .arr [union "Found" [named "User", named "Group"],
    object "Group" [field "title" (nonNull (scalar "ID")) []],
    object "Extra" [field "group" (named "Group") []],
    object "User" [field "name" (nonNull (named "ID")) [argument "short" (named "Boolean")],
      oldField "nick" (list (named "Boolean")) (.int 1),
      field "friends" (nonNull (list (named "User"))) [],
      field "found" (list (named "Found")) [argument "text" (named "String")]],
    object "Query" [field "user" (nonNull (named "User")) [argument "id" (named "String")]],
    scalar "Boolean", scalar "ID", scalar "String"])])]

def plainSchema : Schema := ⟨Introspection.complete [("String", .scalar),
  ("Query", .object [⟨"user", .named "User", [⟨"id", .named "String"⟩], false⟩]),
  ("User", .object [⟨"name", .named "String", [], false⟩, ⟨"nick", .named "String", [], true⟩,
    ⟨"friends", .list (.named "User"), [], false⟩, ⟨"found", .named "Found", [], false⟩]),
  ("Group", .object [⟨"title", .named "String", [], false⟩]),
  ("Found", .union ["User", "Group"])], some "Query", none⟩

def dressedSchema : Schema := ⟨Introspection.complete [("Found", .union ["User", "Group"]),
  ("Group", .object [⟨"title", .nonNull (.named "ID"), [], false⟩]),
  ("Extra", .object [⟨"group", .named "Group", [], false⟩]),
  ("User", .object [⟨"name", .nonNull (.named "ID"), [⟨"short", .named "Boolean"⟩], false⟩,
    ⟨"nick", .list (.named "Boolean"), [], true⟩,
    ⟨"friends", .nonNull (.list (.named "User")), [], false⟩,
    ⟨"found", .list (.named "Found"), [⟨"text", .named "String"⟩], false⟩]),
  ("Query", .object [⟨"user", .nonNull (.named "User"), [⟨"id", .named "String"⟩], false⟩]),
  ("Boolean", .scalar), ("ID", .scalar), ("String", .scalar)], some "Query", none⟩

theorem ofPayload_plainAnswer : Schema.ofPayload plainAnswer = .ok plainSchema := by rfl

theorem ofPayload_dressedAnswer : Schema.ofPayload dressedAnswer = .ok dressedSchema := by rfl

theorem plainSchema_reaches {type : String} (h : plainSchema.Reaches type) :
    type ∈ ["User", "Found", "Group"] :=
  h.mem (by decide +kernel) (by decide +kernel) (by decide +kernel)

theorem plainSchema_agrees : plainSchema.AgreesFromRoots dressedSchema where
  roots := .cons ⟨rfl, rfl, rfl, .inr ⟨by rfl, by rfl, rfl⟩⟩ .nil
  types := by
    have hleaf : ∀ {type type' : String}, plainSchema.isLeaf type = true →
        dressedSchema.isLeaf type' = true →
        plainSchema.SameType dressedSchema type type' := fun hl hl' => .inl ⟨hl, hl'⟩
    intro type ht hc
    have hm := plainSchema_reaches ht
    simp only [List.mem_cons, List.not_mem_nil, or_false] at hm
    obtain rfl | rfl | rfl := hm
    · exact ⟨_, _, rfl, rfl,
        .object (.cons ⟨rfl, rfl, hleaf (by rfl) (by rfl)⟩
          (.cons ⟨rfl, rfl, hleaf (by rfl) (by rfl)⟩
            (.cons ⟨rfl, rfl, .inr ⟨by rfl, by rfl, rfl⟩⟩
              (.cons ⟨rfl, rfl, .inr ⟨by rfl, by rfl, rfl⟩⟩ .nil))))⟩
    · exact ⟨_, _, rfl, rfl, .union _⟩
    · exact ⟨_, _, rfl, rfl, .object (.cons ⟨rfl, rfl, hleaf (by rfl) (by rfl)⟩ .nil)⟩

end Sample

/-- The second attempt is too large as well, and the last one makes do without a limit. -/
theorem draft_reachable_dressed :
    let o : Options := ⟨7, 2, 10, true, true⟩
    Schema.ofPayload Sample.plainAnswer = .ok Sample.plainSchema ∧
      Schema.ofPayload Sample.dressedAnswer = .ok Sample.dressedSchema ∧
      Sample.plainSchema.types ≠ Sample.dressedSchema.types ∧
      Sample.plainSchema.AgreesFromRoots Sample.dressedSchema ∧
      (o.attempts Sample.plainSchema Faults.none).length = 3 ∧
      o.draft Sample.plainSchema Faults.none = o.draft Sample.dressedSchema Faults.none ∧
      o.attempts Sample.plainSchema Faults.none = o.attempts Sample.dressedSchema Faults.none := by
  intro o
  exact ⟨Sample.ofPayload_plainAnswer, Sample.ofPayload_dressedAnswer, by decide +kernel,
    Sample.plainSchema_agrees, by rfl,
    draft_reachable Sample.plainSchema Sample.dressedSchema Sample.plainSchema_agrees o Faults.none⟩

end QueryDraft
