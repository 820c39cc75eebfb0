import QueryDraft.Document.Draft
import QueryDraft.Proofs.Names
import QueryDraft.Proofs.Walk

namespace QueryDraft

open Selection

namespace Schema

theorem wellNamed_of_find? {s : Schema} (h : s.WellNamed) {name : String} {d : TypeDef}
    (hd : s.find? name = some d) : d.WellNamed := by
  obtain ⟨l₁, l₂, hl, -⟩ := List.lookup_eq_some_iff.mp hd
  exact h (name, d) (by rw [hl]; simp)

theorem wellNamed_fieldsOf {s : Schema} (h : s.WellNamed) {type : String} :
    ∀ f ∈ s.fieldsOf type, f.WellNamed := by
  intro f hf
  cases hd : s.find? type with
  | none => simp [fieldsOf, hd] at hf
  | some d => exact (wellNamed_of_find? h hd).1 f (by simpa [fieldsOf, hd] using hf)

theorem wellNamed_rootFields {s : Schema} (h : s.WellNamed) (root : Option String) :
    ∀ f ∈ s.rootFields root, f.WellNamed := by
  cases root with
  | none => simp [rootFields]
  | some name => exact wellNamed_fieldsOf h

theorem wellNamed_roots {s : Schema} (h : s.WellNamed) :
    ∀ root ∈ s.roots, root.field.WellNamed := by
  intro root hr
  obtain hr | hr := List.mem_append.mp hr
  all_goals
    obtain ⟨f, hf, rfl⟩ := List.mem_map.mp hr
    exact wellNamed_rootFields h _ f hf

def RootsNamed (s : Schema) : Prop := ∀ root ∈ s.roots, root.field.name ≠ ""

theorem rootsNamed_of_wellNamed {s : Schema} (h : s.WellNamed) : s.RootsNamed := by
  intro root hr he
  have hv := (wellNamed_roots h root hr).1
  rw [he] at hv
  exact absurd hv (by decide)

end Schema

def OperationKind.operationName (kind : OperationKind) (field : String) : String :=
  (kind.operationName? field).getD ""

theorem OperationKind.operationName?_eq_some (kind : OperationKind) {field : String}
    (h : field ≠ "") : kind.operationName? field = some (kind.operationName field) := by
  rw [operationName, operationName?]
  cases hf : field.toList with
  | nil => exact absurd (String.toList_eq_nil_iff.mp hf) h
  | cons c rest => rfl

namespace Scope

def drafted (scope : Scope) (schema : Schema) (root : RootField) : Operation :=
  ⟨root.kind, root.kind.operationName root.field.name, root.field.name, root.field.args,
    scope.body schema root.field.type.target⟩

theorem operation_root (scope : Scope) (schema : Schema) (root : RootField)
    (h : root.field.name ≠ "") (used : Nat) :
    (∃ total, scope.operation schema root.kind root.field.name root.field used =
        (.ok (scope.drafted schema root), total)) ∨
      ∃ total, scope.operation schema root.kind root.field.name root.field used =
        (.error (.tooLarge scope.tooLarge), total) ∧ scope.limit ≠ none := by
  rw [operation]
  rw [root.kind.operationName?_eq_some h]
  obtain hs | ⟨total, hs, hl⟩ := scope.select_root schema root.field.type.target used
  · simp only [hs]
    exact .inl ⟨_, rfl⟩
  · simp only [hs]
    exact .inr ⟨total, rfl, hl⟩

def texts (scope : Scope) (schema : Schema) (roots : List RootField) : List (List Char) :=
  roots.map fun root => (scope.drafted schema root).paragraph

/-- Why an assembly may fail: operations ran out of memory, or there is a limit. -/
def Failure (scope : Scope) (faults : MemoryFaults) (cause : TooLarge) : Prop :=
  (cause = .memory scope.depth ∧ ∃ i, faults i = true) ∨
    (cause = scope.tooLarge ∧ scope.limit ≠ none)

theorem paragraphs_outcome (scope : Scope) (schema : Schema) (faults : MemoryFaults)
    (roots : List RootField) (h : ∀ root ∈ roots, root.field.name ≠ "") (begun used size : Nat) :
    (∃ n,
      scope.paragraphs schema faults roots begun used size = (.ok (scope.texts schema roots), n) ∧
      (roots ≠ [] →
        exceeds scope.limit (size + (scope.texts schema roots).flatten.length) = false)) ∨
    ∃ cause n,
      scope.paragraphs schema faults roots begun used size = (.error (.tooLarge cause), n) ∧
      scope.Failure faults cause := by
  induction roots generalizing begun used size with
  | nil => exact .inl ⟨begun, rfl, fun hn => absurd rfl hn⟩
  | cons root rest ih =>
    have hr : ∀ r ∈ rest, r.field.name ≠ "" := fun r hm => h r (List.mem_cons_of_mem root hm)
    rw [paragraphs]
    by_cases hf : faults begun = true
    · rw [if_pos hf]
      exact .inr ⟨.memory scope.depth, begun + 1, rfl, .inl ⟨rfl, begun, hf⟩⟩
    · rw [if_neg hf]
      obtain ⟨total, ho⟩ | ⟨total, ho, hl⟩ :=
        scope.operation_root schema root (h root List.mem_cons_self) used
      · simp only [ho]
        by_cases he :
            exceeds scope.limit (size + (scope.drafted schema root).paragraph.length) = true
        · rw [if_pos he]
          refine .inr ⟨scope.tooLarge, begun + 1, rfl, .inr ⟨rfl, fun hn => ?_⟩⟩
          rw [hn] at he
          cases he
        · rw [if_neg he]
          obtain ⟨n, hp, hx⟩ | ⟨cause, n, hp, hc⟩ :=
            ih hr (begun + 1) total (size + (scope.drafted schema root).paragraph.length)
          · rw [hp]
            refine .inl ⟨n, rfl, fun _ => ?_⟩
            simp only [texts, List.map_cons, List.flatten_cons, List.length_append, ← Nat.add_assoc]
            cases rest with
            | nil => simpa using he
            | cons r rest => exact hx (by simp)
          · rw [hp]
            exact .inr ⟨cause, n, rfl, hc⟩
      · simp only [ho]
        exact .inr ⟨scope.tooLarge, begun + 1, rfl, .inr ⟨rfl, hl⟩⟩

theorem operation_drafted {schema : Schema} (hn : schema.RootsNamed) (scope : Scope)
    (hl : scope.limit = none) {root : RootField} (hr : root ∈ schema.roots) :
    (scope.operation schema root.kind root.field.name root.field 0).1 =
      .ok (scope.drafted schema root) := by
  obtain ⟨total, ho⟩ | ⟨total, -, hn⟩ := scope.operation_root schema root (hn root hr) 0
  · rw [ho]
  · exact absurd hl hn

end Scope

def Schema.document (schema : Schema) (operations : RootField → Operation) : List Char :=
  schema.roots.flatMap fun root => (operations root).paragraph

namespace Options

/-- The document at a depth, however much room there is. -/
def plainText (o : Options) (schema : Schema) (depth : Nat) : List Char :=
  ((Scope.mk depth o.skipDeprecated none).texts schema schema.roots).flatten

theorem assemble_outcome (o : Options) {schema : Schema} (h : schema.RootsNamed)
    (memory : MemoryFaults) {depth : Int} (hd : 0 ≤ depth) (limited : Bool) (begun : Nat) :
    (∃ n, o.assemble schema memory depth limited begun = (.ok (o.plainText schema depth.toNat), n) ∧
        (limited = true → schema.roots ≠ [] →
          (o.plainText schema depth.toNat).length ≤ o.maxOutputSize)) ∨
      ∃ cause n, o.assemble schema memory depth limited begun = (.error (.tooLarge cause), n) ∧
        (limited = false → cause = .memory depth.toNat ∧ ∃ i, memory i = true) := by
  have hn : ¬ depth < 0 := by omega
  rw [assemble]
  simp only [if_neg hn, Scope.assemble]
  obtain ⟨n, hp, hx⟩ | ⟨cause, n, hp, hc⟩ :=
    Scope.paragraphs_outcome
      ⟨depth.toNat, o.skipDeprecated, if limited then some o.maxOutputSize else none⟩ schema
      memory schema.roots h begun 0 0
  · rw [hp]
    refine .inl ⟨n, rfl, fun hl hr => ?_⟩
    have hx := hx hr
    simp only [hl, if_true, exceeds, Option.any_some, Nat.zero_add, decide_eq_false_iff_not] at hx
    exact Int.not_lt.mp hx
  · rw [hp]
    refine .inr ⟨cause, n, rfl, fun hl => ?_⟩
    obtain hc | ⟨-, hc⟩ := hc
    · exact hc
    · simp [hl] at hc

theorem assemble_plainText (o : Options) {schema : Schema} (h : schema.RootsNamed) {depth : Int}
    (hd : 0 ≤ depth) (begun : Nat) :
    (o.assemble schema (fun _ => false) depth false begun).1 =
      .ok (o.plainText schema depth.toNat) := by
  obtain ⟨n, ha, -⟩ | ⟨cause, n, -, hc⟩ := o.assemble_outcome h (fun _ => false) hd false begun
  · rw [ha]
  · obtain ⟨-, i, hi⟩ := hc rfl
    cases hi

theorem plainText_eq (o : Options) (schema : Schema) (depth : Nat) :
    o.plainText schema depth =
      schema.document ((Scope.mk depth o.skipDeprecated none).drafted schema) := by
  rw [plainText, Scope.texts, Schema.document, List.flatMap_def]

theorem assembled_eq {schema : Schema} (hn : schema.RootsNamed) (o : Options)
    {memory : MemoryFaults} {depth : Nat} {limited : Bool} {begun n : Nat} {raw : List Char}
    (h : o.assemble schema memory depth limited begun = (.ok raw, n)) :
    raw = schema.document ((Scope.mk depth o.skipDeprecated none).drafted schema) := by
  obtain ⟨n', ha, -⟩ | ⟨cause, n', ha, -⟩ :=
    o.assemble_outcome hn memory (Int.natCast_nonneg depth) limited begun
  · rw [ha, Int.toNat_natCast, plainText_eq] at h
    cases h
    rfl
  · rw [ha] at h
    cases h

theorem assemble_document {schema : Schema} (hn : schema.RootsNamed) (o : Options) (depth : Nat) :
    (o.assemble schema (fun _ => false) depth false 0).1 =
      .ok (schema.document ((Scope.mk depth o.skipDeprecated none).drafted schema)) := by
  rw [o.assemble_plainText hn (Int.natCast_nonneg depth) 0, Int.toNat_natCast, plainText_eq]

end Options

end QueryDraft
