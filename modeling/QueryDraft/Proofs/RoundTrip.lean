import QueryDraft.Proofs.Reading
import QueryDraft.Proofs.Recovery

namespace QueryDraft

open QueryDraft.Language (Scans)
open QueryDraft.Language.Parser (Reads nesting)

namespace Schema

variable {s : Schema}

def Fits (s : Schema) (operations : RootField → Operation) : Prop :=
  ∀ root ∈ s.roots, (operations root).Fits nesting

theorem document_scans {operations : RootField → Operation}
    (h : ∀ root ∈ s.roots, (operations root).WellNamed) :
    Scans (s.document operations) ((s.roots.map operations).flatMap Operation.lexemes) := by
  have hw : ∀ op ∈ s.roots.map operations, op.WellNamed := by simpa using h
  have hs := Operation.paragraphs_scan hw
  rwa [List.flatMap_map] at hs

theorem document_reads {operations : RootField → Operation}
    (h : ∀ root ∈ s.roots, (operations root).WellNamed) (hn : s.roots ≠ []) :
    Reads (s.Fits operations)
      (Language.Parser.document ((s.roots.map operations).flatMap Operation.lexemes))
      (s.roots.map fun root => (operations root).ast) := by
  have hw : ∀ op ∈ s.roots.map operations, op.WellNamed := by simpa using h
  have hr := Language.Parser.document_reads hw (by simpa using hn)
  rw [List.map_map] at hr
  exact hr.congr (by simp [Fits])

theorem parse_document {operations : RootField → Operation}
    (h : ∀ root ∈ s.roots, (operations root).WellNamed) (hn : s.roots ≠ [])
    (hf : s.Fits operations) :
    Language.parse (s.document operations) = .ok (s.roots.map fun root => (operations root).ast) :=
  Language.readText_ok (document_scans h) (document_reads h hn) hf

theorem parse_document_deep {operations : RootField → Operation}
    (h : ∀ root ∈ s.roots, (operations root).WellNamed) (hn : s.roots ≠ [])
    (hf : ¬ s.Fits operations) :
    ∃ fault, Language.parse (s.document operations) = .error fault ∧
    fault.cause = .grammatical .tooDeep :=
  Language.readText_deep (document_scans h) (document_reads h hn) hf

end Schema

theorem Scope.drafted_nesting (scope : Scope) (schema : Schema) (root : RootField) :
    (scope.drafted schema root).fieldNesting ≤ effectiveDepth scope.depth := by
  have hs :=
    select_nesting (schema.steps scope.skipDeprecated) (effectiveDepth scope.depth)
      [] root.field.type.target
  rw [Operation.fieldNesting]
  split
  · exact Nat.zero_le _
  · next hb =>
    exact Selection.bodyNesting_lt (by simpa using hb) hs

namespace Options

variable {o : Options} {schema : Schema} {faults : Faults}

/-- A draft is an assembly of its depth that was finished, or one without a limit as it is. -/
structure Made (o : Options) (schema : Schema) (faults : Faults) (depth : Int)
    (warnings : List Warning) (raw : List Char) (d : Draft) : Prop where
  early : ∀ cause, .unformatted cause ∉ warnings
  assembled : ∃ limited begun n, o.assemble schema faults.memory depth limited begun = (.ok raw, n)
  outcome : d = o.finish schema faults depth warnings raw ∨
    d = ⟨raw, schema.roots.length, depth, false, warnings⟩

theorem unlimited_made {depth : Int} {warnings : List Warning}
    (early : ∀ cause, .unformatted cause ∉ warnings) {cause : TooLarge} {begun : Nat} {d : Draft}
    (h : (o.unlimited schema faults depth warnings cause begun).1 = .ok d) :
    ∃ depth warnings raw, o.Made schema faults depth warnings raw d := by
  unfold unlimited at h
  dsimp only at h
  split at h
  · next raw ha =>
    cases h
    exact ⟨depth, _, raw, by simpa using early, ⟨false, begun, _, Prod.ext ha rfl⟩, .inr rfl⟩
  · cases h

theorem retry_made {cause : TooLarge} {begun : Nat} {d : Draft}
    (h : (o.retry schema faults cause begun).1 = .ok d) :
    ∃ depth warnings raw, o.Made schema faults depth warnings raw d := by
  rw [retry] at h
  dsimp only at h
  split at h
  · exact unlimited_made (by simp) h
  · split at h
    · next raw ha =>
      cases h
      exact ⟨_, _, raw, by simp, ⟨true, begun, _, Prod.ext ha rfl⟩, .inl rfl⟩
    · exact unlimited_made (by simp) h
    · cases h

theorem draft_made {d : Draft} (h : o.draft schema faults = .ok d) :
    ∃ depth warnings raw, o.Made schema faults depth warnings raw d := by
  rw [draft, drafting] at h
  dsimp only at h
  split at h
  · next raw ha =>
    cases h
    exact ⟨_, _, raw, by simp, ⟨true, 0, _, Prod.ext ha rfl⟩, .inl rfl⟩
  · exact retry_made h
  · cases h

/-- Where a draft comes from: if it says that it was not laid out, the text of its depth
could not be. -/
structure Drafted (o : Options) (schema : Schema) (faults : Faults) (d : Draft) : Prop where
  count : d.operationCount = schema.roots.length
  unformatted : ∀ cause, .unformatted cause ∈ d.warnings → ∃ limited begun raw n,
    o.assemble schema faults.memory d.depth limited begun = (.ok raw, n) ∧
    layOut faults.parser raw = .error cause

theorem draft_drafted {d : Draft} (h : o.draft schema faults = .ok d) :
    o.Drafted schema faults d := by
  obtain ⟨depth, warnings, raw, early, ⟨limited, begun, n, ha⟩, rfl | rfl⟩ := draft_made h
  · obtain ⟨document, -, -, -, h⟩ | ⟨cause, -, -, hl, h⟩ | ⟨-, h⟩ :=
      @finish_cases o schema faults depth warnings raw
    · rw [h]
      exact ⟨rfl, fun cause hm => absurd hm (early cause)⟩
    · rw [h]
      refine ⟨rfl, fun cause' hm => ?_⟩
      obtain hm | hm := List.mem_append.mp hm
      · exact absurd hm (early cause')
      · cases List.mem_singleton.mp hm
        exact ⟨limited, begun, raw, n, ha, hl⟩
    · rw [h]
      exact ⟨rfl, fun cause hm => absurd hm (early cause)⟩
  · exact ⟨rfl, fun cause hm => absurd hm (early cause)⟩

theorem layOut_eq_ok_of_parse {text : List Char} {document : Language.Document}
    (h : Language.parse text = .ok document) : layOut none text = .ok document.text := by
  simp only [layOut, Language.format, h, Except.map]

end Options

structure Built (scope : Scope) (schema : Schema) (root : RootField) (op : Operation) : Prop where
  kind : op.kind = root.kind
  name : root.kind.operationName? root.field.name = some op.name
  field : op.field = root.field.name
  args : op.args = root.field.args
  body : (scope.select schema [] rootLevel root.field.type.target 0).1 = .ok op.body

theorem Scope.drafted_built {schema : Schema} (hn : schema.RootsNamed) (scope : Scope)
    (hl : scope.limit = none) {root : RootField} (hr : root ∈ schema.roots) :
    Built scope schema root (scope.drafted schema root) where
  kind := rfl
  name := root.kind.operationName?_eq_some (hn root hr)
  field := rfl
  args := rfl
  body := by rw [scope.select_unlimited hl]; rfl

/-- What becomes of a document when it is read: the syntax trees of its operations if these fit, and
nothing but the complaint that it is nested too deeply if they do not. -/
structure ReadBack (o : Options) (schema : Schema) (depth : Nat)
    (operations : RootField → Operation) : Prop where
  built : ∀ root ∈ schema.roots, Built ⟨depth, o.skipDeprecated, none⟩ schema root (operations root)
  assembled : (o.assemble schema (fun _ => false) depth false 0).1 =
    .ok (schema.document operations)
  parsed : schema.Fits operations →
    Language.parse (schema.document operations) =
      .ok (schema.roots.map fun root => (operations root).ast)
  refused : ¬ schema.Fits operations →
    ∃ fault, Language.parse (schema.document operations) = .error fault ∧
    fault.cause = .grammatical .tooDeep
  shallow : effectiveDepth depth < nesting →
    (schema.Fits operations ↔ ∀ root ∈ schema.roots, ∀ a ∈ root.field.args, a.type.layers ≤ nesting)
  drafted : ∀ memory d, o.draft schema ⟨memory, none⟩ = .ok d → d.depth = depth →
    d.operationCount = schema.roots.length ∧
      (schema.Fits operations → ∀ cause, .unformatted cause ∉ d.warnings)

theorem parse_assembled {payload : Json} {schema : Schema}
    (h : Schema.ofPayload payload = .ok schema) (hr : schema.roots ≠ []) (o : Options)
    (depth : Nat) : ∃ operations, ReadBack o schema depth operations := by
  have hw := Schema.wellNamed_ofPayload h
  have hn := Schema.rootsNamed_of_wellNamed hw
  let scope : Scope := ⟨depth, o.skipDeprecated, none⟩
  have hd : ∀ root ∈ schema.roots, (scope.drafted schema root).WellNamed :=
    fun root hm => scope.drafted_wellNamed hw hm
  refine ⟨scope.drafted schema, ?_⟩
  exact {
    built := fun root hm => scope.drafted_built hn rfl hm
    assembled := o.assemble_document hn depth
    parsed := Schema.parse_document hd hr
    refused := Schema.parse_document_deep hd hr
    shallow := by
      intro hs
      refine ⟨fun hf root hm => (hf root hm).1, fun hf root hm => ⟨hf root hm, ?_⟩⟩
      exact Nat.lt_of_le_of_lt (scope.drafted_nesting schema root) hs
    drafted := by
      intro memory d hdraft hdepth
      have hw := Options.draft_drafted hdraft
      refine ⟨hw.count, fun hf cause hm => ?_⟩
      obtain ⟨limited, begun, raw, n, ha, hl⟩ := hw.unformatted cause hm
      rw [hdepth] at ha
      rw [o.assembled_eq hn ha,
        Options.layOut_eq_ok_of_parse (Schema.parse_document hd hr hf)] at hl
      cases hl }

theorem parse_assembled_answer :
    Schema.ofPayload Sample.answer = .ok Sample.schema ∧ Sample.schema.roots ≠ [] ∧
      ∃ operations, ReadBack .default Sample.schema 7 operations :=
  ⟨Sample.ofPayload_answer, by decide,
    parse_assembled Sample.ofPayload_answer (by decide) .default 7⟩

namespace Sample

def deepAnswer (layers : Nat) : Json := .obj [("__schema", .obj [
  ("queryType", named "Query"),
  ("types", .arr [scalar "String",
    object "Query"
      [field "a" (scalar "String") [argument "x" (Nat.repeat list layers (scalar "String"))]]])])]

def deepRoot (layers : Nat) : RootField :=
  ⟨.query, "a", .named "String", [⟨"x", Nat.repeat .list layers (.named "String")⟩], false⟩

def deepSchema (layers : Nat) : Schema := ⟨Introspection.complete [("String", .scalar),
  ("Query", .object [(deepRoot layers).field])], some "Query", none⟩

theorem ofPayload_deepAnswer : Schema.ofPayload (deepAnswer 201) = .ok (deepSchema 201) := by
  have h : (Schema.ofPayload (deepAnswer 201)).toOption = some (deepSchema 201) := by decide +kernel
  cases hs : Schema.ofPayload (deepAnswer 201) with
  | error e =>
    rw [hs] at h
    cases h
  | ok s =>
    rw [hs] at h
    cases h
    rfl

theorem roots_deepSchema (layers : Nat) : (deepSchema layers).roots = [deepRoot layers] := rfl

theorem layers_repeat (n : Nat) (t : TypeRef) : (Nat.repeat .list n t).layers = t.layers + n := by
  induction n with
  | zero => rfl
  | succ n ih => rw [Nat.repeat, TypeRef.layers, ih, Nat.add_assoc]

theorem deepSchema_not_fits (scope : Scope) :
    ¬ (deepSchema 201).Fits (scope.drafted (deepSchema 201)) := by
  intro hf
  have hl :=
    (hf (deepRoot 201) (by rw [roots_deepSchema]; exact List.mem_singleton_self _)).1 _
      List.mem_cons_self
  rw [layers_repeat] at hl
  exact absurd hl (by decide)

end Sample

/-- One list more than the parser opens at once: the document is assembled and cannot be read. -/
theorem deep_document_unreadable :
    Schema.ofPayload (Sample.deepAnswer 201) = .ok (Sample.deepSchema 201) ∧
      (Sample.deepSchema 201).roots ≠ [] ∧
      ∃ raw,
        (Options.default.assemble (Sample.deepSchema 201) (fun _ => false) 7 false 0).1 = .ok raw ∧
        ∀ document, Language.parse raw ≠ .ok document := by
  have hw := Schema.wellNamed_ofPayload Sample.ofPayload_deepAnswer
  have hr : (Sample.deepSchema 201).roots ≠ [] := by
    rw [Sample.roots_deepSchema]
    exact List.cons_ne_nil _ _
  refine ⟨Sample.ofPayload_deepAnswer, hr, _,
    Options.assemble_document (Schema.rootsNamed_of_wellNamed hw) _ 7, ?_⟩
  intro document hp
  obtain ⟨fault, he, -⟩ :=
    Schema.parse_document_deep (fun root hm => Scope.drafted_wellNamed hw _ hm) hr
    (Sample.deepSchema_not_fits ⟨7, Options.default.skipDeprecated, none⟩)
  rw [he] at hp
  cases hp

end QueryDraft
