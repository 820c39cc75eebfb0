import Mathlib.Data.List.DropRight
import QueryDraft.Proofs.Lines

namespace QueryDraft

namespace Text

/-- A text cut at its pairs of line breaks, from the left. -/
def paragraphs : List Char → List (List Char)
  | [] => [[]]
  | '\n' :: '\n' :: rest => [] :: paragraphs rest
  | c :: rest => (paragraphs rest).modifyHead (c :: ·)

def unended (text : List Char) : List Char := text.rdropWhile (· = '\n')

theorem paragraphs_blank (rest : List Char) :
    paragraphs ('\n' :: '\n' :: rest) = [] :: paragraphs rest := by
  rw [paragraphs]

section

variable {rest part : List Char} {parts : List (List Char)}

theorem paragraphs_cons {c : Char} (hc : c = '\n' → rest.head? ≠ some '\n')
    (h : paragraphs rest = part :: parts) : paragraphs (c :: rest) = (c :: part) :: parts := by
  rw [paragraphs, h]
  · rfl
  · rintro tail rfl rfl
    exact hc rfl rfl

theorem paragraphs_line {line : List Char} (hn : '\n' ∉ line)
    (h : paragraphs rest = part :: parts) :
    paragraphs (line ++ rest) = (line ++ part) :: parts := by
  induction line with
  | nil => exact h
  | cons c line ih =>
    obtain ⟨hc, hl⟩ := List.ne_and_not_mem_of_not_mem_cons hn
    exact paragraphs_cons (fun he => absurd he.symm hc) (ih hl)

end

namespace Solid

variable {text : List Char}

theorem head (h : Solid text) (more : List Char) : (text ++ more).head? ≠ some '\n' := by
  have hl : ∀ {line : List Char}, '\n' ∉ line → Marked line →
      ∀ more, (line ++ more).head? ≠ some '\n' := by
    rintro line hn ⟨c, hc, -⟩ more he
    cases line with
    | nil => exact absurd hc List.not_mem_nil
    | cons d line =>
      cases he
      exact hn List.mem_cons_self
  cases h with
  | line hn hm => exact hl hn hm more
  | upon hn hm _ =>
    rw [List.append_assoc]
    exact hl hn hm _

theorem last (h : Solid text) : ∃ c ∈ text.getLast?, c ≠ '\n' := by
  induction h with
  | @line text hn hm =>
    have hl := List.getLast?_eq_some_getLast (Solid.line hn hm).ne_nil
    refine ⟨_, hl, ?_⟩
    rintro he
    exact hn (he ▸ List.getLast_mem _)
  | @upon text rest _ _ hr ih =>
    obtain ⟨c, hl, hc⟩ := ih
    exact ⟨c, List.mem_getLast?_append_of_mem_getLast? (List.mem_getLast?_cons hl), hc⟩

theorem paragraphs (h : Solid text) {more part : List Char} {parts : List (List Char)}
    (hm : paragraphs more = part :: parts) :
    paragraphs (text ++ more) = (text ++ part) :: parts := by
  induction h with
  | line hn _ => exact paragraphs_line hn hm
  | @upon text rest hn _ hr ih =>
    rw [List.append_assoc, List.append_assoc]
    exact paragraphs_line hn (paragraphs_cons (fun _ => hr.head more) ih)

end Solid

end Text

open Text (Solid Marked paragraphs unended)
open QueryDraft.Language (join)

theorem paragraphs_join {parts : List (List Char)} (hn : parts ≠ []) (h : ∀ p ∈ parts, Solid p) :
    paragraphs (join ['\n', '\n'] parts) = parts := by
  induction parts with
  | nil => exact absurd rfl hn
  | cons p rest ih =>
    have hp := h p List.mem_cons_self
    cases rest with
    | nil =>
      have hl : paragraphs (p ++ []) = [p ++ []] := hp.paragraphs rfl
      rwa [List.append_nil] at hl
    | cons q rest =>
      have hr := ih (List.cons_ne_nil q rest) fun r hr => h r (List.mem_cons_of_mem p hr)
      have hb := hp.paragraphs (Text.paragraphs_blank (join ['\n', '\n'] (q :: rest)))
      rw [hr, List.append_nil] at hb
      rw [join, List.append_assoc]
      exact hb

theorem join_last {parts : List (List Char)} (hn : parts ≠ []) (h : ∀ p ∈ parts, Solid p) :
    ∃ c ∈ (join ['\n', '\n'] parts).getLast?, c ≠ '\n' := by
  induction parts with
  | nil => exact absurd rfl hn
  | cons p rest ih =>
    cases rest with
    | nil => exact (h p List.mem_cons_self).last
    | cons q rest =>
      obtain ⟨c, hl, hc⟩ := ih (List.cons_ne_nil q rest) fun r hr => h r (List.mem_cons_of_mem p hr)
      exact ⟨c, List.mem_getLast?_append_of_mem_getLast? hl, hc⟩

theorem flatMap_eq_join {parts : List (List Char)} (hn : parts ≠ []) :
    parts.flatMap (· ++ ['\n', '\n']) = join ['\n', '\n'] parts ++ List.replicate 2 '\n' := by
  induction parts with
  | nil => exact absurd rfl hn
  | cons p rest ih =>
    cases rest with
    | nil => exact List.append_nil _
    | cons q rest =>
      rw [List.flatMap_cons, ih (List.cons_ne_nil q rest), join, ← List.append_assoc]

theorem unended_append {text : List Char} (h : ∃ c ∈ text.getLast?, c ≠ '\n') (n : Nat) :
    unended (text ++ List.replicate n '\n') = text := by
  induction n with
  | zero =>
    obtain ⟨c, hl, hc⟩ := h
    rw [List.replicate_zero, List.append_nil, unended, List.rdropWhile_eq_self_iff]
    intro hn
    rw [List.getLast?_eq_some_getLast hn] at hl
    cases hl
    simpa using hc
  | succ n ih =>
    rw [List.replicate_succ', ← List.append_assoc, unended,
      List.rdropWhile_concat_pos _ _ _ (by decide)]
    exact ih

theorem paragraphs_unended {parts : List (List Char)} (hn : parts ≠ []) (h : ∀ p ∈ parts, Solid p)
    (n : Nat) :
    paragraphs (unended (join ['\n', '\n'] parts ++ List.replicate n '\n')) = parts := by
  rw [unended_append (join_last hn h), paragraphs_join hn h]

/-- A draft's document as it was assembled at the draft's depth, or laid out after that. -/
def Options.Written (o : Options) (schema : Schema) (faults : Faults) (d : Draft) : Prop :=
  ∃ limited begun raw n, o.assemble schema faults.memory d.depth limited begun = (.ok raw, n) ∧
    (d.formatted = false ∧ d.document = raw ∨
      d.formatted = true ∧ raw ≠ [] ∧ Language.format raw = .ok d.document)

namespace Options

variable {o : Options} {schema : Schema} {faults : Faults}

theorem draft_written {d : Draft} (h : o.draft schema faults = .ok d) :
    o.Written schema faults d := by
  obtain ⟨depth, warnings, raw, -, ⟨limited, begun, n, ha⟩, rfl | rfl⟩ := draft_made h
  · obtain ⟨document, -, hr, hl, h⟩ | ⟨cause, -, -, -, h⟩ | ⟨-, h⟩ :=
      @finish_cases o schema faults depth warnings raw
    · rw [h]
      exact ⟨limited, begun, raw, n, ha, .inr ⟨rfl, hr, layOut_eq_ok hl⟩⟩
    · rw [h]
      exact ⟨limited, begun, raw, n, ha, .inl ⟨rfl, rfl⟩⟩
    · rw [h]
      exact ⟨limited, begun, raw, n, ha, .inl ⟨rfl, rfl⟩⟩
  · exact ⟨limited, begun, raw, n, ha, .inl ⟨rfl, rfl⟩⟩

theorem depth_nonneg_of_assemble {memory : MemoryFaults} {depth : Int} {limited : Bool}
    {begun n : Nat} {raw : List Char}
    (h : o.assemble schema memory depth limited begun = (.ok raw, n)) : 0 ≤ depth := by
  rw [assemble] at h
  split at h
  · cases h
  · next hd => exact Int.not_lt.mp hd

end Options

theorem Operation.format_text {op : Operation} (h : op.WellNamed)
    (hf : op.Fits Language.Parser.nesting) :
    Language.format op.text = .ok (op.ast.text ++ ['\n']) := by
  have hr :=
    Language.Parser.document_reads (List.forall_mem_singleton.mpr h) (List.cons_ne_nil op [])
  have hs : Language.Scans op.text ([op].flatMap lexemes) := by simpa using (text_lexes h).scans
  rw [Language.format, Language.parse,
    Language.readText_ok hs hr (List.forall_mem_singleton.mpr hf)]
  rfl

/-- The paragraph of a root field: its operation's text, laid out on its own if the draft is. -/
structure Draft.Paragraph (d : Draft) (o : Options) (schema : Schema) (root : RootField)
    (part : List Char) : Prop where
  text : ∃ op,
    ((Scope.mk d.depth.toNat o.skipDeprecated none).operation schema root.kind root.field.name
      root.field 0).1 = .ok op ∧
    (d.formatted = false → part = op.text) ∧
    (d.formatted = true → Language.format op.text = .ok (part ++ ['\n']))
  lines : ∀ line ∈ part.splitOn '\n', Marked line

structure Draft.Parted (d : Draft) (o : Options) (schema : Schema) : Prop where
  depth : 0 ≤ d.depth
  count : (paragraphs (unended d.document)).length = d.operationCount
  each : List.Forall₂ (d.Paragraph o schema) schema.roots (paragraphs (unended d.document))

theorem Draft.parted_of_map {d : Draft} {o : Options} {schema : Schema} (hd : 0 ≤ d.depth)
    (hc : d.operationCount = schema.roots.length) {f : RootField → List Char}
    (hp : paragraphs (unended d.document) = schema.roots.map f)
    (hf : ∀ root ∈ schema.roots, d.Paragraph o schema root (f root)) : d.Parted o schema := by
  refine ⟨hd, ?_, ?_⟩
  · rw [hp, List.length_map, hc]
  · rw [hp, List.forall₂_map_right_iff, List.forall₂_same]
    exact hf

section

variable {schema : Schema} {operations : RootField → Operation}

theorem Schema.roots_ne_nil_of_document (h : schema.document operations ≠ []) :
    schema.roots ≠ [] := by
  intro hr
  rw [Schema.document, hr] at h
  exact h rfl

theorem paragraphs_raw (hw : ∀ root ∈ schema.roots, (operations root).WellNamed)
    (hn : schema.roots ≠ []) :
    paragraphs (unended (schema.document operations)) = schema.roots.map fun root =>
      (operations root).text := by
  have hp : schema.roots.map (fun root => (operations root).text) ≠ [] := by simpa using hn
  have hs := List.forall_mem_map.mpr fun root hr => (operations root).text_solid (hw root hr)
  have hd := flatMap_eq_join hp
  rw [List.flatMap_map] at hd
  rw [Schema.document]
  simp only [Operation.paragraph]
  rw [hd, paragraphs_unended hp hs]

theorem paragraphs_laidOut (hw : ∀ root ∈ schema.roots, (operations root).WellNamed)
    (hn : schema.roots ≠ []) :
    paragraphs (unended
      (Language.Document.text (schema.roots.map fun root => (operations root).ast))) =
    schema.roots.map fun root => (operations root).ast.text := by
  have hp : schema.roots.map (fun root => (operations root).ast.text) ≠ [] := by simpa using hn
  have hs := List.forall_mem_map.mpr fun root hr => Language.definition_solid (hw root hr)
  rw [Language.Document.text, List.map_map]
  exact paragraphs_unended hp hs 1

end

/-- However a draft came about, its paragraphs are the texts of the operations of the root
fields, in order. -/
theorem draft_parted {payload : Json} {schema : Schema} (h : Schema.ofPayload payload = .ok schema)
    (o : Options) (faults : Faults) {d : Draft} (hd : o.draft schema faults = .ok d)
    (hne : d.document ≠ []) :
    d.Parted o schema := by
  have hw := Schema.wellNamed_ofPayload h
  have hn := Schema.rootsNamed_of_wellNamed hw
  have hcount := (Options.draft_drafted hd).count
  obtain ⟨limited, begun, raw, n, ha, ht⟩ := Options.draft_written hd
  have hdepth := Options.depth_nonneg_of_assemble ha
  let scope : Scope := ⟨d.depth.toNat, o.skipDeprecated, none⟩
  have hops : ∀ root ∈ schema.roots, (scope.drafted schema root).WellNamed :=
    fun root hr => scope.drafted_wellNamed hw hr
  have hop : ∀ root ∈ schema.roots,
      (scope.operation schema root.kind root.field.name root.field 0).1 =
        .ok (scope.drafted schema root) :=
    fun root hr => scope.operation_drafted hn rfl hr
  rw [← Int.toNat_of_nonneg hdepth] at ha
  obtain rfl := Options.assembled_eq hn o ha
  obtain ⟨hf, ht⟩ | ⟨hf, hr, ht⟩ := ht
  · have hroots := Schema.roots_ne_nil_of_document (ht ▸ hne)
    have hp := paragraphs_raw hops hroots
    rw [← ht] at hp
    refine Draft.parted_of_map hdepth hcount hp fun root hr =>
      ⟨⟨_, hop root hr, fun _ => rfl, fun hl => ?_⟩, ?_⟩
    · rw [hf] at hl
      cases hl
    · exact (Operation.text_solid (hops root hr)).lines
  · have hroots := Schema.roots_ne_nil_of_document hr
    by_cases hfits : schema.Fits (scope.drafted schema)
    · rw [Language.format, Schema.parse_document hops hroots hfits] at ht
      have hp := paragraphs_laidOut hops hroots
      rw [Except.ok.inj ht] at hp
      refine Draft.parted_of_map hdepth hcount hp fun root hr =>
        ⟨⟨_, hop root hr, fun hl => ?_, fun _ => ?_⟩, ?_⟩
      · rw [hf] at hl
        cases hl
      · exact Operation.format_text (hops root hr) (hfits root hr)
      · exact (Language.definition_solid (hops root hr)).lines
    · obtain ⟨fault, hp, -⟩ := Schema.parse_document_deep hops hroots hfits
      rw [Language.format, hp] at ht
      cases ht

theorem draft_parted_answer :
    Schema.ofPayload Sample.answer = .ok Sample.schema ∧
      ∃ d, Options.default.draft Sample.schema .none = .ok d ∧ d.document ≠ [] ∧
        d.formatted = true ∧ d.operationCount = 3 ∧ d.Parted .default Sample.schema := by
  have h : (Options.default.draft Sample.schema .none).toOption.map (fun d =>
      (d.document.isEmpty, d.formatted, d.operationCount)) =
        some (false, true, 3) := by decide +kernel
  obtain ⟨d, hd, h⟩ := Outcome.exists_of_toOption h
  simp only [Prod.mk.injEq, List.isEmpty_eq_false_iff] at h
  obtain ⟨hne, hf, hc⟩ := h
  exact ⟨Sample.ofPayload_answer, d, hd, hne, hf, hc,
    draft_parted Sample.ofPayload_answer .default .none hd hne⟩

end QueryDraft
