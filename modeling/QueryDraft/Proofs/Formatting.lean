import QueryDraft.Proofs.Layout

namespace QueryDraft

open QueryDraft.Language (Lexeme scan)

namespace Language

def Plain (ls : List Lexeme) : Prop := ∀ l ∈ ls, (∃ name, l = .name name) ∨ ∃ p, l = .punctuator p

@[simp] theorem plain_nil : Plain [] := List.forall_mem_nil _

@[simp] theorem plain_name (name : String) (ls : List Lexeme) :
    Plain (.name name :: ls) ↔ Plain ls := by
  simp [Plain]

@[simp] theorem plain_punctuator (p : Punctuator) (ls : List Lexeme) :
    Plain (.punctuator p :: ls) ↔ Plain ls := by
  simp [Plain]

@[simp] theorem plain_append (ls ms : List Lexeme) : Plain (ls ++ ms) ↔ Plain ls ∧ Plain ms :=
  List.forall_mem_append

@[simp] theorem plain_flatMap {α : Type} (g : α → List Lexeme) (xs : List α) :
    Plain (xs.flatMap g) ↔ ∀ x ∈ xs, Plain (g x) := by
  simp only [Plain, List.mem_flatMap]
  exact ⟨fun h x hx l hl => h l ⟨x, hx, hl⟩, fun h l ⟨x, hx, hl⟩ => h x hx l hl⟩

end Language

open QueryDraft.Language (Plain)

theorem TypeRef.lexemes_plain (t : TypeRef) : Plain t.lexemes := by
  induction t with
  | named name => simp [lexemes]
  | list item ih => simpa [lexemes] using ih
  | nonNull inner ih => simpa [lexemes] using ih

theorem Selection.lexemes_plain (s : Selection) : Plain s.lexemes := by
  induction s using induct with
  | leaf name => simp [lexemes]
  | node label body ih =>
    have hb : Plain (bodyLexemes body) := by simpa [bodyLexemes_eq] using ih
    cases label with
    | field name => simpa [lexemes, Label.lexemes] using hb
    | fragment member => simpa [lexemes, Label.lexemes] using hb

namespace Operation

theorem parenLexemes_plain {parts : List Lexeme} (h : Plain parts) :
    Plain (parenLexemes parts) := by
  rw [parenLexemes]
  split
  · exact Language.plain_nil
  · simpa using h

theorem setLexemes_plain (body : List Selection) : Plain (setLexemes body) := by
  rw [setLexemes]
  split
  · exact Language.plain_nil
  · simpa [Selection.bodyLexemes_eq] using fun s _ => s.lexemes_plain

theorem lexemes_plain (op : Operation) : Plain op.lexemes := by
  have hd : Plain (op.args.flatMap declarationLexemes) := by
    simpa [declarationLexemes] using fun a _ => a.type.lexemes_plain
  have hu : Plain (op.args.flatMap useLexemes) := by simp [useLexemes]
  simp [lexemes, parenLexemes_plain hd, parenLexemes_plain hu, setLexemes_plain]

end Operation

/-- What a text that was laid out shares with the raw one, and that laying it out again
changes nothing. -/
structure Relaid (raw document : List Char) : Prop where
  complete : (scan raw).fault = none ∧ (scan document).fault = none
  plain : Plain ((scan raw).tokens.map (·.lexeme))
  lexemes : (scan document).tokens.map (·.lexeme) = (scan raw).tokens.map (·.lexeme)
  tree : ∃ ast, Language.parse raw = .ok ast ∧ Language.parse document = .ok ast ∧
    document = Language.Document.text ast
  fixed : Language.format document = .ok document

theorem Schema.document_relaid {s : Schema} {operations : RootField → Operation}
    (h : ∀ root ∈ s.roots, (operations root).WellNamed) (hn : s.roots ≠ []) {document : List Char}
    (hd : Language.format (s.document operations) = .ok document) :
    Relaid (s.document operations) document := by
  have hraw := document_scans h
  have hreads := document_reads h hn
  by_cases hf : s.Fits operations
  · have hp := Language.readText_ok hraw hreads hf
    have hw : ∀ op ∈ s.roots.map operations, op.WellNamed := by simpa using h
    have hlaid := (Language.document_lays hw).lexes.scans
    rw [List.map_map] at hlaid
    have hp' := Language.readText_ok hlaid hreads hf
    rw [Language.format, Language.parse, hp] at hd
    cases hd
    obtain ⟨hc, hl⟩ := Language.scan_of_scans hraw
    obtain ⟨hc', hl'⟩ := Language.scan_of_scans hlaid
    exact {
      complete := ⟨hc, hc'⟩
      plain := by
        rw [hl]
        simp [Operation.lexemes_plain]
      lexemes := hl'.trans hl.symm
      tree := ⟨_, hp, hp', rfl⟩
      fixed := by
        rw [Language.format, Language.parse]
        exact congrArg (Except.map Language.Document.text) hp' }
  · -- A document that is nested too deeply for the parser was not laid out.
    obtain ⟨fault, hp, -⟩ := parse_document_deep h hn hf
    rw [Language.format, hp] at hd
    cases hd

namespace Sample

def wideArguments : List String := ["fromTheNorthernSea", "fromTheEasternLand"]

/-- A root field with more arguments than a line has room for. -/
def wideAnswer : Json := .obj [("__schema", .obj [
  ("queryType", named "Query"),
  ("types", .arr [scalar "Boolean",
    object "Query"
      [field "wind" (named "Boolean")
        (wideArguments.map fun a => argument a (named "Boolean"))]])])]

def wideSchema : Schema := ⟨Introspection.complete [("Boolean", .scalar),
  ("Query", .object
    [⟨"wind", .named "Boolean", wideArguments.map fun a => ⟨a, .named "Boolean"⟩, false⟩])],
  some "Query", none⟩

theorem ofPayload_wideAnswer : Schema.ofPayload wideAnswer = .ok wideSchema := by rfl

theorem draft_wideSchema :
    ∃ d, Options.default.draft wideSchema .none = .ok d ∧ d.formatted = true ∧
    d.document.count '\n' = 6 := by
  have h : (Options.default.draft wideSchema .none).toOption.map
      (fun d => (d.formatted, d.document.count '\n')) = some (true, 6) := by decide +kernel
  obtain ⟨d, hd, h⟩ := Outcome.exists_of_toOption h
  exact ⟨d, hd, Prod.mk.inj h⟩

end Sample

/-- Whatever faults a draft met, if it says that it was laid out it is the raw document of its
depth, laid out. -/
theorem draft_relaid {payload : Json} {schema : Schema} (h : Schema.ofPayload payload = .ok schema)
    (o : Options) (hm : 0 ≤ o.maxDepth) (hs : 0 ≤ o.safeDepth) (faults : Faults) {d : Draft}
    (hd : o.draft schema faults = .ok d) (hf : d.formatted = true) :
    ∃ raw, (o.assemble schema (fun _ => false) d.depth false 0).1 = .ok raw ∧
    Relaid raw d.document := by
  have hw := Schema.wellNamed_ofPayload h
  have hn := Schema.rootsNamed_of_wellNamed hw
  have ha := (Options.drafting_course hn hm hs).answers d hd
  have hdepth : 0 ≤ d.depth := by
    obtain he | he := ha.depth
    · rwa [he]
    · rw [he]
      exact Options.reducedDepth_nonneg hs
  have hr := Options.roots_ne_nil_of_plainText (ha.fits hf).2.1
  have hl := ha.laidOut hf
  refine ⟨_, o.assemble_plainText hn hdepth 0, ?_⟩
  rw [o.plainText_eq] at hl ⊢
  exact Schema.document_relaid (fun root hm => Scope.drafted_wellNamed hw _ hm) hr hl

theorem draft_relaid_wide :
    Schema.ofPayload Sample.wideAnswer = .ok Sample.wideSchema ∧ 0 ≤ Options.default.maxDepth ∧
      0 ≤ Options.default.safeDepth ∧
      ∃ d, Options.default.draft Sample.wideSchema .none = .ok d ∧ d.formatted = true ∧
        d.document.count '\n' = 6 ∧
        ∃ raw,
          (Options.default.assemble Sample.wideSchema (fun _ => false) d.depth false 0).1 =
            .ok raw ∧
          Relaid raw d.document := by
  obtain ⟨d, hd, hf, hn⟩ := Sample.draft_wideSchema
  exact ⟨Sample.ofPayload_wideAnswer, by decide, by decide, d, hd, hf, hn,
    draft_relaid Sample.ofPayload_wideAnswer .default (by decide) (by decide) .none hd hf⟩

end QueryDraft
