import Mathlib.Data.List.Forall2
import QueryDraft.Proofs.RoundTrip

namespace QueryDraft.Language

open QueryDraft.Selection
  (shift shift_append shift_cons shift_newline shift_nil shift_line shift_shift)
open QueryDraft.Operation (parenLexemes useLexemes declarationLexemes setLexemes)

theorem Apart.shift {text : List Char} (h : Apart text) (pad : List Char) :
    Apart (shift pad text) := by
  cases text with
  | nil => exact .nil
  | cons c text =>
    by_cases hc : c = '\n'
    · subst hc
      rw [shift_newline]
      exact .cons (by decide) _
    · rw [shift_cons hc]
      exact .cons (h c rfl) _

/-- A text with its lexemes, however far its lines are shifted, before anything that does not go on
with a name. -/
def Lays (text : List Char) (ls : List Lexeme) : Prop :=
  ∀ pad, (∀ c ∈ pad, isIgnored c = true) → Lexes (shift pad text) ls

namespace Lays

variable {text more : List Char} {ls ms : List Lexeme}

theorem lexes (h : Lays text ls) : Lexes text ls := by
  have hl := h [] (by simp)
  rwa [shift_nil] at hl

theorem unique (h : Lays text ls) (hm : Lays text ms) : ls = ms :=
  h.lexes.scans.unique hm.lexes.scans

theorem line (hn : '\n' ∉ text) (h : Lexes text ls) : Lays text ls := by
  intro pad _
  rwa [shift_line pad hn]

theorem nil : Lays [] [] := fun _ _ => .nil

theorem word {s : String} (hs : Name.isValid s = true) : Lays s.toList [.name s] :=
  line (Selection.newline_not_mem hs) (.word hs)

theorem append (h : Lays text ls) (hm : Lays more ms) (ha : Apart more) :
    Lays (text ++ more) (ls ++ ms) := by
  intro pad hp
  rw [shift_append]
  exact (h pad hp).append (hm pad hp) (ha.shift pad)

theorem ignored {c : Char} (hc : isIgnored c = true) (h : Lays text ls) : Lays (c :: text) ls := by
  intro pad hp
  by_cases hn : c = '\n'
  · subst hn
    rw [shift_newline]
    exact ((h pad hp).blank hp).ignored hc
  · rw [shift_cons hn]
    exact (h pad hp).ignored hc

theorem blank {pad : List Char} (hp : ∀ c ∈ pad, isIgnored c = true) (h : Lays text ls) :
    Lays (pad ++ text) ls := by
  induction pad with
  | nil => exact h
  | cons c pad ih =>
    exact (ih fun d hd => hp d (List.mem_cons_of_mem c hd)).ignored (hp c List.mem_cons_self)

theorem punctuator {c : Char} {p : Punctuator} (hp : Punctuator.ofChar? c = some p)
    (h : Lays text ls) : Lays (c :: text) (.punctuator p :: ls) := by
  intro pad hpad
  have hc : c ≠ '\n' := by
    rintro rfl
    cases hp
  rw [shift_cons hc]
  exact (h pad hpad).punctuator hp

theorem indent (h : Lays text ls) : Lays (indent text) ls := by
  intro pad hp
  have hb : ∀ c ∈ [' ', ' '], isIgnored c = true := List.all_eq_true.mp (by decide)
  have hs : shift pad (Language.indent text) = [' ', ' '] ++ shift (pad ++ [' ', ' ']) text := by
    rw [← shift_shift (by decide)]
    exact shift_append pad [' ', ' '] _
  rw [hs]
  apply Lexes.blank hb
  apply h
  intro c hc
  obtain hc | hc := List.mem_append.mp hc
  · exact hp c hc
  · exact hb c hc

theorem map {α : Type} {f : α → List Char} {g : α → List Lexeme} {xs : List α}
    (h : ∀ x ∈ xs, Lays (f x) (g x)) : List.Forall₂ Lays (xs.map f) (xs.map g) := by
  rw [List.forall₂_map_left_iff, List.forall₂_map_right_iff]
  exact List.forall₂_same.mpr h

theorem join (c : Char) (separator : List Char) (hs : (c :: separator).all isIgnored = true)
    {parts : List (List Char)} {lss : List (List Lexeme)} (h : List.Forall₂ Lays parts lss) :
    Lays (join (c :: separator) parts) lss.flatten := by
  have hs : ∀ d ∈ c :: separator, isIgnored d = true := List.all_eq_true.mp hs
  induction h with
  | nil => exact .nil
  | @cons part ls parts lss hp hps ih =>
    cases hps with
    | nil => simpa [Language.join] using hp
    | @cons next ms parts lss hn hps =>
      rw [Language.join, List.flatten_cons, List.append_assoc]
      exact hp.append (ih.blank hs) (.ignored (hs c List.mem_cons_self) _)

theorem nonempty {parts : List (List Char)} {lss : List (List Lexeme)}
    (h : List.Forall₂ Lays parts lss) :
    ∃ kept, List.Forall₂ Lays (parts.filter (!·.isEmpty)) kept ∧ kept.flatten = lss.flatten := by
  induction h with
  | nil => exact ⟨[], .nil, rfl⟩
  | @cons part ls parts lss hp hps ih =>
    obtain ⟨kept, hk, he⟩ := ih
    cases part with
    | nil =>
      -- An empty part has no lexemes to lose.
      obtain rfl := hp.unique .nil
      exact ⟨kept, hk, he⟩
    | cons c part =>
      exact ⟨ls :: kept, .cons hp hk, by rw [List.flatten_cons, List.flatten_cons, he]⟩

theorem words {parts : List (List Char)} {lss : List (List Lexeme)}
    (h : List.Forall₂ Lays parts lss) : Lays (words parts) lss.flatten := by
  obtain ⟨kept, hk, he⟩ := nonempty h
  rw [← he]
  exact join ' ' [] (by decide) hk

theorem braces {parts : List (List Char)} {lss : List (List Lexeme)}
    (h : List.Forall₂ Lays parts lss) :
    Lays (braces parts) (.punctuator .braceL :: lss.flatten ++ [.punctuator .braceR]) := by
  have hclose : Lays ['\x7d'] [.punctuator .braceR] := nil.punctuator rfl
  cases h with
  | nil => exact hclose.punctuator (c := '\x7b') (by decide)
  | cons hp hps =>
    have hlines := (join '\n' [] (by decide) (.cons hp hps)).indent
    have hbody := hlines.append (hclose.ignored (c := '\n') (by decide)) (.cons (by decide) _)
    exact (hbody.ignored (c := '\n') (by decide)).punctuator (c := '\x7b') (by decide)

section

variable {α : Type} {f : α → List Char} {g : α → List Lexeme} {xs : List α}

theorem parens (h : ∀ x ∈ xs, Lays (f x) (g x)) (hg : ∀ x, g x ≠ []) :
    Lays (parens (xs.map f)) (parenLexemes (xs.flatMap g)) := by
  cases xs with
  | nil => exact .nil
  | cons x rest =>
    have hn : ((x :: rest).flatMap g).isEmpty = false := by simp [hg x]
    have hclose : Lays [')'] [.punctuator .parenR] := nil.punctuator rfl
    have hrow := (join ',' [' '] (by decide) (map h)).append hclose (.cons (by decide) _)
    rw [parenLexemes, hn]
    exact hrow.punctuator (c := '(') (by decide)

theorem parenLines (h : ∀ x ∈ xs, Lays (f x) (g x)) (hg : ∀ x, g x ≠ [])
    {shift : List Char → List Char} (hs : ∀ text ls, Lays text ls → Lays (shift text) ls) :
    Lays (parenLines (xs.map f) shift) (parenLexemes (xs.flatMap g)) := by
  cases xs with
  | nil => exact .nil
  | cons x rest =>
    have hn : ((x :: rest).flatMap g).isEmpty = false := by simp [hg x]
    have hclose : Lays ['\n', ')'] [.punctuator .parenR] := (nil.punctuator rfl).ignored (by decide)
    have hrow := (hs _ _ (join '\n' [] (by decide) (map h))).append hclose (.cons (by decide) _)
    rw [parenLexemes, hn]
    exact (hrow.ignored (c := '\n') (by decide)).punctuator (c := '(') (by decide)

end

end Lays

theorem newline_not_mem_type {t : TypeRef} (h : t.WellNamed) : '\n' ∉ t.text := by
  induction t with
  | named name => exact Selection.newline_not_mem h
  | list item ih => simpa [TypeRef.text] using ih h
  | nonNull inner ih => simpa [TypeRef.text] using ih h.2

theorem newline_not_mem_use {a : Argument} (h : a.WellNamed) : '\n' ∉ Operation.use a := by
  simp [Operation.use, Selection.newline_not_mem h.1]

theorem newline_not_mem_declaration {a : Argument} (h : a.WellNamed) :
    '\n' ∉ Operation.declaration a := by
  simp [Operation.declaration, Selection.newline_not_mem h.1, newline_not_mem_type h.2]

theorem use_lays {a : Argument} (h : a.WellNamed) : Lays (Operation.use a) (useLexemes a) :=
  .line (newline_not_mem_use h) (Operation.use_lexes h)

theorem declaration_lays {a : Argument} (h : a.WellNamed) :
    Lays (Operation.declaration a) (declarationLexemes a) :=
  .line (newline_not_mem_declaration h) (Operation.declaration_lexes h)

theorem fieldTexts_variables (args : List Argument) :
    fieldTexts (args.map fun a => (a.name, .variable a.name)) = args.map Operation.use := by
  induction args with
  | nil => rfl
  | cons a rest ih => rw [List.map_cons, fieldTexts, ih, List.map_cons, Value.text, Operation.use]

theorem parens_apart (parts : List (List Char)) : Apart (parens parts) := by
  rw [parens]
  split
  · exact .nil
  · exact .cons (by decide) _

theorem parenLines_apart (parts : List (List Char)) (shift : List Char → List Char) :
    Apart (parenLines parts shift) := by
  rw [parenLines]
  split
  · exact .nil
  · exact .cons (c := '(') (by decide) _

/-- The width of a line decides between commas and line breaks, which are no lexemes. -/
theorem head_lays {args : List Argument} (h : ∀ a ∈ args, a.WellNamed) {name : String}
    (hn : Name.isValid name = true) :
    Lays (headWith args name).line (.name name :: parenLexemes (args.flatMap useLexemes)) := by
  have hu : ∀ a ∈ args, Lays (Operation.use a) (useLexemes a) := fun a ha => use_lays (h a ha)
  have hg : ∀ a, useLexemes a ≠ [] := by simp [useLexemes]
  simp only [FieldHead.line, headWith, fieldTexts_variables]
  split
  · exact (Lays.word hn).append (Lays.parens hu hg) (parens_apart _)
  · exact (Lays.word hn).append (Lays.parenLines hu hg fun _ _ => Lays.indent)
      (parenLines_apart _ _)

theorem variableDefinition_text (a : Argument) :
    (Operation.variableDefinition a).text = Operation.declaration a := by
  simp [VariableDefinition.text, Operation.variableDefinition, Operation.declaration,
    descriptionText]

theorem declarations_lay {args : List Argument} (h : ∀ a ∈ args, a.WellNamed) :
    Lays (variablesText (args.map Operation.variableDefinition))
      (parenLexemes (args.flatMap declarationLexemes)) := by
  have hd : ∀ a ∈ args, Lays (Operation.variableDefinition a).text (declarationLexemes a) := by
    intro a ha
    rw [variableDefinition_text]
    exact declaration_lays (h a ha)
  have hg : ∀ a, declarationLexemes a ≠ [] := by simp [declarationLexemes]
  simp only [variablesText, List.map_map]
  split
  · exact Lays.parenLines hd hg fun _ _ ht => ht
  · exact Lays.parens hd hg

theorem variablesText_apart (vs : List VariableDefinition) : Apart (variablesText vs) := by
  simp only [variablesText]
  split
  · exact parenLines_apart _ _
  · exact parens_apart _

theorem selectionTexts_eq (selections : List Selection) :
    selectionTexts selections = selections.map Selection.text := by
  induction selections with
  | nil => rfl
  | cons s rest ih => rw [selectionTexts, ih, List.map_cons]

theorem bodyAst_lays {body : List QueryDraft.Selection}
    (h : ∀ s ∈ body, Lays s.ast.text s.lexemes) :
    Lays (braces (selectionTexts (Selection.bodyAst body)))
      (.punctuator .braceL :: Selection.bodyLexemes body ++ [.punctuator .braceR]) := by
  rw [selectionTexts_eq, Selection.bodyAst_eq, List.map_map, Selection.bodyLexemes_eq,
    List.flatMap_def]
  exact Lays.braces (Lays.map h)

theorem leaf_lays {args : List Argument} (h : ∀ a ∈ args, a.WellNamed) {name : String}
    (hn : Name.isValid name = true) :
    Lays (Selection.leaf (headWith args name)).text
      (.name name :: parenLexemes (args.flatMap useLexemes)) := by
  have hw := Lays.words (.cons (head_lays h hn) (.cons .nil .nil))
  simp only [List.flatten_cons, List.flatten_nil, List.append_nil] at hw
  exact hw

theorem field_lays {args : List Argument} (h : ∀ a ∈ args, a.WellNamed) {name : String}
    (hn : Name.isValid name = true) {selections : List Selection} {ls : List Lexeme}
    (hs : Lays (braces (selectionTexts selections)) ls) :
    Lays (Selection.field (headWith args name) selections).text
      (.name name :: parenLexemes (args.flatMap useLexemes) ++ ls) := by
  have hw := Lays.words (.cons (head_lays h hn) (.cons .nil (.cons hs .nil)))
  simp only [List.flatten_cons, List.flatten_nil, List.append_nil, List.nil_append] at hw
  exact hw

theorem fragment_lays {member : String} (h : Name.isValid member = true)
    {selections : List Selection} {ls : List Lexeme}
    (hs : Lays (braces (selectionTexts selections)) ls) :
    Lays (Selection.inline (some member) [] selections).text
      (.punctuator .spread :: .name "on" :: .name member :: ls) := by
  have hspread : Lays "...".toList [.punctuator .spread] := .line (by decide) (.spread .nil)
  have hmember := (Lays.word h).ignored (c := ' ') (by decide)
  have hcondition := (Lays.word (s := "on") (by decide)).append hmember (.cons (by decide) _)
  have hw := Lays.words (.cons hspread (.cons hcondition (.cons .nil (.cons hs .nil))))
  simp only [List.flatten_cons, List.flatten_nil, List.append_nil, List.nil_append] at hw
  exact hw

theorem selection_lays (s : QueryDraft.Selection) (h : s.WellNamed) :
    Lays s.ast.text s.lexemes := by
  induction s using QueryDraft.Selection.induct with
  | leaf name =>
    obtain ⟨h⟩ := h
    exact leaf_lays (List.forall_mem_nil _) h
  | node label body ih =>
    obtain _ | ⟨h, hb⟩ := h
    have hset := bodyAst_lays fun s hs => ih s hs (hb s hs)
    cases label with
    | field name => exact field_lays (List.forall_mem_nil _) h hset
    | fragment member => exact fragment_lays h hset

theorem root_lays {op : Operation} (h : op.WellNamed) :
    Lays op.rootAst.text
      (.name op.field :: parenLexemes (op.args.flatMap useLexemes) ++ setLexemes op.body) := by
  rw [Operation.rootAst, setLexemes]
  split
  · rw [List.append_nil]
    exact leaf_lays h.args h.field
  · exact field_lays h.args h.field (bodyAst_lays fun s hs => selection_lays s (h.body s hs))

def headerText (op : Operation) : List Char :=
  words [op.kind.keyword.toList,
    op.name.toList ++ variablesText (op.args.map Operation.variableDefinition), []]

theorem header_lays {op : Operation} (h : op.WellNamed) :
    Lays (headerText op)
      (.name op.kind.keyword :: .name op.name ::
        parenLexemes (op.args.flatMap declarationLexemes)) := by
  have htitle := (Lays.word h.name).append (declarations_lay h.args) (variablesText_apart _)
  have hw :=
    Lays.words (.cons (Lays.word (Operation.keyword_isValid op.kind))
      (.cons htitle (.cons .nil .nil)))
  simp only [List.flatten_cons, List.flatten_nil, List.append_nil] at hw
  exact hw

theorem definition_text {op : Operation} (h : op.WellNamed) :
    op.ast.text = headerText op ++ ' ' :: braces [op.rootAst.text] := by
  -- A header with a name is never the bare keyword that is left out.
  have hne : headerText op ≠ "query".toList := by
    intro he
    have hh := header_lays h
    rw [he] at hh
    have hl := congrArg List.length (hh.unique (.word (s := "query") (by decide)))
    simp at hl
  have hk : op.kind.type.keyword = op.kind.keyword := by
    cases op.kind with
    | query => rfl
    | mutation => rfl
  have ht : op.ast.text = if headerText op = "query".toList then braces [op.rootAst.text]
      else headerText op ++ ' ' :: braces [op.rootAst.text] := by
    rw [headerText, ← hk]
    rfl
  rw [ht, if_neg hne]

theorem definition_lays {op : Operation} (h : op.WellNamed) : Lays op.ast.text op.lexemes := by
  have hset := (Lays.braces (.cons (root_lays h) .nil)).ignored (c := ' ') (by decide)
  have hd := (header_lays h).append hset (.cons (by decide) _)
  rw [definition_text h, Operation.lexemes]
  simpa using hd

theorem document_lays {ops : List Operation} (h : ∀ op ∈ ops, op.WellNamed) :
    Lays (Document.text (ops.map Operation.ast)) (ops.flatMap Operation.lexemes) := by
  have hend : Lays ['\n'] [] := Lays.nil.ignored (by decide)
  have hd := Lays.map fun op hop => definition_lays (h op hop)
  have ht := (Lays.join '\n' ['\n'] (by decide) hd).append hend (.cons (by decide) _)
  rw [List.append_nil] at ht
  rw [Document.text, List.map_map, List.flatMap_def]
  exact ht

end QueryDraft.Language
