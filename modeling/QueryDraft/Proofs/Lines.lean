import QueryDraft.Proofs.Layout
import QueryDraft.Text.Blank

namespace QueryDraft

open QueryDraft.Selection (shift shift_append shift_newline shift_line)

namespace Text

def Marked (line : List Char) : Prop := ∃ c ∈ line, isBlank c = false

theorem Marked.of_subset {line more : List Char} (h : Marked line) (hs : line ⊆ more) :
    Marked more := by
  obtain ⟨c, hc, hb⟩ := h
  exact ⟨c, hs hc, hb⟩

/-- Lines that are not blank, one below the other. -/
inductive Solid : List Char → Prop where
  | line {text : List Char} (hn : '\n' ∉ text) (hm : Marked text) : Solid text
  | upon {text rest : List Char} (hn : '\n' ∉ text) (hm : Marked text) (hr : Solid rest) :
      Solid (text ++ '\n' :: rest)

namespace Solid

variable {text more : List Char}

theorem lines (h : Solid text) : ∀ line ∈ text.splitOn '\n', Marked line := by
  induction h with
  | line hn hm =>
    rw [List.splitOn_eq_singleton hn]
    exact List.forall_mem_singleton.mpr hm
  | upon hn hm hr ih =>
    rw [List.splitOn_append_cons_self_of_not_mem hn]
    exact List.forall_mem_cons.mpr ⟨hm, ih⟩

theorem single {c : Char} (hc : isBlank c = false) : Solid [c] := by
  refine .line ?_ ⟨c, List.mem_cons_self, hc⟩
  intro hm
  obtain rfl := List.mem_singleton.mp hm
  cases hc

theorem ne_nil (h : Solid text) : text ≠ [] := by
  cases h with
  | line _ hm =>
    obtain ⟨c, hc, -⟩ := hm
    exact List.ne_nil_of_mem hc
  | upon => exact List.append_ne_nil_of_right_ne_nil _ (List.cons_ne_nil _ _)

theorem before (h : Solid text) (pad : List Char) (hp : '\n' ∉ pad) : Solid (pad ++ text) := by
  cases h with
  | line hn hm =>
    exact .line (by simp [hp, hn]) (hm.of_subset (List.subset_append_right pad text))
  | @upon first rest hn hm hr =>
    rw [← List.append_assoc]
    exact .upon (by simp [hp, hn]) (hm.of_subset (List.subset_append_right pad first)) hr

theorem cons {c : Char} (hc : c ≠ '\n') (h : Solid text) : Solid (c :: text) :=
  h.before [c] (by simpa using hc.symm)

theorem append (h : Solid text) (hm : Solid more) : Solid (text ++ more) := by
  induction h with
  | line hn _ => exact hm.before _ hn
  | upon hn hmark _ ih =>
    rw [List.append_assoc, List.cons_append]
    exact .upon hn hmark ih

theorem after (h : Solid text) (pad : List Char) (hp : '\n' ∉ pad) : Solid (text ++ pad) := by
  induction h with
  | @line text hn hm =>
    exact .line (by simp [hp, hn]) (hm.of_subset (List.subset_append_left text pad))
  | upon hn hmark _ ih =>
    rw [List.append_assoc, List.cons_append]
    exact .upon hn hmark ih

theorem newline (h : Solid text) (hm : Solid more) : Solid (text ++ '\n' :: more) := by
  induction h with
  | line hn hmark => exact .upon hn hmark hm
  | upon hn hmark _ ih =>
    rw [List.append_assoc, List.cons_append]
    exact .upon hn hmark ih

theorem shift (h : Solid text) (pad : List Char) (hp : '\n' ∉ pad) : Solid (shift pad text) := by
  induction h with
  | line hn hm =>
    rw [shift_line pad hn]
    exact .line hn hm
  | upon hn hm _ ih =>
    rw [shift_append, shift_newline, shift_line pad hn]
    exact .upon hn hm (ih.before pad hp)

theorem word {s : String} (h : Name.isValid s = true) : Solid s.toList := by
  have hb : ∀ c ∈ s.toList, isBlank c = false := by
    intro c hc
    exact Name.forall_isPart (P := fun c => isBlank c = false) (by decide +kernel)
      (Name.isPart_of_isValid h hc)
  refine .line (Selection.newline_not_mem h) ?_
  cases hs : s.toList with
  | nil => simp [Name.isValid, hs] at h
  | cons c rest => exact ⟨c, List.mem_cons_self, hb c (by simp [hs])⟩

end Solid

end Text

open Text (Solid)

theorem Label.text_solid {label : Label} (h : Name.isValid label.name = true) :
    Solid label.text := by
  cases label with
  | field name => exact .word h
  | fragment member => exact (Solid.word h).before "... on ".toList (by decide)

namespace Selection

theorem bodyText_solid {body : List Selection} (hn : body ≠ []) (h : ∀ s ∈ body, Solid s.text) :
    Solid (bodyText body) := by
  induction body with
  | nil => exact absurd rfl hn
  | cons s rest ih =>
    have hs := h s List.mem_cons_self
    cases rest with
    | nil => exact hs
    | cons t rest =>
      exact hs.newline (ih (List.cons_ne_nil t rest) fun u hu => h u (List.mem_cons_of_mem s hu))

theorem text_solid {s : Selection} (h : s.WellNamed) : Solid s.text := by
  induction h with
  | leaf hn => exact .word hn
  | @node label body hl _ ih =>
    have hopen : Solid opening := .line (by decide) ⟨'\x7b', by decide, by decide⟩
    have hclose : Solid closing := .line (by decide) ⟨'\x7d', by decide, by decide⟩
    have hhead := (Label.text_solid hl).append hopen
    rw [text]
    by_cases hb : body = []
    · rw [hb, bodyText, List.append_nil]
      exact hhead.append hclose
    · exact (hhead.append (bodyText_solid hb ih)).append hclose

end Selection

namespace Operation

theorem newline_not_mem_separated {parts : List (List Char)} (h : ∀ p ∈ parts, '\n' ∉ p) :
    '\n' ∉ separated parts := by
  induction parts with
  | nil => exact List.not_mem_nil
  | cons p rest ih =>
    have hr := ih fun q hq => h q (List.mem_cons_of_mem p hq)
    have hp := h p List.mem_cons_self
    cases rest with
    | nil => exact hp
    | cons q rest => simp [separated, hp, hr]

theorem newline_not_mem_parens {parts : List (List Char)} (h : ∀ p ∈ parts, '\n' ∉ p) :
    '\n' ∉ parens parts := by
  rw [parens]
  split
  · exact List.not_mem_nil
  · simp [newline_not_mem_separated h]

theorem header_solid {op : Operation} (h : op.WellNamed) :
    Solid (op.kind.keyword.toList ++ ' ' ::
      (op.name.toList ++ (parens (op.args.map declaration) ++ [' ', '\x7b']))) := by
  have hargs : '\n' ∉ parens (op.args.map declaration) :=
    newline_not_mem_parens
      (List.forall_mem_map.mpr fun a ha => Language.newline_not_mem_declaration (h.args a ha))
  have hopen : Solid [' ', '\x7b'] := (Solid.single (by decide)).cons (by decide)
  have htitle := (Solid.word h.name).append (hopen.before _ hargs)
  exact (Solid.word (keyword_isValid op.kind)).append (htitle.cons (by decide))

theorem field_solid {op : Operation} (h : op.WellNamed) :
    Solid (' ' :: ' ' :: (op.field.toList ++ parens (op.args.map use))) := by
  have hargs : '\n' ∉ parens (op.args.map use) :=
    newline_not_mem_parens
      (List.forall_mem_map.mpr fun a ha => Language.newline_not_mem_use (h.args a ha))
  exact (((Solid.word h.field).after _ hargs).cons (by decide)).cons (by decide)

theorem indent_solid {text : List Char} (h : Solid text) : Solid (indent text) :=
  (h.shift "    ".toList (by decide)).before _ (by decide)

theorem text_solid {op : Operation} (h : op.WellNamed) : Solid op.text := by
  have hend : Solid ['\x7d'] := .single (by decide)
  have hfield := field_solid h
  have hlast : Solid (' ' :: ' ' :: (op.field.toList ++ (parens (op.args.map use) ++
      (bodyText op.body ++ '\n' :: ['\x7d'])))) := by
    rw [bodyText]
    split
    · have hf := hfield.newline hend
      simpa only [List.cons_append, List.append_assoc, List.nil_append] using hf
    · next hb =>
      have hbody :=
        Selection.bodyText_solid (by simpa using hb) fun s hs => Selection.text_solid (h.body s hs)
      have hclose := (hend.cons (c := ' ') (by decide)).cons (c := ' ') (by decide)
      have hset := ((indent_solid hbody).newline hclose).newline hend
      have hf := (hfield.after [' ', '\x7b'] (by decide)).newline hset
      have ho : " \x7b\n".toList = [' ', '\x7b', '\n'] := rfl
      have hc : "\n  \x7d".toList = ['\n', ' ', ' ', '\x7d'] := rfl
      simpa only [ho, hc, List.cons_append, List.append_assoc, List.nil_append] using hf
  have ht := (header_solid h).newline hlast
  have ho : " \x7b\n".toList = [' ', '\x7b', '\n'] := rfl
  have hc : "\n\x7d".toList = ['\n', '\x7d'] := rfl
  rw [text_eq, ho, hc]
  simpa only [List.cons_append, List.append_assoc, List.nil_append] using ht

end Operation

namespace Language

theorem lines_solid {parts : List (List Char)} (hn : parts ≠ []) (h : ∀ p ∈ parts, Solid p) :
    Solid (lines parts) := by
  induction parts with
  | nil => exact absurd rfl hn
  | cons p rest ih =>
    have hp := h p List.mem_cons_self
    cases rest with
    | nil => exact hp
    | cons q rest =>
      have hr := ih (List.cons_ne_nil q rest) fun r hr => h r (List.mem_cons_of_mem p hr)
      rw [lines, join, List.append_assoc]
      exact hp.newline hr

theorem join_blank_solid {parts : List (List Char)} (hn : parts ≠ []) (h : ∀ p ∈ parts, Solid p) :
    Solid (join [' '] parts) := by
  induction parts with
  | nil => exact absurd rfl hn
  | cons p rest ih =>
    have hp := h p List.mem_cons_self
    cases rest with
    | nil => exact hp
    | cons q rest =>
      have hr := ih (List.cons_ne_nil q rest) fun r hr => h r (List.mem_cons_of_mem p hr)
      rw [join, List.append_assoc]
      exact hp.append (hr.before [' '] (by decide))

theorem words_solid {first : List Char} (hf : Solid first) {parts : List (List Char)}
    (h : ∀ p ∈ parts, p ≠ [] → Solid p) : Solid (words (first :: parts)) := by
  refine join_blank_solid ?_ fun p hp => ?_
  · exact List.ne_nil_of_mem (List.mem_filter.mpr ⟨List.mem_cons_self, by simpa using hf.ne_nil⟩)
  · obtain ⟨hm, hne⟩ := List.mem_filter.mp hp
    obtain rfl | hm := List.mem_cons.mp hm
    · exact hf
    · exact h p hm (by simpa using hne)

theorem indent_solid {text : List Char} (h : Solid text) : Solid (indent text) :=
  (h.shift [' ', ' '] (by decide)).before [' ', ' '] (by decide)

theorem braces_solid {parts : List (List Char)} (h : ∀ p ∈ parts, Solid p) :
    Solid (braces parts) := by
  rw [braces]
  split
  · exact (Solid.single (by decide)).cons (by decide)
  · next hn =>
    have hopen : Solid ['\x7b'] := .single (by decide)
    have hclose : Solid ['\x7d'] := .single (by decide)
    have hlines := indent_solid (lines_solid (by simpa using hn) h)
    have hb := hopen.newline (hlines.newline hclose)
    simpa only [List.cons_append, List.append_assoc, List.nil_append] using hb

theorem newline_not_mem_join (separator : List Char) (hs : '\n' ∉ separator)
    {parts : List (List Char)} (h : ∀ p ∈ parts, '\n' ∉ p) : '\n' ∉ join separator parts := by
  induction parts with
  | nil => exact List.not_mem_nil
  | cons p rest ih =>
    have hr := ih fun q hq => h q (List.mem_cons_of_mem p hq)
    have hp := h p List.mem_cons_self
    cases rest with
    | nil => exact hp
    | cons q rest => simp [join, hs, hp, hr]

theorem newline_not_mem_parens {parts : List (List Char)} (h : ∀ p ∈ parts, '\n' ∉ p) :
    '\n' ∉ parens parts := by
  rw [parens]
  split
  · exact List.not_mem_nil
  · simp [commaSeparated, newline_not_mem_join [',', ' '] (by decide) h]

theorem use_solid {a : Argument} (h : a.WellNamed) : Solid (Operation.use a) :=
  .line (newline_not_mem_use h) ⟨':', by simp [Operation.use], by decide⟩

theorem head_solid {args : List Argument} (h : ∀ a ∈ args, a.WellNamed) {name : String}
    (hn : Name.isValid name = true) : Solid (headWith args name).line := by
  have hname := Solid.word hn
  have hu : ∀ p ∈ args.map Operation.use, '\n' ∉ p :=
    List.forall_mem_map.mpr fun a ha => newline_not_mem_use (h a ha)
  simp only [FieldHead.line, headWith, fieldTexts_variables]
  split
  · exact hname.after _ (newline_not_mem_parens hu)
  · rw [parenLines]
    split
    · rwa [List.append_nil]
    · next hne =>
      have hclose : Solid [')'] := .single (by decide)
      have huses : ∀ p ∈ args.map Operation.use, Solid p :=
        List.forall_mem_map.mpr fun a ha => use_solid (h a ha)
      have hlines := indent_solid (lines_solid (by simpa using hne) huses)
      have hl := (hname.after ['('] (by decide)).newline (hlines.newline hclose)
      simpa only [List.cons_append, List.append_assoc, List.nil_append] using hl

theorem leaf_solid {args : List Argument} (h : ∀ a ∈ args, a.WellNamed) {name : String}
    (hn : Name.isValid name = true) : Solid (Selection.leaf (headWith args name)).text := by
  rw [Selection.text]
  exact words_solid (head_solid h hn) (by simp [headWith, directivesText, words, join])

theorem set_solid {body : List QueryDraft.Selection} (h : ∀ s ∈ body, Solid s.ast.text) :
    Solid (braces (selectionTexts (Selection.bodyAst body))) := by
  rw [selectionTexts_eq, Selection.bodyAst_eq, List.map_map]
  exact braces_solid (List.forall_mem_map.mpr h)

theorem field_solid {args : List Argument} (h : ∀ a ∈ args, a.WellNamed) {name : String}
    (hn : Name.isValid name = true) {selections : List Selection}
    (hs : Solid (braces (selectionTexts selections))) :
    Solid (Selection.field (headWith args name) selections).text := by
  rw [Selection.text]
  exact words_solid (head_solid h hn)
    (by simpa [headWith, directivesText, words, join] using fun _ => hs)

theorem fragment_solid {member : String} (h : Name.isValid member = true)
    {selections : List Selection} (hs : Solid (braces (selectionTexts selections))) :
    Solid (Selection.inline (some member) [] selections).text := by
  have hspread : Solid "...".toList := .line (by decide) ⟨'.', by decide, by decide⟩
  have hcondition : Solid ('o' :: 'n' :: ' ' :: member.toList) :=
    (Solid.word h).before "on ".toList (by decide)
  rw [Selection.text]
  refine words_solid hspread ?_
  simpa [directivesText, words, join] using ⟨hcondition, fun _ => hs⟩

theorem selection_solid (s : QueryDraft.Selection) (h : s.WellNamed) : Solid s.ast.text := by
  induction s using QueryDraft.Selection.induct with
  | leaf name =>
    obtain ⟨h⟩ := h
    exact leaf_solid (List.forall_mem_nil _) h
  | node label body ih =>
    obtain _ | ⟨h, hb⟩ := h
    have hset := set_solid fun s hs => ih s hs (hb s hs)
    cases label with
    | field name => exact field_solid (List.forall_mem_nil _) h hset
    | fragment member => exact fragment_solid h hset

theorem root_solid {op : Operation} (h : op.WellNamed) : Solid op.rootAst.text := by
  rw [Operation.rootAst]
  split
  · exact leaf_solid h.args h.field
  · exact field_solid h.args h.field (set_solid fun s hs => selection_solid s (h.body s hs))

theorem newline_not_mem_variables {args : List Argument} (h : ∀ a ∈ args, a.WellNamed) :
    '\n' ∉ variablesText (args.map Operation.variableDefinition) := by
  have hd : ∀ p ∈ (args.map Operation.variableDefinition).map VariableDefinition.text,
      '\n' ∉ p := by
    simpa [variableDefinition_text] using fun a ha => newline_not_mem_declaration (h a ha)
  simp only [variablesText]
  rw [if_neg]
  · exact newline_not_mem_parens hd
  · simpa using hd

theorem header_solid {op : Operation} (h : op.WellNamed) : Solid (headerText op) := by
  have htitle := (Solid.word h.name).after _ (newline_not_mem_variables h.args)
  rw [headerText]
  exact words_solid (.word (Operation.keyword_isValid op.kind)) (by simpa using fun _ => htitle)

theorem definition_solid {op : Operation} (h : op.WellNamed) : Solid op.ast.text := by
  have hset := braces_solid (List.forall_mem_singleton.mpr (root_solid h))
  rw [definition_text h]
  exact (header_solid h).append (hset.cons (by decide))

end Language

end QueryDraft
