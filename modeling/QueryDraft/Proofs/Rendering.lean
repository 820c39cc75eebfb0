import Mathlib.Data.List.Basic
import QueryDraft.Proofs.Lexing
import QueryDraft.Proofs.Naming

namespace QueryDraft

open QueryDraft.Language (Lexeme Lexes Scans Apart isIgnored)

def TypeRef.lexemes : TypeRef → List Lexeme
  | .named name => [.name name]
  | .list item => .punctuator .bracketL :: item.lexemes ++ [.punctuator .bracketR]
  | .nonNull inner => inner.lexemes ++ [.punctuator .bang]

theorem TypeRef.text_lexes (t : TypeRef) (h : t.WellNamed) : Lexes t.text t.lexemes := by
  induction t with
  | named name => exact .word h
  | list item ih =>
    exact ((ih h).append (Lexes.nil.punctuator (c := ']') rfl) (.cons (by decide) _)).punctuator
      (c := '[') rfl
  | nonNull inner ih =>
    exact (ih h.2).append (Lexes.nil.punctuator (c := '!') rfl) (.cons (by decide) _)

def Label.lexemes : Label → List Lexeme
  | .field name => [.name name]
  | .fragment member => [.punctuator .spread, .name "on", .name member]

theorem Label.text_lexes (label : Label) (h : Name.isValid label.name = true) :
    Lexes label.text label.lexemes := by
  cases label with
  | field name => exact .word h
  | fragment member =>
    have hm := (Lexes.word h).ignored (c := ' ') rfl
    exact ((hm.name (s := "on") (by decide) (.cons (by decide) _)).ignored (c := ' ') rfl).spread

namespace Selection

mutual

def lexemes : Selection → List Lexeme
  | .leaf name => [.name name]
  | .node label body =>
    label.lexemes ++ .punctuator .braceL :: bodyLexemes body ++ [.punctuator .braceR]

def bodyLexemes : List Selection → List Lexeme
  | [] => []
  | s :: rest => s.lexemes ++ bodyLexemes rest

end

def shift (pad text : List Char) : List Char :=
  text.flatMap fun c => if c = '\n' then '\n' :: pad else [c]

theorem shift_append (pad text more : List Char) :
    shift pad (text ++ more) = shift pad text ++ shift pad more :=
  List.flatMap_append

theorem shift_newline (pad text : List Char) :
    shift pad ('\n' :: text) = '\n' :: (pad ++ shift pad text) := by
  rw [shift, List.flatMap_cons, if_pos rfl, List.cons_append, shift]

theorem shift_nil (text : List Char) : shift [] text = text := by
  have h : (fun c : Char => if c = '\n' then ['\n'] else [c]) = fun c => [c] := by
    funext c
    split
    · next hc => rw [hc]
    · rfl
  rw [shift, h, List.flatMap_singleton']

theorem shift_line (pad : List Char) {text : List Char} (h : '\n' ∉ text) :
    shift pad text = text := by
  have hn : ∀ c ∈ text, (if c = '\n' then '\n' :: pad else [c]) = [c] := fun c hc =>
    if_neg fun (he : c = '\n') => h (he ▸ hc)
  rw [shift, List.flatMap_congr hn, List.flatMap_singleton']

theorem shift_cons {c : Char} (h : c ≠ '\n') (pad text : List Char) :
    shift pad (c :: text) = c :: shift pad text := by
  rw [shift, List.flatMap_cons, if_neg h, shift]
  rfl

theorem shift_shift {more : List Char} (h : '\n' ∉ more) (pad text : List Char) :
    shift pad (shift more text) = shift (pad ++ more) text := by
  induction text with
  | nil => rfl
  | cons c text ih =>
    by_cases hc : c = '\n'
    · subst hc
      rw [shift_newline, shift_newline, shift_newline, shift_append, shift_line pad h, ih,
        List.append_assoc]
    · rw [shift_cons hc, shift_cons hc, shift_cons hc, ih]

theorem newline_not_mem {name : String} (h : Name.isValid name = true) : '\n' ∉ name.toList :=
  fun hm => absurd (Name.isPart_of_isValid h hm) (by decide)

theorem bodyLexemes_eq (body : List Selection) : bodyLexemes body = body.flatMap lexemes := by
  induction body with
  | nil => rfl
  | cons s rest ih => rw [bodyLexemes, ih, List.flatMap_cons]

theorem shift_label (pad : List Char) {label : Label} (h : Name.isValid label.name = true) :
    shift pad label.text = label.text := by
  cases label with
  | field name => exact shift_line pad (newline_not_mem h)
  | fragment member =>
    refine shift_line pad fun hm => ?_
    obtain hm | hm := List.mem_append.mp hm
    · exact absurd hm (by decide)
    · exact newline_not_mem h hm

theorem lines_apart (pad : List Char) (body : List Selection) :
    Apart (shift pad (body.flatMap line)) := by
  cases body with
  | nil => exact .nil
  | cons s rest =>
    rw [List.flatMap_cons, line, List.cons_append, shift_newline]
    exact .cons (by decide) _

section

variable {pad : List Char} (hp : ∀ c ∈ pad, isIgnored c = true)

include hp

theorem lines_lexes {body : List Selection} (h : ∀ s ∈ body, Lexes (shift pad s.text) s.lexemes) :
    Lexes (shift pad (body.flatMap line)) (body.flatMap lexemes) := by
  induction body with
  | nil => exact .nil
  | cons s rest ih =>
    have hs := ((h s List.mem_cons_self).blank hp).ignored (c := '\n') rfl
    have hr := ih fun t ht => h t (List.mem_cons_of_mem s ht)
    rw [List.flatMap_cons, shift_append, line, shift_newline]
    exact hs.append hr (lines_apart pad rest)

theorem bodyText_lexes {body : List Selection}
    (h : ∀ s ∈ body, Lexes (shift pad s.text) s.lexemes) :
    Lexes (shift pad (bodyText body)) (bodyLexemes body) := by
  cases body with
  | nil => exact .nil
  | cons s rest =>
    rw [bodyText_cons, bodyLexemes_eq, shift_append, List.flatMap_cons]
    exact (h s List.mem_cons_self).append
      (lines_lexes hp fun t ht => h t (List.mem_cons_of_mem s ht))
      (lines_apart pad rest)

theorem text_lexes {s : Selection} (h : s.WellNamed) : Lexes (shift pad s.text) s.lexemes := by
  induction s using induct with
  | leaf name =>
    obtain ⟨h⟩ := h
    rw [text, shift_line pad (newline_not_mem h)]
    exact .word h
  | node label body ih =>
    obtain _ | ⟨h, hb⟩ := h
    have hclose : Lexes (shift pad closing) [.punctuator .braceR] :=
      (Lexes.nil.punctuator (c := '\x7d') rfl).ignored (c := ' ') rfl
    have hbody :=
      (bodyText_lexes hp fun s hs => ih s hs (hb s hs)).append hclose (.cons (by decide) _)
    have hopen :=
      ((hbody.ignored (c := ' ') rfl).punctuator (c := '\x7b') rfl).ignored (c := ' ') rfl
    rw [text, shift_append, shift_append, shift_append, shift_label pad h, List.append_assoc,
      List.append_assoc, lexemes, List.append_assoc]
    exact (label.text_lexes h).append hopen (.cons (by decide) _)

end

theorem bodyText_plain_lexes {body : List Selection} (h : ∀ s ∈ body, s.WellNamed) :
    Lexes (bodyText body) (bodyLexemes body) := by
  have hp : ∀ c ∈ ([] : List Char), isIgnored c = true := by simp
  have hb := bodyText_lexes hp fun s hs => text_lexes hp (h s hs)
  rwa [shift_nil] at hb

end Selection

namespace Operation

theorem separated_lexes {α : Type} {f : α → List Char} {g : α → List Lexeme} {xs : List α}
    (h : ∀ x ∈ xs, Lexes (f x) (g x)) : Lexes (separated (xs.map f)) (xs.flatMap g) := by
  induction xs with
  | nil => exact .nil
  | cons x rest ih =>
    have hr := ih fun y hy => h y (List.mem_cons_of_mem x hy)
    have hx := h x List.mem_cons_self
    cases rest with
    | nil => simpa [separated] using hx
    | cons y rest =>
      rw [List.flatMap_cons]
      exact hx.append ((hr.ignored (c := ' ') rfl).ignored (c := ',') rfl) (.cons (by decide) _)

def parenLexemes (parts : List Lexeme) : List Lexeme :=
  if parts.isEmpty then [] else .punctuator .parenL :: parts ++ [.punctuator .parenR]

theorem parens_lexes {α : Type} {f : α → List Char} {g : α → List Lexeme} {xs : List α}
    (h : ∀ x ∈ xs, Lexes (f x) (g x)) (hg : ∀ x, g x ≠ []) :
    Lexes (parens (xs.map f)) (parenLexemes (xs.flatMap g)) := by
  cases xs with
  | nil => exact .nil
  | cons x rest =>
    have hn : ((x :: rest).flatMap g).isEmpty = false := by simp [hg x]
    have hclose := Lexes.nil.punctuator (c := ')') rfl
    rw [parens, parenLexemes, hn]
    exact ((separated_lexes h).append hclose (.cons (by decide) _)).punctuator (c := '(') rfl

theorem parens_apart (parts : List (List Char)) : Apart (parens parts) := by
  rw [parens]
  split
  · exact .nil
  · exact .cons (by decide) _

def declarationLexemes (a : Argument) : List Lexeme :=
  .punctuator .dollar :: .name a.name :: .punctuator .colon :: a.type.lexemes

def useLexemes (a : Argument) : List Lexeme :=
  [.name a.name, .punctuator .colon, .punctuator .dollar, .name a.name]

theorem declaration_lexes {a : Argument} (h : a.WellNamed) :
    Lexes (declaration a) (declarationLexemes a) := by
  have ht := ((a.type.text_lexes h.2).ignored (c := ' ') rfl).punctuator (c := ':') rfl
  exact (ht.name h.1 (.cons (by decide) _)).punctuator (c := '$') rfl

theorem use_lexes {a : Argument} (h : a.WellNamed) : Lexes (use a) (useLexemes a) := by
  have hv :=
    (((Lexes.word h.1).punctuator (c := '$') rfl).ignored (c := ' ') rfl).punctuator (c := ':') rfl
  exact hv.name h.1 (.cons (by decide) _)

def setLexemes (body : List Selection) : List Lexeme :=
  if body.isEmpty then []
  else .punctuator .braceL :: Selection.bodyLexemes body ++ [.punctuator .braceR]

def lexemes (op : Operation) : List Lexeme :=
  .name op.kind.keyword :: .name op.name :: (parenLexemes (op.args.flatMap declarationLexemes) ++
    .punctuator .braceL :: .name op.field :: (parenLexemes (op.args.flatMap useLexemes) ++
      (setLexemes op.body ++ [.punctuator .braceR])))

theorem pad_ignored : ∀ c ∈ "    ".toList, isIgnored c = true := List.all_eq_true.mp (by decide)

theorem indent_lexes {body : List Selection} (h : ∀ s ∈ body, s.WellNamed) :
    Lexes (indent (Selection.bodyText body)) (Selection.bodyLexemes body) :=
  (Selection.bodyText_lexes pad_ignored fun s hs => Selection.text_lexes pad_ignored (h s hs)).blank
    pad_ignored

theorem closing_lexes : Lexes "\n  \x7d".toList [.punctuator .braceR] := by
  have hp : ∀ c ∈ "\n  ".toList, isIgnored c = true := List.all_eq_true.mp (by decide)
  exact (Lexes.nil.punctuator (c := '\x7d') (by decide)).blank hp

theorem opening_lexes {text : List Char} {ls : List Lexeme} (h : Lexes text ls) :
    Lexes (" \x7b\n".toList ++ text) (.punctuator .braceL :: ls) :=
  ((h.ignored (c := '\n') (by decide)).punctuator (c := '\x7b') (by decide)).ignored (c := ' ')
    (by decide)

theorem bodyText_lexes {body : List Selection} (h : ∀ s ∈ body, s.WellNamed) :
    Lexes (bodyText body) (setLexemes body) := by
  cases body with
  | nil => exact .nil
  | cons s rest =>
    have hb := (indent_lexes h).append closing_lexes (.cons (by decide) _)
    have ho := opening_lexes hb
    rw [← List.append_assoc] at ho
    exact ho

theorem bodyText_apart {text : List Char} (body : List Selection) (h : Apart text) :
    Apart (bodyText body ++ text) := by
  rw [bodyText]
  split
  · exact h
  · exact .cons (c := ' ') (by decide) _

theorem keyword_isValid (kind : OperationKind) : Name.isValid kind.keyword = true := by
  cases kind with
  | query => decide
  | mutation => decide

theorem declarations_lexes {args : List Argument} (h : ∀ a ∈ args, a.WellNamed) :
    Lexes (parens (args.map declaration)) (parenLexemes (args.flatMap declarationLexemes)) :=
  parens_lexes (fun a ha => declaration_lexes (h a ha)) (by simp [declarationLexemes])

theorem uses_lexes {args : List Argument} (h : ∀ a ∈ args, a.WellNamed) :
    Lexes (parens (args.map use)) (parenLexemes (args.flatMap useLexemes)) :=
  parens_lexes (fun a ha => use_lexes (h a ha)) (by simp [useLexemes])

theorem text_eq (op : Operation) :
    op.text = op.kind.keyword.toList ++ ' ' ::
      (op.name.toList ++ (parens (op.args.map declaration) ++
        (" \x7b\n".toList ++ ' ' :: ' ' :: (op.field.toList ++ (parens (op.args.map use) ++
          (bodyText op.body ++ "\n\x7d".toList)))))) := by
  have hs : " \x7b\n  ".toList = " \x7b\n".toList ++ [' ', ' '] := by decide
  simp only [text, hs, List.append_assoc, List.cons_append, List.nil_append]

theorem text_lexes {op : Operation} (h : op.WellNamed) : Lexes op.text op.lexemes := by
  have hend : Lexes "\n\x7d".toList [.punctuator .braceR] :=
    (Lexes.nil.punctuator (c := '\x7d') (by decide)).ignored (c := '\n') (by decide)
  have hset := (bodyText_lexes h.body).append hend (.cons (by decide) _)
  have huses := (uses_lexes h.args).append hset (bodyText_apart op.body (.cons (by decide) _))
  have hfield :=
    huses.name h.field ((parens_apart _).append (bodyText_apart op.body (.cons (by decide) _)))
  have hopen :=
    opening_lexes ((hfield.ignored (c := ' ') (by decide)).ignored (c := ' ') (by decide))
  have hvars := (declarations_lexes h.args).append hopen (.cons (by decide) _)
  have hname :=
    (hvars.name h.name ((parens_apart _).append (.cons (by decide) _))).ignored (c := ' ')
      (by decide)
  rw [text_eq]
  exact hname.name (keyword_isValid op.kind) (.cons (by decide) _)

theorem paragraphs_scan {ops : List Operation} (h : ∀ op ∈ ops, op.WellNamed) :
    Scans (ops.flatMap paragraph) (ops.flatMap lexemes) := by
  induction ops with
  | nil => exact .nil
  | cons op rest ih =>
    have hr :=
      ((ih fun o ho => h o (List.mem_cons_of_mem op ho)).ignored (c := '\n') (by decide)).ignored
        (c := '\n') (by decide)
    have hp : ∀ more, op.paragraph ++ more = op.text ++ '\n' :: '\n' :: more :=
      fun more => List.append_assoc _ _ _
    rw [List.flatMap_cons, List.flatMap_cons, hp]
    exact text_lexes (h op List.mem_cons_self) _ _ (.cons (by decide) _) hr

end Operation

end QueryDraft
