import QueryDraft.Proofs.Formatting

namespace QueryDraft

open QueryDraft.Language (Lexeme Scans scan)

namespace Language

/-- The selection sets that are not within another one, where `depth` of them are open already. -/
def outermost : (depth : Nat) → List Lexeme → Nat
  | _, [] => 0
  | depth, .punctuator .braceL :: rest => (if depth = 0 then 1 else 0) + outermost (depth + 1) rest
  | depth, .punctuator .braceR :: rest => outermost (depth - 1) rest
  | depth, _ :: rest => outermost depth rest

/-- The operations of a text, each with an outermost selection set; none if the text has characters
that belong to no lexeme. -/
def operationsIn (text : List Char) : Option Nat :=
  if (scan text).fault.isNone then some (outermost 0 ((scan text).tokens.map (·.lexeme))) else none

theorem Scans.operationsIn {text : List Char} {ls : List Lexeme} (h : Scans text ls) :
    operationsIn text = some (outermost 0 ls) := by
  obtain ⟨hf, hl⟩ := scan_of_scans h
  rw [Language.operationsIn, hf, hl]
  rfl

theorem outermost_cons {l : Lexeme} (hl : l ≠ .punctuator .braceL) (hr : l ≠ .punctuator .braceR)
    (depth : Nat) (rest : List Lexeme) : outermost depth (l :: rest) = outermost depth rest := by
  rw [outermost]
  · exact hl
  · exact hr

/-- Lexemes that open as many sets as they close, and none of these an outermost one where `opened`
sets are open. -/
def Passes (opened : Nat) (ls : List Lexeme) : Prop :=
  ∀ depth, opened ≤ depth → ∀ rest, outermost depth (ls ++ rest) = outermost depth rest

namespace Passes

variable {opened : Nat} {ls ms : List Lexeme}

theorem nil : Passes opened [] := fun _ _ _ => rfl

theorem mono {more : Nat} (h : Passes opened ls) (hm : opened ≤ more) : Passes more ls :=
  fun depth hd => h depth (Nat.le_trans hm hd)

theorem append (h : Passes opened ls) (hm : Passes opened ms) : Passes opened (ls ++ ms) := by
  intro depth hd rest
  rw [List.append_assoc, h depth hd, hm depth hd]

theorem cons {l : Lexeme} (hl : l ≠ .punctuator .braceL) (hr : l ≠ .punctuator .braceR)
    (h : Passes opened ls) : Passes opened (l :: ls) := by
  intro depth hd rest
  rw [List.cons_append, outermost_cons hl hr, h depth hd]

theorem name (n : String) (h : Passes opened ls) : Passes opened (.name n :: ls) :=
  h.cons Lexeme.noConfusion Lexeme.noConfusion

theorem flatMap {α : Type} {g : α → List Lexeme} {xs : List α} (h : ∀ x ∈ xs, Passes opened (g x)) :
    Passes opened (xs.flatMap g) := by
  induction xs with
  | nil => exact nil
  | cons x xs ih =>
    rw [List.flatMap_cons]
    exact (h x List.mem_cons_self).append (ih fun y hy => h y (List.mem_cons_of_mem x hy))

theorem braces (h : Passes 1 ls) :
    Passes 1 (.punctuator .braceL :: ls ++ [.punctuator .braceR]) := by
  intro depth hd rest
  rw [List.cons_append, List.cons_append, outermost, if_neg (by omega), List.append_assoc,
    h (depth + 1) (Nat.le_add_left 1 depth), List.cons_append, outermost, Nat.add_sub_cancel,
    Nat.zero_add]
  rfl

end Passes

end Language

open QueryDraft.Language (Passes operationsIn outermost)

theorem TypeRef.lexemes_pass (t : TypeRef) : Passes 0 t.lexemes := by
  induction t with
  | named n => exact Passes.nil.name n
  | list item ih =>
    exact (ih.append (Passes.nil.cons (by decide) (by decide))).cons (by decide) (by decide)
  | nonNull inner ih => exact ih.append (Passes.nil.cons (by decide) (by decide))

theorem Selection.lexemes_pass (s : Selection) : Passes 1 s.lexemes := by
  induction s using induct with
  | leaf n => exact Passes.nil.name n
  | node label body ih =>
    have hb : Passes 1 (bodyLexemes body) := by
      rw [bodyLexemes_eq]
      exact Passes.flatMap ih
    have hl : Passes 1 label.lexemes := by
      cases label with
      | field n => exact Passes.nil.name n
      | fragment member => exact ((Passes.nil.name member).name "on").cons (by decide) (by decide)
    rw [lexemes, List.append_assoc]
    exact hl.append hb.braces

namespace Operation

theorem parenLexemes_pass {parts : List Lexeme} (h : Passes 0 parts) :
    Passes 0 (parenLexemes parts) := by
  rw [parenLexemes]
  split
  · exact Passes.nil
  · exact (h.append (Passes.nil.cons (by decide) (by decide))).cons (by decide) (by decide)

theorem declarations_pass (args : List Argument) :
    Passes 0 (parenLexemes (args.flatMap declarationLexemes)) := by
  apply parenLexemes_pass
  apply Passes.flatMap
  intro a _
  exact ((a.type.lexemes_pass.cons (by decide) (by decide)).name a.name).cons (by decide)
    (by decide)

theorem uses_pass (args : List Argument) : Passes 0 (parenLexemes (args.flatMap useLexemes)) := by
  apply parenLexemes_pass
  apply Passes.flatMap
  intro a _
  exact (((Passes.nil.name a.name).cons (by decide) (by decide)).cons (by decide)
    (by decide)).name a.name

theorem setLexemes_pass (body : List Selection) : Passes 1 (setLexemes body) := by
  rw [setLexemes]
  split
  · exact Passes.nil
  · rw [Selection.bodyLexemes_eq]
    exact (Passes.flatMap fun s _ => s.lexemes_pass).braces

theorem outermost_lexemes (op : Operation) (rest : List Lexeme) :
    outermost 0 (op.lexemes ++ rest) = outermost 0 rest + 1 := by
  -- Up to the first brace no set is open; from there on all others are within that one.
  have hset : Passes 1
      (.name op.field :: (parenLexemes (op.args.flatMap useLexemes) ++ setLexemes op.body)) :=
    (((uses_pass op.args).mono (Nat.zero_le 1)).append (setLexemes_pass op.body)).name op.field
  have hhead : Passes 0
      (.name op.kind.keyword :: .name op.name ::
        parenLexemes (op.args.flatMap declarationLexemes)) :=
    ((declarations_pass op.args).name op.name).name op.kind.keyword
  have hl : op.lexemes ++ rest =
      (.name op.kind.keyword :: .name op.name ::
        parenLexemes (op.args.flatMap declarationLexemes)) ++ .punctuator .braceL ::
          ((.name op.field :: (parenLexemes (op.args.flatMap useLexemes) ++ setLexemes op.body)) ++
            .punctuator .braceR :: rest) := by
    simp [lexemes]
  rw [hl, hhead 0 (Nat.le_refl 0), outermost, if_pos rfl, hset 1 (Nat.le_refl 1), outermost,
    Nat.add_comm]

theorem outermost_flatMap (ops : List Operation) :
    outermost 0 (ops.flatMap lexemes) = ops.length := by
  induction ops with
  | nil => rfl
  | cons op rest ih => rw [List.flatMap_cons, outermost_lexemes, ih, List.length_cons]

end Operation

/-- The operations of a text: as many outermost selection sets, and as many definitions if the text
can be parsed. -/
structure Counts (text : List Char) (n : Nat) : Prop where
  sets : operationsIn text = some n
  definitions : ∀ ast, Language.parse text = .ok ast → ast.length = n

theorem Schema.document_counts {s : Schema} {operations : RootField → Operation}
    (h : ∀ root ∈ s.roots, (operations root).WellNamed) :
    Counts (s.document operations) s.roots.length where
  sets := by
    rw [(document_scans h).operationsIn, Operation.outermost_flatMap, List.length_map]
  definitions := by
    intro ast ha
    by_cases hn : s.roots = []
    · rw [document, hn] at ha
      cases ha
    · by_cases hf : s.Fits operations
      · rw [parse_document h hn hf] at ha
        cases ha
        rw [List.length_map]
      · obtain ⟨fault, hp, -⟩ := parse_document_deep h hn hf
        cases hp.symm.trans ha

theorem Relaid.counts {raw document : List Char} (h : Relaid raw document) {n : Nat}
    (hr : Counts raw n) :
    Counts document n where
  sets := by
    rw [← hr.sets, operationsIn, operationsIn, h.complete.1, h.complete.2, h.lexemes]
  definitions := by
    obtain ⟨ast, hraw, hdoc, -⟩ := h.tree
    intro ast' ha
    cases hdoc.symm.trans ha
    exact hr.definitions ast hraw

/-- Whatever goes wrong while it is drafted, a document has the operations that its draft
says it has. -/
theorem draft_counted {payload : Json} {schema : Schema} (h : Schema.ofPayload payload = .ok schema)
    (o : Options) (hm : 0 ≤ o.maxDepth) (hs : 0 ≤ o.safeDepth) (faults : Faults) {d : Draft}
    (hd : o.draft schema faults = .ok d) :
    Counts d.document d.operationCount := by
  have hw := Schema.wellNamed_ofPayload h
  have hn := Schema.rootsNamed_of_wellNamed hw
  have ha := (Options.drafting_course hn hm hs).answers d hd
  have hops : ∀ root ∈ schema.roots,
      ((Scope.mk d.depth.toNat o.skipDeprecated none).drafted schema root).WellNamed :=
    fun root hr => Scope.drafted_wellNamed hw _ hr
  have hraw := Schema.document_counts hops
  rw [← o.plainText_eq] at hraw
  rw [ha.count]
  cases hf : d.formatted with
  | false =>
    rw [ha.plain hf]
    exact hraw
  | true =>
    have hl := ha.laidOut hf
    have hroots := Options.roots_ne_nil_of_plainText (ha.fits hf).2.1
    rw [o.plainText_eq] at hl hraw
    exact (Schema.document_relaid hops hroots hl).counts hraw

end QueryDraft
