import QueryDraft.Proofs.Reading
import QueryDraft.Proofs.Routes

namespace QueryDraft.Language

namespace Selection

def under (label : Label) (p : List Label × String) : List Label × String := (label :: p.1, p.2)

mutual

def leafPaths : Selection → List (List Label × String)
  | .leaf head => [([], head.name)]
  | .field head sub => (bodyLeafPaths sub).map (under (.field head.name))
  | .spread _ _ => []
  | .inline none _ sub => bodyLeafPaths sub
  | .inline (some type) _ sub => (bodyLeafPaths sub).map (under (.fragment type))

def bodyLeafPaths : List Selection → List (List Label × String)
  | [] => []
  | s :: rest => s.leafPaths ++ bodyLeafPaths rest

end

mutual

def openPaths : Selection → List (List Label)
  | .leaf _ => []
  | .field head sub => [.field head.name] :: (bodyOpenPaths sub).map (.field head.name :: ·)
  | .spread _ _ => []
  | .inline none _ sub => bodyOpenPaths sub
  | .inline (some type) _ sub => [.fragment type] :: (bodyOpenPaths sub).map (.fragment type :: ·)

def bodyOpenPaths : List Selection → List (List Label)
  | [] => []
  | s :: rest => s.openPaths ++ bodyOpenPaths rest

end

theorem bodyLeafPaths_eq (body : List Selection) : bodyLeafPaths body = body.flatMap leafPaths := by
  induction body with
  | nil => rfl
  | cons s rest ih => rw [bodyLeafPaths, ih, List.flatMap_cons]

theorem bodyOpenPaths_eq (body : List Selection) : bodyOpenPaths body = body.flatMap openPaths := by
  induction body with
  | nil => rfl
  | cons s rest ih => rw [bodyOpenPaths, ih, List.flatMap_cons]

end Selection

/-- Reads the lexemes of selections without braces around them, with room for all that
they may open. -/
def Parser.selections (ts : Lexemes) : Except Fault (List Selection) := do
  let (found, rest) ← selectionSet (ts.length + 1)
    (.punctuator .braceL :: (ts ++ [.punctuator .braceR]))
  if rest.isEmpty then .ok found else expected "<EOF>" rest

def readSelections (text : List Char) : Except Fault (List Selection) :=
  readText Parser.selections text

end QueryDraft.Language

namespace QueryDraft

open QueryDraft.Language.Selection
  (under bodyLeafPaths bodyOpenPaths bodyLeafPaths_eq bodyOpenPaths_eq)

namespace Selection

theorem bodyNesting_le_lexemes {body : List Selection}
    (h : ∀ s ∈ body, s.nesting ≤ s.lexemes.length) :
    bodyNesting body ≤ (bodyLexemes body).length := by
  induction body with
  | nil => exact Nat.le_refl _
  | cons s rest ih =>
    have hs := h s List.mem_cons_self
    have hr := ih fun t ht => h t (List.mem_cons_of_mem s ht)
    rw [bodyNesting, bodyLexemes, List.length_append]
    omega

theorem nesting_le_lexemes (s : Selection) : s.nesting ≤ s.lexemes.length := by
  induction s using induct with
  | leaf name => exact Nat.zero_le _
  | node label body ih =>
    have hb := bodyNesting_le_lexemes ih
    simp only [nesting, lexemes, List.length_append, List.length_cons]
    omega

theorem selections_read (body : List Selection) :
    Language.Parser.selections (bodyLexemes body) = .ok (bodyAst body) := by
  have hs :=
    Language.Parser.selectionSet_reads
      (fun s (_ : s ∈ body) => Language.Parser.selection_readable s)
    ((bodyLexemes body).length + 1) []
  have hn := bodyNesting_le_lexemes fun s (_ : s ∈ body) => nesting_le_lexemes s
  exact (hs.last (by rfl)).ok (Nat.succ_le_succ hn)

theorem readSelections_bodyText {body : List Selection} (h : ∀ s ∈ body, s.WellNamed) :
    Language.readSelections (bodyText body) = .ok (bodyAst body) := by
  have hs := (bodyText_plain_lexes h).scans
  exact Language.readText_ok hs (.of_eq (selections_read body)) trivial

theorem bodyLeafPaths_ast (body : List Selection) :
    bodyLeafPaths (bodyAst body) = body.flatMap fun s => s.ast.leafPaths := by
  rw [bodyLeafPaths_eq, bodyAst_eq, List.flatMap_map]

theorem leafPaths_node (label : Label) (body : List Selection) :
    (node label body).ast.leafPaths = (bodyLeafPaths (bodyAst body)).map (under label) := by
  cases label with
  | field name => rfl
  | fragment member => rfl

theorem openPaths_node (label : Label) (body : List Selection) :
    (node label body).ast.openPaths =
      [label] :: (bodyOpenPaths (bodyAst body)).map (label :: ·) := by
  cases label with
  | field name => rfl
  | fragment member => rfl

theorem bodyLeafPaths_ne_nil {body : List Selection} (hn : body ≠ [])
    (h : ∀ s ∈ body, s.ast.leafPaths ≠ []) : bodyLeafPaths (bodyAst body) ≠ [] := by
  obtain ⟨s, hs⟩ := List.exists_mem_of_ne_nil body hn
  rw [bodyLeafPaths_ast]
  intro he
  exact h s hs (List.flatMap_eq_nil_iff.mp he s hs)

theorem leafPaths_ne_nil {s : Selection} (h : s.Full) : s.ast.leafPaths ≠ [] := by
  induction h with
  | leaf name => exact List.cons_ne_nil _ _
  | node label hn hb ih =>
    rw [leafPaths_node]
    intro he
    exact bodyLeafPaths_ne_nil hn ih (List.map_eq_nil_iff.mp he)

/-- A field or fragment is opened on the way to a leaf, and nowhere else. -/
def OpensOnPaths (opened : List (List Label)) (paths : List (List Label × String)) : Prop :=
  ∀ p, p ∈ opened ↔ p ≠ [] ∧ ∃ q ∈ paths, p <+: q.1

theorem opensOnPaths_body {body : List Selection}
    (h : ∀ s ∈ body, OpensOnPaths s.ast.openPaths s.ast.leafPaths) :
    OpensOnPaths (bodyOpenPaths (bodyAst body)) (bodyLeafPaths (bodyAst body)) := by
  intro p
  rw [bodyLeafPaths_ast, bodyOpenPaths_eq, bodyAst_eq, List.flatMap_map]
  constructor
  · intro hp
    obtain ⟨s, hs, hp⟩ := List.mem_flatMap.mp hp
    obtain ⟨hn, q, hq, hpq⟩ := (h s hs p).mp hp
    exact ⟨hn, q, List.mem_flatMap.mpr ⟨s, hs, hq⟩, hpq⟩
  · rintro ⟨hn, q, hq, hpq⟩
    obtain ⟨s, hs, hq⟩ := List.mem_flatMap.mp hq
    exact List.mem_flatMap.mpr ⟨s, hs, (h s hs p).mpr ⟨hn, q, hq, hpq⟩⟩

theorem OpensOnPaths.under {opened : List (List Label)} {paths : List (List Label × String)}
    (h : OpensOnPaths opened paths) (hn : paths ≠ []) (label : Label) :
    OpensOnPaths ([label] :: opened.map (label :: ·)) (paths.map (under label)) := by
  intro p
  rw [List.mem_cons, List.mem_map]
  constructor
  · rintro (rfl | ⟨p', hp, rfl⟩)
    · obtain ⟨q, hq⟩ := List.exists_mem_of_ne_nil paths hn
      exact ⟨List.cons_ne_nil _ _, Language.Selection.under label q,
        List.mem_map_of_mem hq, q.1, rfl⟩
    · obtain ⟨-, q, hq, hpq⟩ := (h p').mp hp
      exact ⟨List.cons_ne_nil _ _, _, List.mem_map_of_mem hq, List.cons_prefix_cons.mpr ⟨rfl, hpq⟩⟩
  · rintro ⟨hp, q, hq, hpq⟩
    obtain ⟨q, hm, rfl⟩ := List.mem_map.mp hq
    cases p with
    | nil => exact absurd rfl hp
    | cons l p' =>
      obtain ⟨rfl, hrest⟩ := List.cons_prefix_cons.mp hpq
      cases p' with
      | nil => exact .inl rfl
      | cons l' p' => exact .inr ⟨_, (h _).mpr ⟨List.cons_ne_nil _ _, q, hm, hrest⟩, rfl⟩

theorem opensOnPaths {s : Selection} (h : s.Full) :
    OpensOnPaths s.ast.openPaths s.ast.leafPaths := by
  induction h with
  | leaf name =>
    intro p
    have hl : (leaf name).ast.leafPaths = [([], name)] := rfl
    have ho : (leaf name).ast.openPaths = [] := rfl
    simp [hl, ho]
  | node label hn hb ih =>
    rw [leafPaths_node, openPaths_node]
    exact (opensOnPaths_body ih).under
      (bodyLeafPaths_ne_nil hn fun s hs => leafPaths_ne_nil (hb s hs)) label

end Selection

theorem leafPaths_labelled (label : Label) (body : List Selection) :
    ((labelled label body).flatMap fun s => s.ast.leafPaths) =
      (body.flatMap fun s => s.ast.leafPaths).map (under label) := by
  cases body with
  | nil => rfl
  | cons s rest =>
    have hl : labelled label (s :: rest) = [.node label (s :: rest)] := rfl
    rw [hl, List.flatMap_singleton, Selection.leafPaths_node, Selection.bodyLeafPaths_ast]

theorem leafPaths_branch {below : String → List Selection} {onward : String → List Route}
    (h : ∀ type, ((below type).flatMap fun s => s.ast.leafPaths) = (onward type).map Route.path)
    (step : Step) (i : Nat) :
    ((branch below step).flatMap fun s => s.ast.leafPaths) =
      (step.routes onward i).map Route.path := by
  cases step with
  | leaf name => rfl
  | down label target =>
    have hb : ∀ hop : Hop, hop.label = label →
        under label ∘ Route.path = Route.path ∘ Route.below hop := by
      rintro hop rfl
      rfl
    rw [branch, leafPaths_labelled, h, Step.routes, List.map_map, List.map_map,
      hb ⟨i, label, target⟩ rfl]

theorem leafPaths_select (steps : String → List Step) (levels : Nat) (path : List String)
    (type : String) :
    ((select steps levels path type).flatMap fun s => s.ast.leafPaths) =
      (routes steps levels path type).map Route.path := by
  induction levels generalizing path type with
  | zero => rfl
  | succ levels ih =>
    rw [select_succ, routes]
    split
    · rfl
    · have hz : (steps type).zipIdx.map Prod.fst = steps type := List.zipIdx_map_fst 0 (steps type)
      conv_lhs => rw [← hz]
      rw [List.flatMap_assoc, List.flatMap_map, List.map_flatMap]
      apply List.flatMap_congr
      rintro ⟨step, i⟩ -
      exact leafPaths_branch (ih (type :: path)) step i

/-- What the text of a selection from a type lists: the paths of all admissible routes, in the order
of the fields and members declared, and no field or fragment that is not on one of them. -/
structure Lists (s : Schema) (depth : Nat) (type : String) (text : List Char)
    (tree : List Language.Selection) (routes : List Route) : Prop where
  read : Language.readSelections text = .ok tree
  admissible : ∀ r, r ∈ routes ↔ s.Leads type r ∧ r.Admissible (effectiveDepth depth) type
  ordered : routes.Pairwise fun a b => a.positions < b.positions
  leaves : bodyLeafPaths tree = routes.map Route.path
  opened : ∀ p, p ∈ bodyOpenPaths tree ↔ p ≠ [] ∧ ∃ r ∈ routes, p <+: r.labels

theorem select_lists {payload : Json} {s : Schema} (h : Schema.ofPayload payload = .ok s)
    (type : TypeRef) (depth used : Nat) :
    ∃ body total tree routes,
      (Scope.mk depth false none).select s [] rootLevel type.target used = (.ok body, total) ∧
        Lists s depth type.target (Selection.bodyText body) tree routes := by
  let scope : Scope := ⟨depth, false, none⟩
  have hw : ∀ t ∈ scope.body s type.target, t.WellNamed :=
    select_wellNamed (Schema.steps_isValid (Schema.wellNamed_ofPayload h) false) _ _ _
  have hf : ∀ t ∈ scope.body s type.target, t.Full := select_full _ _ _ _
  have hp : bodyLeafPaths (Selection.bodyAst (scope.body s type.target)) =
      (routes (s.steps false) (effectiveDepth depth) [] type.target).map Route.path := by
    rw [Selection.bodyLeafPaths_ast]
    exact leafPaths_select _ _ _ _
  refine ⟨scope.body s type.target, _, Selection.bodyAst (scope.body s type.target),
    routes (s.steps false) (effectiveDepth depth) [] type.target,
    scope.select_unlimited rfl s type.target used, ?_⟩
  exact {
    read := Selection.readSelections_bodyText hw
    admissible := mem_routes s (effectiveDepth depth) type.target
    ordered := routes_sorted _ _ _ _
    leaves := hp
    opened := by
      intro p
      have ho := Selection.opensOnPaths_body (fun t ht => Selection.opensOnPaths (hf t ht)) p
      rw [hp] at ho
      simpa only [List.mem_map, exists_exists_and_eq_and, Route.path] using ho }

theorem select_lists_answer :
    Schema.ofPayload Sample.answer = .ok Sample.schema ∧ ∃ body total tree routes,
      (Scope.mk 0 false none).select Sample.schema [] rootLevel "Found" 7 = (.ok body, total) ∧
        Lists Sample.schema 0 "Found" (Selection.bodyText body) tree routes :=
  ⟨Sample.ofPayload_answer, select_lists Sample.ofPayload_answer (.list (.named "Found")) 0 7⟩

end QueryDraft
