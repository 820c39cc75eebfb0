import Mathlib.Data.List.Flatten
import QueryDraft.Proofs.Assembly

namespace QueryDraft

namespace Selection

mutual

/-- Without the leaves that are on levels after the last one. -/
def withoutDeep (last level : Nat) : Selection → List Selection
  | .leaf name => if level ≤ last then [.leaf name] else []
  | .node label body => [.node label (bodyWithoutDeep last (level + 1) body)]

def bodyWithoutDeep (last level : Nat) : List Selection → List Selection
  | [] => []
  | s :: rest => s.withoutDeep last level ++ bodyWithoutDeep last level rest

end

mutual

/-- Without what has no selections below it, or none that are kept. -/
def withoutEmpty : Selection → List Selection
  | .leaf name => [.leaf name]
  | .node label body => labelled label (bodyWithoutEmpty body)

def bodyWithoutEmpty : List Selection → List Selection
  | [] => []
  | s :: rest => s.withoutEmpty ++ bodyWithoutEmpty rest

end

theorem bodyWithoutDeep_eq (last level : Nat) (body : List Selection) :
    bodyWithoutDeep last level body = body.flatMap (withoutDeep last level) := by
  induction body with
  | nil => rfl
  | cons s rest ih => rw [bodyWithoutDeep, ih, List.flatMap_cons]

theorem bodyWithoutEmpty_eq (body : List Selection) :
    bodyWithoutEmpty body = body.flatMap withoutEmpty := by
  induction body with
  | nil => rfl
  | cons s rest ih => rw [bodyWithoutEmpty, ih, List.flatMap_cons]

def truncate (last level : Nat) (body : List Selection) : List Selection :=
  bodyWithoutEmpty (bodyWithoutDeep last level body)

theorem truncate_flatMap {α : Type} (last level : Nat) (f : α → List Selection) (xs : List α) :
    truncate last level (xs.flatMap f) = xs.flatMap fun x => truncate last level (f x) := by
  simp only [truncate, bodyWithoutDeep_eq, bodyWithoutEmpty_eq, List.flatMap_assoc]

theorem truncate_leaf {last level : Nat} (h : level ≤ last) (name : String) :
    truncate last level [.leaf name] = [.leaf name] := by
  simp [truncate, bodyWithoutDeep, withoutDeep, bodyWithoutEmpty, withoutEmpty, h]

theorem truncate_labelled (last level : Nat) (label : Label) (body : List Selection) :
    truncate last level (labelled label body) =
      labelled label (truncate last (level + 1) body) := by
  cases body with
  | nil => rfl
  | cons s rest =>
    have hn : labelled label (s :: rest) = [.node label (s :: rest)] := rfl
    rw [hn]
    simp only [truncate, bodyWithoutDeep, withoutDeep, bodyWithoutEmpty, withoutEmpty,
      List.append_nil]

theorem truncate_eq_nil {last level : Nat} (h : last < level) (body : List Selection) :
    truncate last level body = [] := by
  have hs : ∀ s : Selection, ∀ level, last < level →
      bodyWithoutEmpty (s.withoutDeep last level) = [] := by
    intro s
    induction s using induct with
    | leaf name =>
      intro level hl
      have hn : ¬ level ≤ last := by omega
      rw [withoutDeep, if_neg hn, bodyWithoutEmpty]
    | node label body ih =>
      intro level hl
      have hb : (bodyWithoutDeep last (level + 1) body).flatMap withoutEmpty = [] := by
        rw [bodyWithoutDeep_eq, List.flatMap_assoc, List.flatMap_eq_nil_iff]
        intro s hm
        rw [← bodyWithoutEmpty_eq]
        exact ih s hm (level + 1) (by omega)
      simp [withoutDeep, withoutEmpty, bodyWithoutEmpty_eq, hb, labelled]
  rw [truncate, bodyWithoutDeep_eq, bodyWithoutEmpty_eq, List.flatMap_assoc,
    List.flatMap_eq_nil_iff]
  intro s _
  rw [← bodyWithoutEmpty_eq]
  exact hs s level h

/-- A selection is left out or loses some of its text. -/
def Shrinks (xs : List Selection) (s : Selection) : Prop :=
  xs = [] ∨ ∃ t, xs = [t] ∧ t.text.Sublist s.text

theorem lines_sublist {f : Selection → List Selection} {body : List Selection}
    (h : ∀ s ∈ body, Shrinks (f s) s) :
    ((body.flatMap f).flatMap line).Sublist (body.flatMap line) := by
  rw [List.flatMap_assoc]
  refine List.Sublist.flatMap_right body fun s hs => ?_
  obtain hf | ⟨t, hf, ht⟩ := h s hs
  · rw [hf]
    exact List.nil_sublist _
  · rw [hf, List.flatMap_singleton]
    exact ht.cons_cons '\n'

theorem bodyText_sublist {f : Selection → List Selection} {body : List Selection}
    (h : ∀ s ∈ body, Shrinks (f s) s) : (bodyText (body.flatMap f)).Sublist (bodyText body) := by
  cases body with
  | nil => exact List.Sublist.refl _
  | cons s rest =>
    have hr := lines_sublist fun s hs => h s (List.mem_cons_of_mem _ hs)
    rw [List.flatMap_cons, bodyText_cons s rest]
    obtain hf | ⟨t, hf, ht⟩ := h s List.mem_cons_self
    · rw [hf, List.nil_append]
      exact ((bodyText_sublist_lines _).trans hr).trans (List.sublist_append_right _ _)
    · rw [hf, List.singleton_append, bodyText_cons]
      exact ht.append hr

theorem node_text_sublist (label : Label) {body other : List Selection}
    (h : (bodyText body).Sublist (bodyText other)) :
    (node label body).text.Sublist (node label other).text := by
  rw [text, text]
  exact ((List.Sublist.refl _).append h).append (List.Sublist.refl _)

theorem withoutDeep_shrinks (last level : Nat) (s : Selection) :
    Shrinks (s.withoutDeep last level) s := by
  induction s using induct generalizing level with
  | leaf name =>
    rw [withoutDeep]
    split
    · exact .inr ⟨_, rfl, List.Sublist.refl _⟩
    · exact .inl rfl
  | node label body ih =>
    refine .inr ⟨_, rfl, node_text_sublist label ?_⟩
    rw [bodyWithoutDeep_eq]
    exact bodyText_sublist fun s hs => ih s hs (level + 1)

theorem withoutEmpty_shrinks (s : Selection) : Shrinks s.withoutEmpty s := by
  induction s using induct with
  | leaf name => exact .inr ⟨_, rfl, List.Sublist.refl _⟩
  | node label body ih =>
    rw [withoutEmpty, labelled]
    split
    · exact .inl rfl
    · refine .inr ⟨_, rfl, node_text_sublist label ?_⟩
      rw [bodyWithoutEmpty_eq]
      exact bodyText_sublist ih

theorem truncate_sublist (last level : Nat) (body : List Selection) :
    (bodyText (truncate last level body)).Sublist (bodyText body) := by
  rw [truncate, bodyWithoutEmpty_eq, bodyWithoutDeep_eq]
  have hd := bodyText_sublist fun s (_ : s ∈ body) => withoutDeep_shrinks last level s
  exact (bodyText_sublist fun s _ => withoutEmpty_shrinks s).trans hd

end Selection

open Selection

/-- The cycle rule does not look at the levels left, so a walk with fewer levels is a part of
one with more. -/
theorem select_truncated (steps : String → List Step) {levels more last level : Nat}
    (h : levels ≤ more) (hl : level + levels = last + 1) (path : List String) (type : String) :
    select steps levels path type = truncate last level (select steps more path type) := by
  induction more generalizing levels level path type with
  | zero =>
    obtain rfl : levels = 0 := by omega
    rfl
  | succ more ih =>
    cases levels with
    | zero =>
      have hlast : last < level := by omega
      rw [truncate_eq_nil hlast, select]
    | succ levels =>
      rw [select_succ, select_succ]
      split
      · rfl
      · rw [truncate_flatMap]
        congr 1
        funext step
        cases step with
        | leaf name =>
          have hlast : level ≤ last := by omega
          rw [branch, branch, truncate_leaf hlast]
        | down label target =>
          have hb :=
            ih (show levels ≤ more by omega) (show level + 1 + levels = last + 1 by omega)
              (type :: path) target
          rw [branch, branch, truncate_labelled, ← hb]

namespace Operation

theorem bodyText_sublist {body other : List Selection}
    (h : (Selection.bodyText body).Sublist (Selection.bodyText other))
    (hn : other = [] → body = []) : (bodyText body).Sublist (bodyText other) := by
  rw [bodyText]
  cases body with
  | nil => exact List.nil_sublist _
  | cons s rest =>
    cases other with
    | nil => cases hn rfl
    | cons t more =>
      have hi := (List.Sublist.refl "    ".toList).append
        (h.flatMap fun c => if c = '\n' then '\n' :: "    ".toList else [c])
      exact ((List.Sublist.refl _).append hi).append (List.Sublist.refl _)

def truncated (last : Nat) (op : Operation) : Operation :=
  { op with body := truncate last 1 op.body }

theorem truncated_sublist (last : Nat) (op : Operation) :
    (op.truncated last).paragraph.Sublist op.paragraph := by
  have hb : (bodyText (truncate last 1 op.body)).Sublist (bodyText op.body) := by
    refine bodyText_sublist (truncate_sublist last 1 op.body) fun hn => ?_
    rw [hn]
    rfl
  rw [paragraph, text]
  exact (((List.Sublist.refl _).append hb).append (List.Sublist.refl _)).append
    (List.Sublist.refl _)

end Operation

namespace Scope

/-- Depth zero stands for the ceiling, so it is the effective depths that count. -/
theorem body_truncated {scope deeper : Scope}
    (h : effectiveDepth scope.depth ≤ effectiveDepth deeper.depth)
    (hs : scope.skipDeprecated = deeper.skipDeprecated) (schema : Schema) (type : String) :
    scope.body schema type = truncate (effectiveDepth scope.depth) 1 (deeper.body schema type) := by
  unfold body
  rw [hs]
  exact select_truncated _ h (by omega) [] type

theorem drafted_truncated {scope deeper : Scope}
    (h : effectiveDepth scope.depth ≤ effectiveDepth deeper.depth)
    (hs : scope.skipDeprecated = deeper.skipDeprecated) (schema : Schema) (root : RootField) :
    scope.drafted schema root =
      (deeper.drafted schema root).truncated (effectiveDepth scope.depth) := by
  unfold drafted Operation.truncated
  rw [body_truncated h hs]

end Scope

/-- What the documents of two depths have to do with each other: the operations of the shallower one
are those of the deeper one without the leaves that are too deep, and then without what is empty. -/
structure Truncation (o : Options) (schema : Schema) (depth more : Nat)
    (shallow deep : RootField → Operation) : Prop where
  shallow_built : ∀ root ∈ schema.roots,
    ((Scope.mk depth o.skipDeprecated none).operation schema root.kind root.field.name root.field
      0).1 = .ok (shallow root)
  deep_built : ∀ root ∈ schema.roots,
    ((Scope.mk more o.skipDeprecated none).operation schema root.kind root.field.name root.field
      0).1 = .ok (deep root)
  truncated : ∀ root ∈ schema.roots,
    shallow root =
      { deep root with body := bodyWithoutEmpty (bodyWithoutDeep depth 1 (deep root).body) }
  shallow_assembled : (o.assemble schema (fun _ => false) depth false 0).1 =
    .ok (schema.document shallow)
  deep_assembled : (o.assemble schema (fun _ => false) more false 0).1 = .ok (schema.document deep)
  sublist : (schema.document shallow).Sublist (schema.document deep)
  length_le : (schema.document shallow).length ≤ (schema.document deep).length

theorem assemble_truncated {payload : Json} {schema : Schema}
    (h : Schema.ofPayload payload = .ok schema) (o : Options) {depth more : Nat} (hd : 1 ≤ depth)
    (hm : depth ≤ more) :
    ∃ shallow deep, Truncation o schema depth more shallow deep := by
  have hn := Schema.rootsNamed_of_wellNamed (Schema.wellNamed_ofPayload h)
  let scope : Scope := ⟨depth, o.skipDeprecated, none⟩
  let deeper : Scope := ⟨more, o.skipDeprecated, none⟩
  have he : effectiveDepth depth = depth := if_neg (by omega)
  have he' : effectiveDepth more = more := if_neg (by omega)
  have ht : ∀ root, scope.drafted schema root = (deeper.drafted schema root).truncated depth := by
    intro root
    have h := @Scope.drafted_truncated scope deeper (by rwa [he, he']) rfl schema root
    rwa [he] at h
  have hs : (schema.document (scope.drafted schema)).Sublist
      (schema.document (deeper.drafted schema)) := by
    refine List.Sublist.flatMap_right schema.roots fun root _ => ?_
    rw [ht]
    exact Operation.truncated_sublist depth _
  refine ⟨scope.drafted schema, deeper.drafted schema, ?_⟩
  exact {
    shallow_built := fun root hr => scope.operation_drafted hn rfl hr
    deep_built := fun root hr => deeper.operation_drafted hn rfl hr
    truncated := fun root _ => ht root
    shallow_assembled := o.assemble_document hn depth
    deep_assembled := o.assemble_document hn more
    sublist := hs
    length_le := hs.length_le }

theorem assemble_truncated_answer :
    Schema.ofPayload Sample.answer = .ok Sample.schema ∧ 1 ≤ 2 ∧ 2 ≤ 5 ∧
      ∃ shallow deep, Truncation .default Sample.schema 2 5 shallow deep :=
  ⟨Sample.ofPayload_answer, by decide, by decide,
    assemble_truncated Sample.ofPayload_answer .default (by decide) (by decide)⟩

end QueryDraft
