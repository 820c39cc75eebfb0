import QueryDraft.Proofs.Ast
import QueryDraft.Proofs.Limit
import QueryDraft.Proofs.Recovery

namespace QueryDraft

namespace Selection

mutual

def openings : Selection → Nat
  | .leaf _ => 0
  | .node _ body => bodyOpenings body + 1

def bodyOpenings : List Selection → Nat
  | [] => 0
  | s :: rest => s.openings + bodyOpenings rest

end

mutual

def leaves : Selection → Nat
  | .leaf _ => 1
  | .node _ body => bodyLeaves body

def bodyLeaves : List Selection → Nat
  | [] => 0
  | s :: rest => s.leaves + bodyLeaves rest

end

theorem length_bodyText {body : List Selection} (hn : body ≠ []) :
    (body.flatMap line).length = (bodyText body).length + 1 := by
  cases body with
  | nil => exact absurd rfl hn
  | cons s rest => rw [bodyText_cons, List.flatMap_cons, line, List.cons_append, List.length_cons]

theorem bodyCost_lines {body : List Selection}
    (h : ∀ s ∈ body, s.cost = s.text.length + 1 + s.openings) :
    bodyCost body = (body.flatMap line).length + bodyOpenings body := by
  induction body with
  | nil => rfl
  | cons s rest ih =>
    have hs := h s List.mem_cons_self
    have hr := ih fun t ht => h t (List.mem_cons_of_mem s ht)
    rw [bodyCost, bodyOpenings, List.flatMap_cons, List.length_append, line, List.length_cons]
    omega

theorem cost_eq {s : Selection} (h : s.Full) : s.cost = s.text.length + 1 + s.openings := by
  induction h with
  | leaf name =>
    rw [cost, text, openings, leafCost, String.length_toList]
  | node label hn hb ih =>
    rw [cost, text, openings, nodeCost, bodyCost_lines ih, length_bodyText hn]
    simp only [List.length_append]
    omega

/-- Within a body every line break is paid for, and each pair of braces once more than it takes up:
the line that it encloses ends with a blank. -/
theorem bodyCost_eq {body : List Selection} (hn : body ≠ []) (h : ∀ s ∈ body, s.Full) :
    bodyCost body = (bodyText body).length + 1 + bodyOpenings body := by
  rw [bodyCost_lines fun s hs => cost_eq (h s hs), length_bodyText hn]

theorem count_bodyText {body : List Selection} (hn : body ≠ []) :
    (body.flatMap line).count '\n' = (bodyText body).count '\n' + 1 := by
  cases body with
  | nil => exact absurd rfl hn
  | cons s rest =>
    rw [bodyText_cons, List.flatMap_cons, line, List.cons_append, List.count_cons_self]

theorem bodyLeaves_le_lines {body : List Selection}
    (h : ∀ s ∈ body, s.leaves ≤ s.text.count '\n' + 1) :
    bodyLeaves body ≤ (body.flatMap line).count '\n' := by
  induction body with
  | nil => exact Nat.zero_le _
  | cons s rest ih =>
    have hs := h s List.mem_cons_self
    have hr := ih fun t ht => h t (List.mem_cons_of_mem s ht)
    rw [bodyLeaves, List.flatMap_cons, List.count_append, line, List.count_cons_self]
    omega

theorem leaves_le_breaks {s : Selection} (h : s.Full) : s.leaves ≤ s.text.count '\n' + 1 := by
  induction h with
  | leaf name => exact Nat.succ_le_succ (Nat.zero_le _)
  | node label hn hb ih =>
    have hl := bodyLeaves_le_lines ih
    rw [count_bodyText hn] at hl
    rw [leaves, text]
    simp only [List.count_append]
    omega

theorem leaves_pos {s : Selection} (h : s.Full) : 0 < s.leaves := by
  induction h with
  | leaf name => exact Nat.one_pos
  | @node label body hn hb ih =>
    cases body with
    | nil => exact absurd rfl hn
    | cons s rest =>
      have hs := ih s List.mem_cons_self
      rw [leaves, bodyLeaves]
      omega

theorem bodyOpenings_le {body : List Selection} {n : Nat}
    (h : ∀ s ∈ body, s.openings ≤ n * s.leaves) : bodyOpenings body ≤ n * bodyLeaves body := by
  induction body with
  | nil => exact Nat.zero_le _
  | cons s rest ih =>
    rw [bodyOpenings, bodyLeaves, Nat.mul_add]
    exact Nat.add_le_add (h s List.mem_cons_self) (ih fun t ht => h t (List.mem_cons_of_mem s ht))

/-- Every pair of braces has a leaf within, and every leaf is within as many as are
nested at most. -/
theorem openings_le {s : Selection} (h : s.Full) {n : Nat} (hn : s.nesting ≤ n) :
    s.openings ≤ n * s.leaves := by
  induction h generalizing n with
  | leaf name => exact Nat.zero_le _
  | node label hb hf ih =>
    -- The braces of the node itself are made up for by any one leaf within.
    have hp := leaves_pos (.node label hb hf)
    rw [leaves] at hp
    rw [nesting] at hn
    obtain ⟨m, rfl⟩ := Nat.exists_eq_add_of_le' (Nat.le_trans (Nat.le_add_left 1 _) hn)
    have hm :=
      bodyOpenings_le fun s hs => ih s hs (bodyNesting_le.mp (Nat.le_of_succ_le_succ hn) s hs)
    rw [openings, leaves, Nat.add_mul, Nat.one_mul]
    omega

end Selection

open Selection Outcome

namespace Operation

theorem length_indent (text : List Char) :
    (indent text).length = text.length + 4 * text.count '\n' + 4 := by
  have hl : (text.flatMap fun c => if c = '\n' then '\n' :: "    ".toList else [c]).length =
      text.length + 4 * text.count '\n' := by
    induction text with
    | nil => rfl
    | cons c rest ih =>
      rw [List.flatMap_cons, List.length_append, ih, List.length_cons, List.count_cons]
      by_cases hc : c = '\n'
      · simp [hc]
        omega
      · simp [hc]
        omega
  have hb : "    ".toList.length = 4 := rfl
  rw [indent, List.length_append, hl, hb]
  omega

theorem length_bodyText_le (op : Operation) (hn : op.body ≠ []) :
    (Selection.bodyText op.body).length + 4 * (Selection.bodyText op.body).count '\n' + 5 ≤
      op.paragraph.length := by
  have hb : (bodyText op.body).length =
      (Selection.bodyText op.body).length + 4 * (Selection.bodyText op.body).count '\n' + 11 := by
    have ho : " \x7b\n".toList.length = 3 := rfl
    have hc : "\n  \x7d".toList.length = 4 := rfl
    rw [bodyText, if_neg (by simpa using hn)]
    simp only [List.length_append, length_indent, ho, hc]
    omega
  rw [paragraph, text]
  simp only [List.length_append, hb]
  omega

theorem cost_le_paragraph {op : Operation} (hf : ∀ s ∈ op.body, s.Full)
    (hn : ∀ s ∈ op.body, s.nesting ≤ 4) : op.cost ≤ op.paragraph.length := by
  by_cases hb : op.body = []
  · rw [cost, hb]
    exact Nat.zero_le _
  · -- Every leaf ends a line, and the indentation of a line makes up for four pairs of braces.
    have ho := bodyOpenings_le fun s hs => openings_le (hf s hs) (hn s hs)
    have hl := bodyLeaves_le_lines fun s hs => leaves_le_breaks (hf s hs)
    have hp := op.length_bodyText_le hb
    rw [count_bodyText hb] at hl
    rw [cost, bodyCost_eq hb hf]
    omega

theorem cost_le_paragraphs {ops : List Operation} (h : ∀ op ∈ ops, op.cost ≤ op.paragraph.length) :
    bodyCost (ops.flatMap body) ≤ (ops.flatMap paragraph).length := by
  induction ops with
  | nil => exact Nat.zero_le _
  | cons op rest ih =>
    rw [List.flatMap_cons, List.flatMap_cons, bodyCost_append, List.length_append]
    exact Nat.add_le_add (h op List.mem_cons_self)
      (ih fun op' ho => h op' (List.mem_cons_of_mem op ho))

end Operation

namespace Scope

theorem body_of_alone {scope : Scope} {schema : Schema} (root : RootField) (op : Operation)
    (h : scope.alone schema root = .ok op) :
    op.body = scope.body schema root.field.type.target := by
  obtain ⟨-, ha⟩ | ⟨name, -, ha⟩ := scope.alone_cases schema root
  · cases ha.symm.trans h
  · cases ha.symm.trans h
    rfl

end Scope

namespace Options

variable {o : Options} {schema : Schema} {depth : Nat}

def selected (o : Options) (schema : Schema) (depth : Nat) : List Selection :=
  schema.roots.flatMap fun root =>
    (Scope.mk depth o.skipDeprecated none).body schema root.field.type.target

/-- What the selections of a document are charged for. -/
def charge (o : Options) (schema : Schema) (depth : Nat) : Nat := bodyCost (o.selected schema depth)

theorem bodies_of_separately {ops : List Operation} (h : o.separately schema depth = .ok ops) :
    ops.map Operation.body =
      schema.roots.map fun root =>
        (Scope.mk depth o.skipDeprecated none).body schema root.field.type.target :=
  map_of_mapM Scope.body_of_alone h

theorem charge_eq {ops : List Operation} (h : o.separately schema depth = .ok ops) :
    bodyCost (ops.flatMap Operation.body) = o.charge schema depth := by
  rw [charge, selected, List.flatMap_def, List.flatMap_def, bodies_of_separately h]

theorem nil_of_separately {ops : List Operation} (h : o.separately schema depth = .ok ops) :
    ops = [] ↔ schema.roots = [] := by
  rw [← @List.map_eq_nil_iff _ _ Operation.body, bodies_of_separately h, List.map_eq_nil_iff]

theorem selected_of_separately {ops : List Operation} (h : o.separately schema depth = .ok ops) :
    ∀ op ∈ ops, ∀ s ∈ op.body, s.Full ∧ s.nesting < effectiveDepth depth := by
  intro op ho s hs
  obtain ⟨root, -, ha⟩ := mem_of_mapM h op ho
  rw [Scope.body_of_alone root op ha] at hs
  exact ⟨select_full _ _ _ _ s hs, select_nesting _ _ _ _ s hs⟩

theorem allows_iff {ops : List Operation} (h : o.separately schema depth = .ok ops)
    (hl : (ops.flatMap Operation.paragraph).length ≤ o.maxOutputSize) :
    o.Allows ops ↔ schema.roots = [] ∨ o.charge schema depth ≤ o.maxOutputSize := by
  rw [Allows, nil_of_separately h, charge_eq h]
  exact or_congr_right ⟨And.right, fun hc => ⟨hl, hc⟩⟩

theorem assemble_fitting {ops : List Operation} (h : o.separately schema depth = .ok ops)
    (begun : Nat) (hl : (ops.flatMap Operation.paragraph).length ≤ o.maxOutputSize) :
    ((o.assemble schema (fun _ => false) depth true begun).1 =
      .ok (ops.flatMap Operation.paragraph) ∧
        (schema.roots = [] ∨ o.charge schema depth ≤ o.maxOutputSize)) ∨
      ((o.assemble schema (fun _ => false) depth true begun).1 =
        .error (.tooLarge (.size o.maxOutputSize depth)) ∧
        ¬ (schema.roots = [] ∨ o.charge schema depth ≤ o.maxOutputSize)) := by
  rw [← allows_iff h hl]
  exact o.assemble_limited schema depth begun h

theorem charge_of_nil (h : schema.roots = []) : o.charge schema depth = 0 := by
  rw [charge, selected, h]
  rfl

theorem charge_le_of_shallow {ops : List Operation} (h : o.separately schema depth = .ok ops)
    (hd : effectiveDepth depth ≤ 5) :
    o.charge schema depth ≤ (ops.flatMap Operation.paragraph).length := by
  have hs := selected_of_separately h
  rw [← charge_eq h]
  apply Operation.cost_le_paragraphs
  intro op ho
  apply Operation.cost_le_paragraph fun s hm => (hs op ho s hm).1
  intro s hm
  have hn := (hs op ho s hm).2
  omega

end Options

/-- What becomes of a document that is within the limit: it is given if the charges for it are
within the limit too, and else it is refused. -/
structure Charged (o : Options) (schema : Schema) (depth begun : Nat)
    (text : List Char) : Prop where
  granted : text.length ≤ o.maxOutputSize →
    ((o.assemble schema (fun _ => false) depth true begun).1 = .ok text ↔
      schema.roots = [] ∨ o.charge schema depth ≤ o.maxOutputSize)
  refused : text.length ≤ o.maxOutputSize →
    ((o.assemble schema (fun _ => false) depth true begun).1 =
      .error (.tooLarge (.size o.maxOutputSize depth)) ↔
      schema.roots ≠ [] ∧ o.maxOutputSize < o.charge schema depth)
  always : (∀ m : Int, text.length ≤ m →
      (({ o with maxOutputSize := m } : Options).assemble schema
        (fun _ => false) depth true begun).1 = .ok text) ↔
    o.charge schema depth ≤ text.length
  shallow : effectiveDepth depth ≤ 5 → o.charge schema depth ≤ text.length
  drafted : o.maxDepth = depth → text.length ≤ o.maxOutputSize → ∀ parser,
    ((o.attempts schema ⟨fun _ => false, parser⟩).length = 1 ↔
      schema.roots = [] ∨ o.charge schema depth ≤ o.maxOutputSize) ∧
    (schema.roots = [] ∨ o.charge schema depth ≤ o.maxOutputSize →
      o.draft schema ⟨fun _ => false, parser⟩ =
        .ok (o.finish schema ⟨fun _ => false, parser⟩ depth [] text))

/-- A document within the limit is given if and only if the charges for its selections are within
it, and up to five levels deep they always are. -/
theorem fitting_granted_iff (o : Options) (schema : Schema) (depth begun : Nat) {text : List Char}
    (h : (o.assemble schema (fun _ => false) depth false begun).1 = .ok text) :
    Charged o schema depth begun text := by
  rw [Options.assemble_unlimited] at h
  obtain ⟨ops, hs, rfl⟩ := map_eq_ok.mp h
  exact {
    granted := by
      intro hl
      obtain ⟨ha, hc⟩ | ⟨ha, hc⟩ := Options.assemble_fitting hs begun hl
      · exact ⟨fun _ => hc, fun _ => ha⟩
      · refine ⟨fun ht => ?_, fun h => absurd h hc⟩
        cases ha.symm.trans ht
    refused := by
      intro hl
      rw [← Int.not_le, ← not_or]
      obtain ⟨ha, hc⟩ | ⟨ha, hc⟩ := Options.assemble_fitting hs begun hl
      · refine ⟨fun ht => ?_, fun h => absurd hc h⟩
        cases ha.symm.trans ht
      · exact ⟨fun _ => hc, fun _ => ha⟩
    always := by
      have hm : ∀ m : Int, ({ o with maxOutputSize := m } : Options).separately schema depth =
          .ok ops := fun _ => hs
      constructor
      · -- The limit that just fits the text decides.
        intro h
        obtain ⟨-, hn | hc⟩ | ⟨ha, -⟩ := Options.assemble_fitting (hm _) begun (Int.le_refl _)
        · rw [Options.charge_of_nil hn]
          exact Nat.zero_le _
        · exact Int.ofNat_le.mp hc
        · cases ha.symm.trans (h _ (Int.le_refl _))
      · intro hc m hl
        obtain ⟨ha, -⟩ | ⟨-, hn⟩ := Options.assemble_fitting (hm m) begun hl
        · exact ha
        · exact absurd (.inr (Int.le_trans (Int.ofNat_le.mpr hc) hl)) hn
    shallow := Options.charge_le_of_shallow hs
    drafted := by
      rintro hd hl parser
      obtain ⟨ha, hc⟩ | ⟨ha, hc⟩ := Options.assemble_fitting hs 0 hl
      · rw [← hd] at ha
        have hr := @Options.drafting_of_ok o schema ⟨fun _ => false, parser⟩ _ ha
        rw [Options.attempts, Options.draft, hr, hd]
        exact ⟨⟨fun _ => hc, fun _ => rfl⟩, fun _ => rfl⟩
      · rw [← hd] at ha
        obtain ⟨second, rest, hr⟩ :=
          @Options.drafting_of_tooLarge o schema ⟨fun _ => false, parser⟩ _ ha
        have hn : ¬ (rest.length + 1 + 1 = 1) := by omega
        rw [hr]
        exact ⟨⟨fun h => absurd h hn, fun h => absurd h hc⟩, fun h => absurd h hc⟩ }

theorem fitting_granted_iff_answer :
    let o : Options := { Options.default with maxOutputSize := 381 }
    ∃ text, (o.assemble Sample.schema (fun _ => false) 3 false 0).1 = .ok text ∧ text.length = 381 ∧
      Charged o Sample.schema 3 0 text := by
  intro o
  have hl : (o.assemble Sample.schema (fun _ => false) 3 false 0).1.toOption.map List.length =
      some 381 := by
    decide +kernel
  obtain ⟨text, ht, hl⟩ := exists_of_toOption hl
  exact ⟨text, ht, hl, fitting_granted_iff o Sample.schema 3 0 ht⟩

namespace Sample

def fanNames : List String := ["v", "w", "x", "y", "z"]

/-- Twenty-five leaf fields, each seven levels deep. -/
def fanAnswer : Json := .obj [("__schema", .obj [
  ("queryType", named "Query"),
  ("types", .arr [scalar "String",
    object "Query" [field "q" (named "A") []],
    object "A" (fanNames.map fun n => field n (named "B") []),
    object "B" (fanNames.map fun n => field n (named "C") []),
    object "C" [field "c" (named "D") []],
    object "D" [field "d" (named "E") []],
    object "E" [field "e" (named "F") []],
    object "F" [field "f" (named "G") []],
    object "G" [field "g" (scalar "String") []]])])]

def fanField (name type : String) : Field := ⟨name, .named type, [], false⟩

def fanSchema : Schema := ⟨Introspection.complete [("String", .scalar),
  ("Query", .object [fanField "q" "A"]),
  ("A", .object (fanNames.map fun n => fanField n "B")),
  ("B", .object (fanNames.map fun n => fanField n "C")),
  ("C", .object [fanField "c" "D"]),
  ("D", .object [fanField "d" "E"]),
  ("E", .object [fanField "e" "F"]),
  ("F", .object [fanField "f" "G"]),
  ("G", .object [fanField "g" "String"])], some "Query", none⟩

theorem ofPayload_fanAnswer : Schema.ofPayload fanAnswer = .ok fanSchema := by rfl

end Sample

/-- The document has as many characters as the limit allows, and its selections are charged
for four more. -/
theorem fitting_document_refused :
    let o : Options := { Options.default with maxOutputSize := 956 }
    Schema.ofPayload Sample.fanAnswer = .ok Sample.fanSchema ∧
      (o.assemble Sample.fanSchema (fun _ => false) 7 false 0).1.toOption.map List.length =
        some 956 ∧
      o.charge Sample.fanSchema 7 = 960 ∧
      (o.assemble Sample.fanSchema (fun _ => false) 7 true 0).1 =
        .error (.tooLarge (.size 956 7)) := by
  intro o
  exact ⟨Sample.ofPayload_fanAnswer, by decide +kernel, by decide +kernel, by rfl⟩

end QueryDraft
