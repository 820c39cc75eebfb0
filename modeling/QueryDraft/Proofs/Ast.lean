import QueryDraft.Language.Document
import QueryDraft.Proofs.Walk

namespace QueryDraft

open QueryDraft.Language (FieldHead Definition VariableDefinition OperationType)

def TypeRef.layers : TypeRef → Nat
  | .named _ => 0
  | .list item => item.layers + 1
  | .nonNull inner => inner.layers

def headWith (args : List Argument) (name : String) : FieldHead :=
  ⟨none, name, args.map fun a => (a.name, .variable a.name), []⟩

namespace Selection

mutual

def ast : Selection → Language.Selection
  | .leaf name => .leaf (headWith [] name)
  | .node (.field name) body => .field (headWith [] name) (bodyAst body)
  | .node (.fragment member) body => .inline (some member) [] (bodyAst body)

def bodyAst : List Selection → List Language.Selection
  | [] => []
  | s :: rest => s.ast :: bodyAst rest

end

mutual

def nesting : Selection → Nat
  | .leaf _ => 0
  | .node _ body => bodyNesting body + 1

def bodyNesting : List Selection → Nat
  | [] => 0
  | s :: rest => max s.nesting (bodyNesting rest)

end

theorem bodyAst_eq (body : List Selection) : bodyAst body = body.map ast := by
  induction body with
  | nil => rfl
  | cons s rest ih => rw [bodyAst, ih, List.map_cons]

theorem bodyNesting_le {body : List Selection} {n : Nat} :
    bodyNesting body ≤ n ↔ ∀ s ∈ body, s.nesting ≤ n := by
  induction body with
  | nil => simp [bodyNesting]
  | cons s rest ih => rw [bodyNesting, Nat.max_le, ih, List.forall_mem_cons]

theorem bodyNesting_lt {body : List Selection} (hn : body ≠ []) {n : Nat}
    (h : ∀ s ∈ body, s.nesting < n) : bodyNesting body < n := by
  cases n with
  | zero =>
    obtain ⟨s, hs⟩ := List.exists_mem_of_ne_nil body hn
    exact absurd (h s hs) (Nat.not_lt_zero _)
  | succ n =>
    apply Nat.lt_succ_of_le
    apply bodyNesting_le.mpr
    exact fun s hs => Nat.le_of_lt_succ (h s hs)

end Selection

theorem select_nesting (steps : String → List Step) (levels : Nat) (path : List String)
    (type : String) : ∀ s ∈ select steps levels path type, s.nesting < levels := by
  apply select_forall (P := fun levels s => s.nesting < levels)
  · intro type levels name _
    exact Nat.succ_pos levels
  · intro type levels label target body _ hn hb
    exact Nat.succ_lt_succ (Selection.bodyNesting_lt hn hb)

def OperationKind.type : OperationKind → OperationType
  | .query => .query
  | .mutation => .mutation

namespace Operation

def variableDefinition (a : Argument) : VariableDefinition := ⟨none, a.name, a.type, none, []⟩

def rootAst (op : Operation) : Language.Selection :=
  if op.body.isEmpty then .leaf (headWith op.args op.field)
  else .field (headWith op.args op.field) (Selection.bodyAst op.body)

def ast (op : Operation) : Definition :=
  .operation none op.kind.type (some op.name) (op.args.map variableDefinition) [] [op.rootAst]

def fieldNesting (op : Operation) : Nat :=
  if op.body.isEmpty then 0 else Selection.bodyNesting op.body + 1

/-- An operation that opens no more lists and selection sets at once than there is room for. -/
def Fits (room : Nat) (op : Operation) : Prop :=
  (∀ a ∈ op.args, a.type.layers ≤ room) ∧ op.fieldNesting < room

end Operation

end QueryDraft

