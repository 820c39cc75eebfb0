import QueryDraft.Schema.Basic
import QueryDraft.Selection.Tree

namespace QueryDraft

inductive Step where
  | leaf (name : String)
  | down (label : Label) (target : String)
  deriving DecidableEq, Repr

namespace Schema

def fieldStep (s : Schema) (f : Field) : Step :=
  if s.isLeaf f.type.target then .leaf f.name else .down (.field f.name) f.type.target

def keeps (skipDeprecated : Bool) (f : Field) : Bool := !(skipDeprecated && f.deprecated)

def steps (s : Schema) (skipDeprecated : Bool) (type : String) : List Step :=
  match s.find? type with
  | some (.object fs) => (fs.filter (keeps skipDeprecated)).map s.fieldStep
  | some (.interface fs) => (fs.filter (keeps skipDeprecated)).map s.fieldStep
  | some (.union ms) => ms.map fun m => .down (.fragment m) m
  | _ => []

end Schema

/-- A type that is on the path above its parent is not entered again. The path starts with
the parent. -/
def closesCycle (path : List String) (type : String) : Bool := path.tail.contains type

def labelled (label : Label) (body : List Selection) : List Selection :=
  if body.isEmpty then [] else [.node label body]

/-- The selection from a type, `levels` deep, below the types of `path`. -/
def select (steps : String → List Step) : (levels : Nat) → (path : List String) → (type : String) →
    List Selection
  | 0, _, _ => []
  | levels + 1, path, type =>
    if closesCycle path type then []
    else
      (steps type).flatMap fun
        | .leaf name => [.leaf name]
        | .down label target => labelled label (select steps levels (type :: path) target)

inductive Exceeded where
  | exceeded
  deriving DecidableEq, Repr

/-- A computation with a running total, which is kept when the budget is spent. -/
abbrev Metered := EStateM Exceeded Nat

def exceeds (limit : Option Int) (total : Nat) : Bool :=
  limit.any fun (m : Int) => m < (total : Int)

def pay (limit : Option Int) (cost : Nat) : Metered Unit := fun used =>
  if exceeds limit (used + cost) then .error .exceeded (used + cost) else .ok () (used + cost)

def payLabelled (limit : Option Int) (label : Label) (body : List Selection) :
    Metered (List Selection) :=
  if body.isEmpty then pure []
  else do
    pay limit (Selection.nodeCost label)
    pure [.node label body]

/-- The selection of `select`, each part paid for once it is complete. -/
def selectWithin (limit : Option Int) (steps : String → List Step) :
    (levels : Nat) → (path : List String) → (type : String) → Metered (List Selection)
  | 0, _, _ => pure []
  | levels + 1, path, type =>
    if closesCycle path type then pure []
    else do
      let parts ← (steps type).mapM fun
        | .leaf name => do
          pay limit (Selection.leafCost name)
          pure [.leaf name]
        | .down label target => do
          let body ← selectWithin limit steps levels (type :: path) target
          payLabelled limit label body
      pure parts.flatten

end QueryDraft
