import QueryDraft.TypeRef

namespace QueryDraft.Language

structure Literal where
  value : String
  block : Bool
  deriving DecidableEq, Repr

/-- Numbers keep their spelling. -/
inductive Value where
  | variable (name : String)
  | int (spelling : String)
  | float (spelling : String)
  | string (literal : Literal)
  | bool (b : Bool)
  | null
  | enum (name : String)
  | list (items : List Value)
  | object (fields : List (String × Value))
  deriving Repr

abbrev Arguments := List (String × Value)

structure Directive where
  name : String
  args : Arguments
  deriving Repr

structure VariableDefinition where
  description : Option Literal
  name : String
  type : TypeRef
  defaultValue : Option Value
  directives : List Directive
  deriving Repr

/-- A field without what is selected below it. The label is the key that its answer is
given under. -/
structure FieldHead where
  label : Option String
  name : String
  args : Arguments
  directives : List Directive
  deriving Repr

/-- A field with an empty selection set differs from one without any. -/
inductive Selection where
  | leaf (head : FieldHead)
  | field (head : FieldHead) (selections : List Selection)
  | spread (name : String) (directives : List Directive)
  | inline (typeCondition : Option String) (directives : List Directive)
      (selections : List Selection)
  deriving Repr

inductive OperationType where
  | query
  | mutation
  | subscription
  deriving DecidableEq, Repr

def OperationType.keyword : OperationType → String
  | .query => "query"
  | .mutation => "mutation"
  | .subscription => "subscription"

inductive Definition where
  | operation (description : Option Literal) (type : OperationType) (name : Option String)
      (vars : List VariableDefinition) (directives : List Directive) (selections : List Selection)
  | fragment (description : Option Literal) (name : String) (typeCondition : String)
      (directives : List Directive) (selections : List Selection)
  deriving Repr

abbrev Document := List Definition

end QueryDraft.Language
