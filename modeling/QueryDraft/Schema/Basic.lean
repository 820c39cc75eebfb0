import QueryDraft.TypeRef

namespace QueryDraft

structure Argument where
  name : String
  type : TypeRef
  deriving DecidableEq, Repr

structure Field where
  name : String
  type : TypeRef
  args : List Argument
  deprecated : Bool
  deriving DecidableEq, Repr

/-- What a name stands for. The members of a union may repeat. -/
inductive TypeDef where
  | scalar
  | enum
  | object (fields : List Field)
  | interface (fields : List Field)
  | union (members : List String)
  | inputObject
  deriving DecidableEq, Repr

structure Schema where
  types : List (String × TypeDef)
  query : Option String
  mutation : Option String
  deriving DecidableEq, Repr

namespace TypeDef

def fields : TypeDef → List Field
  | .object fs => fs
  | .interface fs => fs
  | _ => []

def isLeaf : TypeDef → Bool
  | .scalar | .enum => true
  | _ => false

end TypeDef

namespace Schema

def find? (s : Schema) (name : String) : Option TypeDef := s.types.lookup name

def isLeaf (s : Schema) (name : String) : Bool := (s.find? name).any TypeDef.isLeaf

def fieldsOf (s : Schema) (name : String) : List Field :=
  ((s.find? name).map TypeDef.fields).getD []

def rootFields (s : Schema) (root : Option String) : List Field := (root.map s.fieldsOf).getD []

def ownTypes (s : Schema) : List (String × TypeDef) :=
  (s.types.filter fun t => !t.1.startsWith "__").mergeSort fun a b => a.1 ≤ b.1

end Schema

end QueryDraft
