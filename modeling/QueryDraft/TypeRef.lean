namespace QueryDraft

inductive TypeRef where
  | named (name : String)
  | list (item : TypeRef)
  | nonNull (inner : TypeRef)
  deriving DecidableEq, Repr

namespace TypeRef

def target : TypeRef → String
  | .named name => name
  | .list item => item.target
  | .nonNull inner => inner.target

def text : TypeRef → List Char
  | .named name => name.toList
  | .list item => '[' :: item.text ++ [']']
  | .nonNull inner => inner.text ++ ['!']

def isNonNull : TypeRef → Bool
  | .nonNull _ => true
  | _ => false

end TypeRef

end QueryDraft
