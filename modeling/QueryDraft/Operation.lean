import QueryDraft.Selection.Depth
import QueryDraft.Text.Uppercase

namespace QueryDraft

inductive OperationKind where
  | query
  | mutation
  deriving DecidableEq, Repr

namespace OperationKind

def keyword : OperationKind → String
  | .query => "query"
  | .mutation => "mutation"

def verb : OperationKind → String
  | .query => "Get"
  | .mutation => "Mutate"

def ofKeyword? (word : String) : Option OperationKind :=
  if word = "query" then some .query else if word = "mutation" then some .mutation else none

/-- The name of an operation: the verb and the field's name with its first character in upper case.
An empty field name gives none. -/
def operationName? (kind : OperationKind) (field : String) : Option String :=
  match field.toList with
  | [] => none
  | c :: rest => some (kind.verb ++ String.ofList (Text.uppercase c ++ rest))

end OperationKind

structure RootField where
  kind : OperationKind
  field : Field
  deriving DecidableEq, Repr

def Schema.roots (s : Schema) : List RootField :=
  (s.rootFields s.query).map (RootField.mk .query) ++
    (s.rootFields s.mutation).map (RootField.mk .mutation)

structure Operation where
  kind : OperationKind
  name : String
  field : String
  args : List Argument
  body : List Selection
  deriving Repr

namespace Operation

def separated : List (List Char) → List Char
  | [] => []
  | [x] => x
  | x :: y :: rest => x ++ ',' :: ' ' :: separated (y :: rest)

def parens (parts : List (List Char)) : List Char :=
  if parts.isEmpty then [] else '(' :: separated parts ++ [')']

def declaration (a : Argument) : List Char := '$' :: a.name.toList ++ ':' :: ' ' :: a.type.text

def use (a : Argument) : List Char := a.name.toList ++ ':' :: ' ' :: '$' :: a.name.toList

def indent (text : List Char) : List Char :=
  "    ".toList ++ text.flatMap fun c => if c = '\n' then '\n' :: "    ".toList else [c]

def bodyText (body : List Selection) : List Char :=
  if body.isEmpty then []
  else " \x7b\n".toList ++ indent (Selection.bodyText body) ++ "\n  \x7d".toList

def text (o : Operation) : List Char :=
  o.kind.keyword.toList ++ ' ' :: o.name.toList ++ parens (o.args.map declaration) ++
    " \x7b\n  ".toList
    ++ o.field.toList ++ parens (o.args.map use) ++ bodyText o.body ++ "\n\x7d".toList

end Operation

inductive DraftError where
  | tooLarge (cause : TooLarge)
  | negativeDepth (depth : Int)
  | emptyFieldName
  deriving DecidableEq, Repr

def DraftError.message : DraftError → String
  | .tooLarge cause => cause.message
  | .negativeDepth depth => "max_depth must be >= 0, got " ++ Int.repr depth
  | .emptyFieldName => "Cannot derive an operation name from an empty field name"

def rootLevel : Int := 1

/-- The operation of a field under the name `field`, with the running total before and after. -/
def Scope.operation (scope : Scope) (schema : Schema) (kind : OperationKind) (field : String)
    (f : Field) (used : Nat) : Except DraftError Operation × Nat :=
  match kind.operationName? field with
  | none => (.error .emptyFieldName, used)
  | some name =>
    match scope.select schema [] rootLevel f.type.target used with
    | (.ok body, total) => (.ok ⟨kind, name, field, f.args, body⟩, total)
    | (.error cause, total) => (.error (.tooLarge cause), total)

end QueryDraft
