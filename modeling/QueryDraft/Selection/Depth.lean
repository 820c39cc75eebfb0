import QueryDraft.Selection.Walk

namespace QueryDraft

def depthCeiling : Nat := 100

/-- Depth zero is automatic: only cycles end the walk, within a ceiling. -/
def effectiveDepth (depth : Nat) : Nat := if depth = 0 then depthCeiling else depth

def describeDepth (depth : Int) : String := if depth = 0 then "auto" else Int.repr depth

structure Scope where
  depth : Nat
  skipDeprecated : Bool
  limit : Option Int
  deriving DecidableEq, Repr

def Scope.levels (scope : Scope) (level : Int) : Nat :=
  (effectiveDepth scope.depth - level + 1).toNat

inductive TooLarge where
  | size (limit : Int) (depth : Nat)
  | memory (depth : Nat)
  deriving DecidableEq, Repr

def TooLarge.message : TooLarge → String
  | .size limit depth =>
    "Generated document exceeds " ++ Int.repr limit ++ " characters at depth " ++
      describeDepth depth
  | .memory depth => "Ran out of memory generating at depth " ++ describeDepth depth

def TooLarge.depth : TooLarge → Nat
  | .size _ depth => depth
  | .memory depth => depth

def Scope.tooLarge (scope : Scope) : TooLarge := .size (scope.limit.getD 0) scope.depth

/-- The selection from a type at a level below the types of a path, with the running total
before and after. -/
def Scope.select (scope : Scope) (schema : Schema) (path : List String) (level : Int)
    (type : String) (used : Nat) : Except TooLarge (List Selection) × Nat :=
  match selectWithin scope.limit (schema.steps scope.skipDeprecated)
    (scope.levels level) path type used with
  | .ok body total => (.ok body, total)
  | .error _ total => (.error scope.tooLarge, total)

end QueryDraft
