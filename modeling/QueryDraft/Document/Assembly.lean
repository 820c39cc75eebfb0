import QueryDraft.Operation

namespace QueryDraft

/-- Which of the operations drafted so far, counted from zero, ran out of memory. -/
abbrev MemoryFaults := Nat → Bool

abbrev Counted (α : Type) := Except DraftError α × Nat

def Operation.paragraph (o : Operation) : List Char := o.text ++ ['\n', '\n']

/-- The paragraphs of the root fields left. `used` is what selections have cost and `size` the
length of the text before; both are held against the limit. -/
def Scope.paragraphs (scope : Scope) (schema : Schema) (faults : MemoryFaults) :
    List RootField → (begun used size : Nat) → Counted (List (List Char))
  | [], begun, _, _ => (.ok [], begun)
  | root :: rest, begun, used, size =>
    if faults begun then (.error (.tooLarge (.memory scope.depth)), begun + 1)
    else
      match scope.operation schema root.kind root.field.name root.field used with
      | (.error e, _) => (.error e, begun + 1)
      | (.ok operation, used) =>
        let text := operation.paragraph
        let size := size + text.length
        if exceeds scope.limit size then (.error (.tooLarge scope.tooLarge), begun + 1)
        else
          match scope.paragraphs schema faults rest (begun + 1) used size with
          | (.ok texts, begun) => (.ok (text :: texts), begun)
          | (.error e, begun) => (.error e, begun)

def Scope.assemble (scope : Scope) (schema : Schema) (faults : MemoryFaults)
    (begun : Nat) : Counted (List Char) :=
  match scope.paragraphs schema faults schema.roots begun 0 0 with
  | (.ok texts, begun) => (.ok texts.flatten, begun)
  | (.error e, begun) => (.error e, begun)

end QueryDraft
