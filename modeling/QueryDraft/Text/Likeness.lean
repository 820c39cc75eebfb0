namespace QueryDraft.Text

def sharedStart : List Char → List Char → Nat
  | a :: as, b :: bs => if a = b then sharedStart as bs + 1 else 0
  | _, _ => 0

structure SharedRun where
  length : Nat
  left : Nat
  right : Nat

def longestRun (a b : List Char) : SharedRun :=
  let starts := (List.range a.length).flatMap fun i => (List.range b.length).map fun j => (i, j)
  starts.foldl (fun (best : SharedRun) (i, j) =>
    let n := sharedStart (a.drop i) (b.drop j)
    if best.length < n then ⟨n, i, j⟩ else best) ⟨0, 0, 0⟩

/-- How many characters lie in common runs. Each run shortens the texts, so the length of one bounds
their number. -/
def sharedFrom : Nat → List Char → List Char → Nat
  | 0, _, _ => 0
  | fuel + 1, a, b =>
    let r := longestRun a b
    if r.length = 0 then 0
    else
      sharedFrom fuel (a.take r.left) (b.take r.right) + r.length
        + sharedFrom fuel (a.drop (r.left + r.length)) (b.drop (r.right + r.length))

def shared (a b : List Char) : Nat := sharedFrom (a.length + 1) a b

/-- Three fifths of the characters or more are shared. They cannot be if one text is too
short for it. -/
def isAlike (a b : List Char) : Bool :=
  let needed := 3 * (a.length + b.length)
  needed ≤ 10 * min a.length b.length && needed ≤ 10 * shared a b

def isLiker (a x y : List Char) : Bool :=
  let ofX := shared x a * (y.length + a.length)
  let ofY := shared y a * (x.length + a.length)
  ofY < ofX || (ofX == ofY && String.ofList y ≤ String.ofList x)

/-- Of some texts the three that are most like a text, if they are alike, in order. -/
def alike (a : String) (texts : List String) : List String :=
  let close := texts.filter fun t => isAlike t.toList a.toList
  ((close.mergeSort fun x y => isLiker a.toList x.toList y.toList).take 3).mergeSort

end QueryDraft.Text
