namespace QueryDraft

inductive Label where
  | field (name : String)
  | fragment (member : String)
  deriving DecidableEq, Repr

def Label.text : Label → List Char
  | .field name => name.toList
  | .fragment member => "... on ".toList ++ member.toList

inductive Selection where
  | leaf (name : String)
  | node (label : Label) (body : List Selection)
  deriving Repr

namespace Selection

def opening : List Char := [' ', '\x7b', ' ']

def closing : List Char := [' ', '\x7d']

mutual

def text : Selection → List Char
  | .leaf name => name.toList
  | .node label body => label.text ++ opening ++ bodyText body ++ closing

def bodyText : List Selection → List Char
  | [] => []
  | [s] => s.text
  | s :: t :: rest => s.text ++ '\n' :: bodyText (t :: rest)

end

def leafCost (name : String) : Nat := name.length + 1

/-- A label pays for itself, for its braces with the blanks around a body, and for a line break. -/
def nodeCost (label : Label) : Nat := label.text.length + opening.length + closing.length + 1

mutual

def cost : Selection → Nat
  | .leaf name => leafCost name
  | .node label body => bodyCost body + nodeCost label

def bodyCost : List Selection → Nat
  | [] => 0
  | s :: rest => s.cost + bodyCost rest

end

end Selection

end QueryDraft
