import QueryDraft.Keyed

namespace QueryDraft

inductive Json where
  | null
  | bool (b : Bool)
  | int (n : Int)
  | float (x : Float)
  | str (s : String)
  | arr (items : List Json)
  | obj (members : List (String × Json))

namespace Json

abbrev Members := Keyed Json

/-- The member, where an absent one counts as null. -/
def member (ms : Members) (name : String) : Json := (ms.lookup name).getD .null

def truthy : Json → Bool
  | .null => false
  | .bool b => b
  | .int n => n != 0
  | .float x => !(x == 0.0)
  | .str s => !s.isEmpty
  | .arr items => !items.isEmpty
  | .obj ms => !ms.isEmpty

end Json

end QueryDraft
