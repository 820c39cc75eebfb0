import QueryDraft.Json.Basic
import QueryDraft.Decimal.Shortest
import QueryDraft.Text.Quoted

namespace QueryDraft.Json

mutual

def display : Json → String
  | .null => "None"
  | .bool b => if b then "True" else "False"
  | .int n => Int.repr n
  | .float x => Decimal.text "nan" "inf" x
  | .str s => Text.quoted s
  | .arr items => "[" ++ ", ".intercalate (displayItems items) ++ "]"
  | .obj ms => "\x7b" ++ ", ".intercalate (displayMembers ms) ++ "\x7d"

def displayItems : List Json → List String
  | [] => []
  | v :: rest => display v :: displayItems rest

def displayMembers : List (String × Json) → List String
  | [] => []
  | (n, v) :: rest => (Text.quoted n ++ ": " ++ display v) :: displayMembers rest

end

def cutText (s : String) : String :=
  let cs := s.toList
  if cs.length ≤ 240 then s
  else String.ofList (cs.take 118) ++ "..." ++ String.ofList (cs.drop (cs.length - 119))

def cutItems (items : List String) : List String :=
  if items.length ≤ 10 then items
  else items.take 5 ++ "..." :: items.drop (items.length - 4)

/-- A value with containers shown `levels` deep. -/
def outline : Nat → Json → String
  | _, .arr [] => "[]"
  | _, .obj [] => "\x7b\x7d"
  | 0, .arr _ => "[...]"
  | 0, .obj _ => "\x7b...\x7d"
  | n + 1, .arr items => "[" ++ ", ".intercalate (cutItems (items.map (outline n))) ++ "]"
  | n + 1, .obj ms =>
    "\x7b" ++ ", ".intercalate
      (cutItems (ms.map fun m => cutText (Text.quoted m.1) ++ ": " ++ outline n m.2)) ++ "\x7d"
  | _, .int n => cutText (Int.repr n)
  | _, .str s => cutText (Text.quoted s)
  | _, v => v.display

def inspect (v : Json) : String := outline 2 v

def kindWord : Json → String
  | .null => "NoneType"
  | .bool _ => "bool"
  | .int _ => "int"
  | .float _ => "float"
  | .str _ => "str"
  | .arr _ => "list"
  | .obj _ => "dict"

end QueryDraft.Json
