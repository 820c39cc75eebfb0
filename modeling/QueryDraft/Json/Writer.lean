import QueryDraft.Json.Basic
import QueryDraft.Text.Hex
import QueryDraft.Text.Surrogate
import QueryDraft.Decimal.Shortest

namespace QueryDraft.Json

def units (c : Char) : List Nat :=
  let n := Text.Surrogate.code c
  if n < 0x10000 then [n] else [0xd800 + (n - 0x10000) / 0x400, 0xdc00 + (n - 0x10000) % 0x400]

def writeChar (c : Char) : List Char :=
  match c with
  | '"' => ['\\', '"']
  | '\\' => ['\\', '\\']
  | '\n' => ['\\', 'n']
  | '\r' => ['\\', 'r']
  | '\t' => ['\\', 't']
  | _ =>
    if 0x20 ≤ c.toNat && c.toNat < 0x7f then [c]
    else (units c).flatMap fun u => '\\' :: 'u' :: Text.hex 4 u

def writeString (s : String) : String :=
  "\"" ++ String.ofList (s.toList.flatMap writeChar) ++ "\""

mutual

def write : Json → String
  | .null => "null"
  | .bool b => if b then "true" else "false"
  | .int n => Int.repr n
  | .float x => Decimal.text "NaN" "Infinity" x
  | .str s => writeString s
  | .arr items => "[" ++ ", ".intercalate (writeItems items) ++ "]"
  | .obj ms => "\x7b" ++ ", ".intercalate (writeMembers ms) ++ "\x7d"

def writeItems : List Json → List String
  | [] => []
  | v :: rest => write v :: writeItems rest

def writeMembers : List (String × Json) → List String
  | [] => []
  | (n, v) :: rest => (writeString n ++ ": " ++ write v) :: writeMembers rest

end

end QueryDraft.Json
