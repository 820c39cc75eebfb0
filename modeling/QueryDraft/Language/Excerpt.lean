import QueryDraft.Language.Lexer

namespace QueryDraft.Language.Excerpt

/-- The lines of a text after `line` and `lines`, both held last first. -/
def splitOnto (lines : List (List Char)) (line : List Char) : List Char → List (List Char)
  | [] => (line.reverse :: lines).reverse
  | '\r' :: '\n' :: rest => splitOnto (line.reverse :: lines) [] rest
  | c :: rest => if isLineBreak c then splitOnto (line.reverse :: lines) [] rest
  else splitOnto lines (c :: line) rest

def split (text : List Char) : List (List Char) := splitOnto [] [] text

/-- Line and column, both from one. -/
structure Place where
  line : Nat
  column : Nat

def place (text : List Char) (offset : Nat) : Place :=
  let before := split (text.take offset)
  ⟨before.length, (before.getLast?.getD []).length + 1⟩

def wholeWidth : Nat := 120

def pieceWidth : Nat := 80

def piecesOf : Nat → List Char → List (List Char)
  | 0, _ => []
  | fuel + 1, line =>
    if line.isEmpty then [] else line.take pieceWidth :: piecesOf fuel (line.drop pieceWidth)

def pieces (line : List Char) : List (List Char) := piecesOf (line.length + 1) line

abbrev Row := List Char × List Char

def numbered (n : Nat) (line : List Char) : Row := ((Nat.repr n ++ " |").toList, line)

def bare (line : List Char) : Row := (['|'], line)

def caret (column : Nat) : Row := bare (List.replicate (column - 1) ' ' ++ ['^'])

def rowsText (rows : List Row) : List Char :=
  let width := (rows.map (·.1.length)).foldl max 0
  let rowText (r : Row) :=
    List.replicate (width - r.1.length) ' ' ++ r.1 ++ (if r.2.isEmpty then [] else ' ' :: r.2)
  List.intercalate ['\n'] (rows.map rowText)

def longRows (p : Place) (line : List Char) : List Row :=
  let parts := pieces line
  let index := min ((p.column - 1) / pieceWidth) (parts.length - 1)
  let shown := match parts.take (index + 1) with
    | [] => []
    | head :: others => numbered p.line head :: others.map bare
  shown ++ caret (p.column - pieceWidth * index) :: ((parts.drop (index + 1)).take 1).map bare

def shortRows (p : Place) (all : List (List Char)) (line : List Char) : List Row :=
  let above := if p.line ≤ 1 then [] else (all[p.line - 2]?).toList.map (numbered (p.line - 1))
  let below := (all[p.line]?).toList.map (numbered (p.line + 1))
  above ++ numbered p.line line :: caret p.column :: below

def rows (p : Place) (all : List (List Char)) : List Row :=
  let line := (all[p.line - 1]?).getD []
  if line.length ≤ wholeWidth then shortRows p all line else longRows p line

def text (source : List Char) (offset : Nat) : String :=
  let p := place source offset
  "GraphQL request:" ++ Nat.repr p.line ++ ":" ++ Nat.repr p.column ++ "\n"
    ++ String.ofList (rowsText (rows p (split source)))

end QueryDraft.Language.Excerpt
