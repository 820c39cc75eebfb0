namespace QueryDraft.Language.BlockString

def isIndent (c : Char) : Bool := c == ' ' || c == '\t'

def indentOf (line : List Char) : Nat := (line.takeWhile isIndent).length

def isBlank (line : List Char) : Bool := line.all isIndent

def commonIndent (lines : List (List Char)) : Nat :=
  (((lines.drop 1).filter (!isBlank ·)).map indentOf).min?.getD 0

def dropBlankEnds (lines : List (List Char)) : List (List Char) :=
  ((lines.dropWhile isBlank).reverse.dropWhile isBlank).reverse

def dedent (lines : List (List Char)) : List (List Char) :=
  match lines with
  | [] => []
  | first :: others =>
    let indent := commonIndent lines
    dropBlankEnds (first :: others.map (·.drop indent))

def joinLines : List (List Char) → List Char
  | [] => []
  | [line] => line
  | line :: next :: rest => line ++ '\n' :: joinLines (next :: rest)

def splitLines : List Char → List (List Char)
  | [] => [[]]
  | '\n' :: rest => [] :: splitLines rest
  | c :: rest =>
    match splitLines rest with
    | [] => [[c]]
    | line :: lines => (c :: line) :: lines

def escape : List Char → List Char
  | '"' :: '"' :: '"' :: rest => '\\' :: '"' :: '"' :: '"' :: escape rest
  | c :: rest => c :: escape rest
  | [] => []

def endsWith (tail text : List Char) : Bool := tail.reverse.isPrefixOf text.reverse

/-- The layout of a value: whether a line break follows the opening quotes and precedes the
closing ones. -/
structure Layout where
  opening : Bool
  closing : Bool

/-- A value of several lines, a long one, and one whose end would run into the closing quotes stand
on lines of their own. A single line that starts with a blank keeps its place after the opening
quotes, since a line break there would cost it the blank. -/
def layout (value : List Char) : Layout :=
  let escaped := escape value
  let lines := splitLines escaped
  let single := lines.length == 1
  let indented := !single && (lines.drop 1).all fun line => line.head?.all isIndent
  let endsInEscape := endsWith ['\\', '"', '"', '"'] escaped
  let clash := (endsWith ['"'] value && !endsInEscape) || endsWith ['\\'] value
  let multiline := !single || 70 < value.length || clash || indented || endsInEscape
  let held := single && value.head?.any isIndent
  ⟨(multiline && !held) || indented, multiline || clash⟩

def quotes : List Char := ['"', '"', '"']

def text (value : List Char) : List Char :=
  let l := layout value
  quotes ++ (if l.opening then ['\n'] else []) ++ escape value ++
    (if l.closing then ['\n'] else []) ++ quotes

end QueryDraft.Language.BlockString
