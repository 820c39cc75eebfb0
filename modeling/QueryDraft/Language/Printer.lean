import QueryDraft.Language.BlockString
import QueryDraft.Language.Document
import QueryDraft.Text.Hex

namespace QueryDraft.Language

def lineWidth : Nat := 80

def join (separator : List Char) : List (List Char) → List Char
  | [] => []
  | [x] => x
  | x :: y :: rest => x ++ separator ++ join separator (y :: rest)

def words (parts : List (List Char)) : List Char := join [' '] (parts.filter (!·.isEmpty))

def commaSeparated (parts : List (List Char)) : List Char := join [',', ' '] parts

def lines (parts : List (List Char)) : List Char := join ['\n'] parts

def indent (text : List Char) : List Char :=
  ' ' :: ' ' :: text.flatMap fun c => if c = '\n' then ['\n', ' ', ' '] else [c]

def braces (parts : List (List Char)) : List Char :=
  if parts.isEmpty then ['\x7b', '\x7d']
  else ['\x7b', '\n'] ++ indent (lines parts) ++ ['\n', '\x7d']

def literalChar (c : Char) : List Char :=
  match c with
  | '"' => ['\\', '"']
  | '\\' => ['\\', '\\']
  | '\x08' => ['\\', 'b']
  | '\t' => ['\\', 't']
  | '\n' => ['\\', 'n']
  | '\x0c' => ['\\', 'f']
  | '\r' => ['\\', 'r']
  | _ =>
    if c.toNat < 0x20 || (0x7f ≤ c.toNat && c.toNat < 0xa0) then
      '\\' :: 'u' :: (Text.hex 4 c.toNat).map Char.toUpper
    else [c]

def Literal.text (l : Literal) : List Char :=
  if l.block then BlockString.text l.value.toList
  else '"' :: l.value.toList.flatMap literalChar ++ ['"']

def listText (items : List (List Char)) : List Char :=
  let line := '[' :: commaSeparated items ++ [']']
  if line.length ≤ lineWidth then line else ['[', '\n'] ++ indent (lines items) ++ ['\n', ']']

def objectText (fields : List (List Char)) : List Char :=
  let line := ['\x7b', ' '] ++ commaSeparated fields ++ [' ', '\x7d']
  if line.length ≤ lineWidth then line else braces fields

mutual

def Value.text : Value → List Char
  | .variable name => '$' :: name.toList
  | .int spelling => spelling.toList
  | .float spelling => spelling.toList
  | .string literal => literal.text
  | .bool b => if b then "true".toList else "false".toList
  | .null => "null".toList
  | .enum name => name.toList
  | .list items => listText (itemTexts items)
  | .object fields => objectText (fieldTexts fields)

def itemTexts : List Value → List (List Char)
  | [] => []
  | v :: rest => v.text :: itemTexts rest

def fieldTexts : List (String × Value) → List (List Char)
  | [] => []
  | (name, v) :: rest => (name.toList ++ ':' :: ' ' :: v.text) :: fieldTexts rest

end

def parens (parts : List (List Char)) : List Char :=
  if parts.isEmpty then [] else '(' :: commaSeparated parts ++ [')']

def parenLines (parts : List (List Char)) (shift : List Char → List Char) : List Char :=
  if parts.isEmpty then [] else ['(', '\n'] ++ shift (lines parts) ++ ['\n', ')']

def Directive.text (d : Directive) : List Char := '@' :: d.name.toList ++ parens (fieldTexts d.args)

def directivesText (ds : List Directive) : List Char := words (ds.map Directive.text)

def descriptionText (d : Option Literal) : List Char :=
  match d with
  | none => []
  | some l => l.text ++ ['\n']

def VariableDefinition.text (v : VariableDefinition) : List Char :=
  let value := match v.defaultValue with
    | none => []
    | some d => ' ' :: '=' :: ' ' :: d.text
  let directives := if v.directives.isEmpty then [] else ' ' :: directivesText v.directives
  descriptionText v.description ++ '$' :: v.name.toList ++ ':' :: ' ' :: v.type.text ++ value ++
    directives

/-- Definitions share a line unless one of them has a line break. -/
def variablesText (vs : List VariableDefinition) : List Char :=
  let parts := vs.map VariableDefinition.text
  if parts.any (·.contains '\n') then parenLines parts id else parens parts

def FieldHead.line (h : FieldHead) : List Char :=
  let name := match h.label with
    | none => h.name.toList
    | some a => a.toList ++ ':' :: ' ' :: h.name.toList
  let args := fieldTexts h.args
  let line := name ++ parens args
  if line.length ≤ lineWidth then line else name ++ parenLines args indent

mutual

def Selection.text : Selection → List Char
  | .leaf head => words [head.line, directivesText head.directives]
  | .field head selections =>
    words [head.line, directivesText head.directives, braces (selectionTexts selections)]
  | .spread name directives => words ["...".toList ++ name.toList, directivesText directives]
  | .inline typeCondition directives selections =>
    let condition := match typeCondition with
      | none => []
      | some t => "on ".toList ++ t.toList
    words ["...".toList, condition, directivesText directives, braces (selectionTexts selections)]

def selectionTexts : List Selection → List (List Char)
  | [] => []
  | s :: rest => s.text :: selectionTexts rest

end

/-- A query of nothing but selections has no header. -/
def Definition.text : Definition → List Char
  | .operation description type name vars directives selections =>
    let title := (name.getD "").toList ++ variablesText vars
    let header :=
      descriptionText description ++ words [type.keyword.toList, title, directivesText directives]
    let set := braces (selectionTexts selections)
    if header = "query".toList then set else header ++ ' ' :: set
  | .fragment description name typeCondition directives selections =>
    descriptionText description ++
      words ["fragment".toList, name.toList, "on".toList, typeCondition.toList,
        directivesText directives, braces (selectionTexts selections)]

def Document.text (d : Document) : List Char := join ['\n', '\n'] (d.map Definition.text) ++ ['\n']

end QueryDraft.Language
