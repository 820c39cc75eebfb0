import QueryDraft.Language.Excerpt
import QueryDraft.Language.Lexer
import QueryDraft.Language.Parser
import QueryDraft.Language.Printer

namespace QueryDraft.Language

inductive Cause where
  | lexical (cause : LexicalCause)
  | grammatical (cause : Parser.Cause)

def Cause.message : Cause → String
  | .lexical cause => cause.message
  | .grammatical cause => cause.message

structure Fault where
  cause : Cause
  offset : Nat

/-- The offset of the place from which `n` lexemes are left. -/
def Scan.offset (s : Scan) (text : List Char) (n : Nat) : Nat :=
  match s.tokens[s.tokens.length - n]? with
  | some t => text.length - t.rest.length
  | none => text.length

def LexicalFault.locate (f : LexicalFault) (text : List Char) : Fault :=
  ⟨.lexical f.cause, text.length - f.rest.length⟩

/-- Reads a text. Where no lexeme starts, a reader that runs out of lexemes stops at that place,
whatever it was looking for. -/
def readText {α : Type} (reader : List Lexeme → Except Parser.Fault α)
    (text : List Char) : Except Fault α :=
  let s := scan text
  match reader (s.tokens.map (·.lexeme)), s.fault with
  | .ok a, none => .ok a
  | .ok _, some fault => .error (fault.locate text)
  | .error fault, none => .error ⟨.grammatical fault.cause, s.offset text fault.place⟩
  | .error fault, some lexical =>
    if fault.left = 0 then .error (lexical.locate text)
    else .error ⟨.grammatical fault.cause, s.offset text fault.place⟩

def parse (text : List Char) : Except Fault Document := readText Parser.document text

def parseConstant (text : List Char) : Except Fault Value := readText Parser.constant text

def Fault.message (f : Fault) (text : List Char) : String :=
  "Syntax Error: " ++ f.cause.message ++ "\n\n" ++ Excerpt.text text f.offset

def format (text : List Char) : Except Fault (List Char) := (parse text).map Document.text

end QueryDraft.Language
