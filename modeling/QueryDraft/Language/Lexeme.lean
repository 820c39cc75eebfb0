namespace QueryDraft.Language

inductive Punctuator where
  | bang
  | dollar
  | amp
  | parenL
  | parenR
  | spread
  | colon
  | equals
  | at
  | bracketL
  | bracketR
  | braceL
  | pipe
  | braceR
  deriving DecidableEq, Repr

def Punctuator.text : Punctuator → String
  | .bang => "!"
  | .dollar => "$"
  | .amp => "&"
  | .parenL => "("
  | .parenR => ")"
  | .spread => "..."
  | .colon => ":"
  | .equals => "="
  | .at => "@"
  | .bracketL => "["
  | .bracketR => "]"
  | .braceL => "\x7b"
  | .pipe => "|"
  | .braceR => "\x7d"

def Punctuator.ofChar? : Char → Option Punctuator
  | '!' => some .bang
  | '$' => some .dollar
  | '&' => some .amp
  | '(' => some .parenL
  | ')' => some .parenR
  | ':' => some .colon
  | '=' => some .equals
  | '@' => some .at
  | '[' => some .bracketL
  | ']' => some .bracketR
  | '\x7b' => some .braceL
  | '|' => some .pipe
  | '\x7d' => some .braceR
  | _ => none

/-- Numbers keep their spelling; texts are held without quotes and escapes. -/
inductive Lexeme where
  | punctuator (p : Punctuator)
  | name (value : String)
  | int (value : String)
  | float (value : String)
  | string (value : String)
  | blockString (value : String)
  deriving DecidableEq, Repr

def Lexeme.description : Lexeme → String
  | .punctuator p => "'" ++ p.text ++ "'"
  | .name v => "Name '" ++ v ++ "'"
  | .int v => "Int '" ++ v ++ "'"
  | .float v => "Float '" ++ v ++ "'"
  | .string v => "String '" ++ v ++ "'"
  | .blockString v => "BlockString '" ++ v ++ "'"

end QueryDraft.Language
