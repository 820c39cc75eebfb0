import QueryDraft.Language.BlockString
import QueryDraft.Language.Lexeme
import QueryDraft.Name
import QueryDraft.Text.Hex
import QueryDraft.Text.Surrogate

namespace QueryDraft.Language

inductive LexicalCause where
  | twoDots
  | pointFirst (digits : String)
  | singleQuote
  | character (c : Char)
  | half (c : Char)
  | halfInString (c : Char)
  | digitAfterZero (c : Char)
  | digitExpected (found : Option Char)
  | unterminated
  | escape (text : String)
  | unicodeEscape (text : String)

def describeChar : Option Char → String
  | none => "<EOF>"
  | some c =>
    if c == '"' then "'\"'"
    else if 0x20 ≤ c.toNat && c.toNat ≤ 0x7e then String.ofList ['\'', c, '\'']
    else
      let n := Text.Surrogate.code c
      let width := if n < 0x10000 then 4 else if n < 0x100000 then 5 else 6
      "U+" ++ String.ofList ((Text.hex width n).map Char.toUpper)

def LexicalCause.message : LexicalCause → String
  | .twoDots => "Unexpected '..', did you mean '...'?"
  | .pointFirst digits =>
    "Invalid number, expected digit before '.', did you mean '0." ++ digits ++ "'?"
  | .singleQuote =>
    "Unexpected single quote character ('), did you mean to use a double quote (\")?"
  | .character c => "Unexpected character: " ++ describeChar c ++ "."
  | .half c => "Invalid character: " ++ describeChar c ++ "."
  | .halfInString c => "Invalid character within String: " ++ describeChar c ++ "."
  | .digitAfterZero c => "Invalid number, unexpected digit after 0: " ++ describeChar c ++ "."
  | .digitExpected found => "Invalid number, expected digit but got: " ++ describeChar found ++ "."
  | .unterminated => "Unterminated string."
  | .escape text => "Invalid character escape sequence: '" ++ text ++ "'."
  | .unicodeEscape text => "Invalid Unicode escape sequence: '" ++ text ++ "'."

structure LexicalFault where
  cause : LexicalCause
  rest : List Char

abbrev Lexed (α : Type) := Except LexicalFault (α × List Char)

def isLineBreak (c : Char) : Bool := c == '\n' || c == '\r'

def isIgnored (c : Char) : Bool :=
  c == ' ' || c == '\t' || c == ',' || c == '\ufeff' || isLineBreak c

/-- The text from the next lexeme on. Within a comment all is skipped up to the end of the line or
to a half of a surrogate pair. -/
def skipIgnored (inComment : Bool) : List Char → List Char
  | [] => []
  | c :: rest =>
    if inComment && !Text.Surrogate.isHeld c then skipIgnored (!isLineBreak c) rest
    else if isIgnored c then skipIgnored false rest
    else if c == '#' then skipIgnored true rest
    else c :: rest

def digits (cs : List Char) : Lexed (List Char) :=
  let ds := cs.takeWhile Char.isDigit
  if ds.isEmpty then .error ⟨.digitExpected cs.head?, cs⟩ else .ok (ds, cs.dropWhile Char.isDigit)

def wholePart (cs : List Char) : Lexed (List Char) :=
  match cs with
  | '0' :: c :: rest =>
    if c.isDigit then .error ⟨.digitAfterZero c, c :: rest⟩ else .ok (['0'], c :: rest)
  | _ => digits cs

def fractionPart (cs : List Char) : Lexed (List Char) :=
  match cs with
  | '.' :: rest => (digits rest).map fun (ds, after) => ('.' :: ds, after)
  | _ => .ok ([], cs)

def exponentPart (cs : List Char) : Lexed (List Char) :=
  match cs with
  | e :: rest =>
    if e == 'e' || e == 'E' then
      match rest with
      | sign :: more =>
        if sign == '+' || sign == '-' then (digits more).map fun (ds, after) =>
          (e :: sign :: ds, after)
        else (digits rest).map fun (ds, after) => (e :: ds, after)
      | [] => (digits rest).map fun (ds, after) => (e :: ds, after)
    else .ok ([], cs)
  | [] => .ok ([], cs)

/-- A number. No point, letter or underscore may follow it. -/
def number (cs : List Char) : Except LexicalFault (Lexeme × List Char) := do
  let (sign, body) := match cs with
    | '-' :: rest => (['-'], rest)
    | _ => ([], cs)
  let (whole, rest) ← wholePart body
  let (fraction, rest) ← fractionPart rest
  let (exponent, rest) ← exponentPart rest
  let spelling := String.ofList (sign ++ whole ++ fraction ++ exponent)
  let lexeme :=
    if fraction.isEmpty && exponent.isEmpty then Lexeme.int spelling else .float spelling
  match rest with
  | c :: _ =>
    if c == '.' || Name.isStart c then .error ⟨.digitExpected c, rest⟩ else .ok (lexeme, rest)
  | [] => .ok (lexeme, rest)

def escaped? : Char → Option Char
  | '"' => some '"'
  | '\\' => some '\\'
  | '/' => some '/'
  | 'b' => some '\x08'
  | 'f' => some '\x0c'
  | 'n' => some '\n'
  | 'r' => some '\r'
  | 't' => some '\t'
  | _ => none

def fourDigits? (cs : List Char) : Option Nat :=
  if (cs.take 4).length == 4 then Text.hexValue? (cs.take 4) else none

/-- The character of an escape of four digits, the text after its `\u` being `cs`. Two escapes of a
surrogate pair make one character. -/
def fixedEscape (cs : List Char) : Lexed Char :=
  let fault :=
    Except.error ⟨.unicodeEscape (String.ofList ('\\' :: 'u' :: cs.take 4)), '\\' :: 'u' :: cs⟩
  match fourDigits? cs with
  | none => fault
  | some n =>
    if n.isValidChar then .ok (Char.ofNat n, cs.drop 4)
    else
      match cs.drop 4 with
      | '\\' :: 'u' :: low =>
        match fourDigits? low with
        | some m =>
          if Text.Surrogate.isHigh n && Text.Surrogate.isLow m then
            .ok (Text.Surrogate.join n m, low.drop 4)
          else fault
        | none => fault
      | _ => fault

/-- The digits of an escape in braces: at most `room` characters are looked at, and those read are
held in `acc`, last first. -/
def bracedDigits : Nat → List Char → Nat → List Char → Except (List Char) (Char × List Char)
  | 0, acc, _, _ => .error acc
  | _ + 1, acc, _, [] => .error acc
  | room + 1, acc, n, c :: rest =>
    if c == '\x7d' then
      if !acc.isEmpty && n.isValidChar then .ok (Char.ofNat n, rest) else .error (c :: acc)
    else
      match Text.hexDigit? c with
      | some d => bracedDigits room (c :: acc) (n * 16 + d) rest
      | none => .error (c :: acc)

def bracedEscape (cs : List Char) : Lexed Char :=
  let opening := ['\\', 'u', '\x7b']
  match bracedDigits 9 [] 0 cs with
  | .ok found => .ok found
  | .error acc => .error ⟨.unicodeEscape (String.ofList (opening ++ acc.reverse)), opening ++ cs⟩

/-- The content of a string after its opening quote; `acc` is what was read, last character first. A
step takes at least one character, so a text can be the fuel. -/
def stringTail : (fuel : List Char) → List Char → List Char →
    Except LexicalFault (Lexeme × List Char)
  | [], _, cs => .error ⟨.unterminated, cs⟩
  | _ :: _, _, [] => .error ⟨.unterminated, []⟩
  | _ :: _, acc, '"' :: rest => .ok (.string (String.ofList acc.reverse), rest)
  | _ :: fuel, acc, '\\' :: 'u' :: '\x7b' :: rest => do
    let (c, after) ← bracedEscape rest
    stringTail fuel (c :: acc) after
  | _ :: fuel, acc, '\\' :: 'u' :: rest => do
    let (c, after) ← fixedEscape rest
    stringTail fuel (c :: acc) after
  | _ :: fuel, acc, '\\' :: rest =>
    match rest with
    | [] => .error ⟨.escape "\\", ['\\']⟩
    | c :: after =>
      match escaped? c with
      | some x => stringTail fuel (x :: acc) after
      | none => .error ⟨.escape (String.ofList ['\\', c]), '\\' :: rest⟩
  | _ :: fuel, acc, c :: rest =>
    if isLineBreak c then .error ⟨.unterminated, c :: rest⟩
    else if Text.Surrogate.isHeld c then .error ⟨.halfInString c, c :: rest⟩
    else stringTail fuel (c :: acc) rest

/-- The lines of a block string after its opening quotes. The line being read and the lines before
it are held last first. A step takes at least one character, so a text can be the fuel. -/
def blockTail : (fuel : List Char) → List (List Char) → List Char → List Char → Lexed Lexeme
  | [], _, _, cs => .error ⟨.unterminated, cs⟩
  | _ :: _, _, _, [] => .error ⟨.unterminated, []⟩
  | _ :: _, lines, line, '"' :: '"' :: '"' :: rest =>
    let value := BlockString.joinLines (BlockString.dedent (line.reverse :: lines).reverse)
    .ok (.blockString (String.ofList value), rest)
  | _ :: fuel, lines, line, '\\' :: '"' :: '"' :: '"' :: rest =>
    blockTail fuel lines ('"' :: '"' :: '"' :: line) rest
  | _ :: fuel, lines, line, '\r' :: '\n' :: rest => blockTail fuel (line.reverse :: lines) [] rest
  | _ :: fuel, lines, line, c :: rest =>
    if isLineBreak c then blockTail fuel (line.reverse :: lines) [] rest
    else if Text.Surrogate.isHeld c then .error ⟨.halfInString c, c :: rest⟩
    else blockTail fuel lines (c :: line) rest

def name (cs : List Char) : Lexeme × List Char :=
  (.name (String.ofList (cs.takeWhile Name.isPart)), cs.dropWhile Name.isPart)

def first (cs : List Char) : Lexed Lexeme :=
  match cs with
  | '"' :: '"' :: '"' :: rest => blockTail cs [] [] rest
  | '"' :: rest => stringTail cs [] rest
  | '.' :: '.' :: '.' :: rest => .ok (.punctuator .spread, rest)
  | '.' :: '.' :: _ => .error ⟨.twoDots, cs⟩
  | [] => .error ⟨.unterminated, []⟩
  | c :: rest =>
    match Punctuator.ofChar? c with
    | some p => .ok (.punctuator p, rest)
    | none =>
      if c.isDigit || c == '-' then number cs
      else if Name.isStart c then .ok (name cs)
      else if c == '\'' then .error ⟨.singleQuote, cs⟩
      else if c == '.' then
        match rest.takeWhile Char.isDigit with
        | [] => .error ⟨.character c, cs⟩
        | ds => .error ⟨.pointFirst (String.ofList ds), cs⟩
      else if Text.Surrogate.isHeld c then .error ⟨.half c, cs⟩
      else .error ⟨.character c, cs⟩

structure Token where
  lexeme : Lexeme
  rest : List Char

structure Scan where
  tokens : List Token
  fault : Option LexicalFault

def scanFrom : Nat → List Char → Scan
  | 0, _ => ⟨[], none⟩
  | fuel + 1, cs =>
    match skipIgnored false cs with
    | [] => ⟨[], none⟩
    | start =>
      match first start with
      | .error fault => ⟨[], some fault⟩
      | .ok (lexeme, rest) =>
        let tail := scanFrom fuel rest
        ⟨⟨lexeme, start⟩ :: tail.tokens, tail.fault⟩

/-- Every lexeme has a character, so the text's length bounds their number. -/
def scan (cs : List Char) : Scan := scanFrom (cs.length + 1) cs

end QueryDraft.Language
