import QueryDraft.Json.Display
import QueryDraft.Language.Parser

namespace QueryDraft.Language.Pieces

inductive Fault where
  | malformed
  | notText (kind : String)
  | incomparable (kind : String)
  | joined
  | several (length : Nat)
  deriving DecidableEq, Repr

def Fault.message : Fault → String
  | .malformed => "expected string or bytes-like object, got 'list'"
  | .notText kind => "'in <string>' requires string as left operand, not " ++ kind
  | .incomparable kind => "'<=' not supported between instances of 'str' and '" ++ kind ++ "'"
  | .joined => "sequence item 0: expected str instance, list found"
  | .several length =>
    "ord() expected a character, but string of length " ++ Nat.repr length ++ " found"

/-- A part of the row of blanks that texts may have between lexemes, or a line break. -/
def isIgnored (s : String) : Bool :=
  ["", " ", "\t", ",", "\ufeff", " \t", "\t,", ",\ufeff", " \t,", "\t,\ufeff", " \t,\ufeff", "\n",
    "\r"].contains s

def isLineEnd (s : String) : Bool := ["", "\r", "\n", "\r\n"].contains s

def isDigit (s : String) : Bool := "0" ≤ s && s ≤ "9"

def isNameStart (s : String) : Bool := ("a" ≤ s && s ≤ "z") || ("A" ≤ s && s ≤ "Z") || s == "_"

def isNamePart (s : String) : Bool := isNameStart s || isDigit s

def punctuator? (s : String) : Option Punctuator :=
  match s.toList with
  | [c] => Punctuator.ofChar? c
  | _ => none

/-- Items that stand for the characters of a text. Words, whole numbers and punctuators are read
from them as from characters, but nothing can be joined from them. -/
abbrev Row := List Json

def after (isPart : String → Bool) : Row → Row
  | .str s :: rest => if isPart s then after isPart rest else .str s :: rest
  | ps => ps

def nameBefore : Row → Except Fault Lexeme
  | .str _ :: _ | [] => .ok (.name "")
  | v :: _ => .error (.incomparable v.kindWord)

/-- A number before these pieces, the first of which is no digit. What follows it is looked
at in a row. -/
def numberBefore : Row → Except Fault Lexeme
  | [] => .ok (.int "")
  | .str _ :: _ => .error (.notText (Json.arr []).kindWord)
  | v :: _ => .error (.incomparable v.kindWord)

def afterComment : Row → Except Fault Row
  | [] => .ok []
  | .str s :: rest =>
    if isLineEnd s then .ok (.str s :: rest)
    else if s.length = 1 then afterComment rest
    else .error (.several s.length)
  | v :: _ => .error (.notText v.kindWord)

def stringFault : Row → Fault
  | [] => .malformed
  | .str "\"" :: _ => .joined
  | .str "\\" :: .str s :: rest =>
    if ["\"", "\\", "/", "b", "f", "n", "r", "t"].contains s then stringFault rest else .malformed
  | .str s :: rest =>
    if isLineEnd s || s == "\\" then .malformed
    else if s.length = 1 then stringFault rest
    else .several s.length
  | v :: _ => .notText v.kindWord

/-- The lexemes up to the fault that ends them, if one does. Every lexeme takes a piece. -/
def scan : Nat → Row → List Lexeme × Option Fault
  | 0, _ | _, [] => ([], none)
  | fuel + 1, .str s :: rest =>
    let proceed (lexeme : Except Fault Lexeme) (rest : Row) : List Lexeme × Option Fault :=
      match lexeme with
      | .error fault => ([], some fault)
      | .ok l =>
        let (ls, fault) := scan fuel rest
        (l :: ls, fault)
    if isIgnored s then scan fuel rest
    else if s == "#" then
      match afterComment rest with
      | .error fault => ([], some fault)
      | .ok rest => scan fuel rest
    else if s == "\"" then ([], some (stringFault rest))
    else
      match punctuator? s with
      | some p => proceed (.ok (.punctuator p)) rest
      | none =>
        if s == "-" || s == "0" then ([], some (.incomparable (Json.arr []).kindWord))
        else if isDigit s then proceed (numberBefore (after isDigit rest)) (after isDigit rest)
        else if isNameStart s then
          proceed (nameBefore (after isNamePart rest)) (after isNamePart rest)
        else ([], some .malformed)
  | _ + 1, v :: _ => ([], some (.notText v.kindWord))

def check (ps : Row) : Except Fault Unit :=
  let (lexemes, fault) := scan (ps.length + 1) ps
  match Parser.constant lexemes, fault with
  | .ok _, none => .ok ()
  | .ok _, some fault => .error fault
  | .error _, none => .error .malformed
  | .error found, some fault => .error (if found.left = 0 then fault else .malformed)

end QueryDraft.Language.Pieces
