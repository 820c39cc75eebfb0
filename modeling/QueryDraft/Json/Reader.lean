import QueryDraft.Decimal.Numeral
import QueryDraft.Json.Basic
import QueryDraft.Text.Hex
import QueryDraft.Text.Surrogate

namespace QueryDraft.Json

inductive Cause where
  | value
  | propertyName
  | colon
  | comma
  | unterminatedString
  | controlCharacter
  | escape
  | unicodeEscape
  | extraData
  | byteOrderMark
  | longInteger (digits : Nat)
  | nestedArray
  | nestedObject
  deriving DecidableEq, Repr

def Cause.message : Cause → String
  | .value => "Expecting value"
  | .propertyName => "Expecting property name enclosed in double quotes"
  | .colon => "Expecting ':' delimiter"
  | .comma => "Expecting ',' delimiter"
  | .unterminatedString => "Unterminated string starting at"
  | .controlCharacter => "Invalid control character at"
  | .escape => "Invalid \\escape"
  | .unicodeEscape => "Invalid \\uXXXX escape"
  | .extraData => "Extra data"
  | .byteOrderMark => "Unexpected UTF-8 BOM (decode using utf-8-sig)"
  | .longInteger digits =>
    "Exceeds the limit (" ++ Nat.repr Numeral.mostDigits ++
      " digits) for integer string conversion: value has "
      ++ Nat.repr digits ++ " digits; use sys.set_int_max_str_digits() to increase the limit"
  | .nestedArray =>
    "maximum recursion depth exceeded while decoding a JSON array from a unicode string"
  | .nestedObject =>
    "maximum recursion depth exceeded while decoding a JSON object from a unicode string"

inductive Limit where
  | digits
  | nesting
  deriving DecidableEq, Repr

def Cause.limit? : Cause → Option Limit
  | .longInteger _ => some .digits
  | .nestedArray | .nestedObject => some .nesting
  | _ => none

/-- A fault and the text from it on. -/
structure Fault where
  cause : Cause
  rest : List Char

abbrev Step (α : Type) := Except Fault (α × List Char)

def isSpace (c : Char) : Bool := c == ' ' || c == '\t' || c == '\n' || c == '\r'

def skipSpace (cs : List Char) : List Char := cs.dropWhile isSpace

def escaped? : Char → Option Char
  | '"' => some '"'
  | '\\' => some '\\'
  | '/' => some '/'
  | 'b' => some '\x08'
  | 'f' => some '\x0c'
  | 'n' => some '\n'
  | 'r' => some '\r'
  | 't' => some '\t'
  | _ => none

/-- The code unit of four hexadecimal digits. They must not be the end of the text. -/
def unit? (cs : List Char) : Option (Nat × List Char) :=
  if (cs.take 5).length < 5 then none
  else (Text.hexValue? (cs.take 4)).map fun n => (n, cs.drop 4)

/-- The character of an escape after its `\u`. The second half of a surrogate pair is part of it. -/
def unicodeEscape (cs : List Char) : Step Char :=
  match unit? cs with
  | none => .error ⟨.unicodeEscape, 'u' :: cs⟩
  | some (n, rest) =>
    match Text.Surrogate.isHigh n, rest with
    | true, '\\' :: 'u' :: low =>
      if (low.take 5).length < 5 then .ok (Text.Surrogate.hold n, rest)
      else
        match unit? low with
        | none => .error ⟨.unicodeEscape, 'u' :: low⟩
        | some (m, after) =>
          if Text.Surrogate.isLow m then .ok (Text.Surrogate.join n m, after)
          else .ok (Text.Surrogate.hold n, rest)
    | _, _ => .ok (Text.Surrogate.hold n, rest)

/-- The content of a string after its opening quote; `opening` is the text from that quote on,
`acc` what was read, last character first. A step takes at least one character, so a text can
be the fuel. -/
def stringTail (opening : List Char) : (fuel : List Char) → List Char → List Char → Step String
  | [], _, _ => .error ⟨.unterminatedString, opening⟩
  | _ :: _, _, [] => .error ⟨.unterminatedString, opening⟩
  | _ :: _, acc, '"' :: rest => .ok (String.ofList acc.reverse, rest)
  | _ :: _, _, ['\\'] => .error ⟨.unterminatedString, opening⟩
  | _ :: fuel, acc, '\\' :: 'u' :: rest =>
    match unicodeEscape rest with
    | .error e => .error e
    | .ok (c, after) => stringTail opening fuel (c :: acc) after
  | _ :: fuel, acc, '\\' :: c :: rest =>
    match escaped? c with
    | some x => stringTail opening fuel (x :: acc) rest
    | none => .error ⟨.escape, '\\' :: c :: rest⟩
  | _ :: fuel, acc, c :: rest =>
    if c.toNat < 0x20 then .error ⟨.controlCharacter, c :: rest⟩
    else stringTail opening fuel (c :: acc) rest

def string (cs : List Char) : Step String := stringTail ('"' :: cs) ('"' :: cs) [] cs

def natOfDigits (ds : List Char) : Nat := ds.foldl (fun n c => n * 10 + (c.toNat - '0'.toNat)) 0

def floatOfScientific (m : Nat) (e : Int) : Float :=
  let size := (Nat.repr m).length
  if m == 0 then 0.0
  else if 400 < size + e then 1.0 / 0.0
  else if size + e < -400 then 0.0
  else if 0 ≤ e then Float.ofScientific (m * Nat.pow 10 e.toNat) false 0
  else Float.ofScientific m true (-e).toNat

def fraction (cs : List Char) : List Char × List Char :=
  match cs with
  | '.' :: rest =>
    let ds := rest.takeWhile Char.isDigit
    if ds.isEmpty then ([], cs) else (ds, rest.dropWhile Char.isDigit)
  | _ => ([], cs)

def exponent? (cs : List Char) : Option (Int × List Char) :=
  let digits (sign : Int) (rest : List Char) :=
    let ds := rest.takeWhile Char.isDigit
    if ds.isEmpty then none else some (sign * natOfDigits ds, rest.dropWhile Char.isDigit)
  match cs with
  | 'e' :: '-' :: rest | 'E' :: '-' :: rest => digits (-1) rest
  | 'e' :: '+' :: rest | 'E' :: '+' :: rest => digits 1 rest
  | 'e' :: rest | 'E' :: rest => digits 1 rest
  | _ => none

def whole? : List Char → Option (List Char × List Char)
  | '0' :: rest => some (['0'], rest)
  | cs =>
    let ds := cs.takeWhile Char.isDigit
    if ds.isEmpty then none else some (ds, cs.dropWhile Char.isDigit)

def integer (negative : Bool) (ds : List Char) : Except Cause Json :=
  if Numeral.mostDigits < ds.length then .error (.longInteger ds.length)
  else
    let n : Int := natOfDigits ds
    .ok (.int (if negative then -n else n))

def floatOfDigits (negative : Bool) (ds : List Char) (places : Nat) (e : Int) : Json :=
  let x := floatOfScientific (natOfDigits ds) (e - places)
  .float (if negative then -x else x)

def number (cs : List Char) : Step Json :=
  let (negative, body) := match cs with
    | '-' :: rest => (true, rest)
    | _ => (false, cs)
  match whole? body with
  | none => .error ⟨.value, cs⟩
  | some (ds, rest) =>
    let (fs, afterFraction) := fraction rest
    match exponent? afterFraction with
    | some (e, after) => .ok (floatOfDigits negative (ds ++ fs) fs.length e, after)
    | none =>
      if fs.isEmpty then
        match integer negative ds with
        | .ok v => .ok (v, rest)
        | .error cause => .error ⟨cause, cs⟩
      else .ok (floatOfDigits negative (ds ++ fs) fs.length 0, afterFraction)

/-- How many containers may be open at once: the recursion limit of the interpreter, less the
frames in use where a text is read. Their number is not the same for all callers, and this one
stands for it. -/
def nesting : Nat := 980

mutual

/-- A value at the start of the text; `room` is how many containers may still be opened. -/
def value : (fuel room : Nat) → List Char → Step Json
  | 0, _, cs => .error ⟨.value, cs⟩
  | fuel + 1, room, cs =>
    match cs with
    | '"' :: rest => (string rest).map fun (s, after) => (.str s, after)
    | '[' :: rest =>
      if room = 0 then .error ⟨.nestedArray, cs⟩
      else
        match skipSpace rest with
        | ']' :: after => .ok (.arr [], after)
        | inner => items fuel (room - 1) [] inner
    | '\x7b' :: rest =>
      if room = 0 then .error ⟨.nestedObject, cs⟩
      else
        match skipSpace rest with
        | '\x7d' :: after => .ok (.obj [], after)
        | inner => members fuel (room - 1) [] inner
    | 'n' :: 'u' :: 'l' :: 'l' :: rest => .ok (.null, rest)
    | 't' :: 'r' :: 'u' :: 'e' :: rest => .ok (.bool true, rest)
    | 'f' :: 'a' :: 'l' :: 's' :: 'e' :: rest => .ok (.bool false, rest)
    | 'N' :: 'a' :: 'N' :: rest => .ok (.float (0.0 / 0.0), rest)
    | 'I' :: 'n' :: 'f' :: 'i' :: 'n' :: 'i' :: 't' :: 'y' :: rest => .ok (.float (1.0 / 0.0), rest)
    | '-' :: 'I' :: 'n' :: 'f' :: 'i' :: 'n' :: 'i' :: 't' :: 'y' :: rest =>
      .ok (.float (-1.0 / 0.0), rest)
    | _ => number cs

def items : (fuel room : Nat) → List Json → List Char → Step Json
  | 0, _, _, cs => .error ⟨.value, cs⟩
  | fuel + 1, room, acc, cs =>
    match value fuel room cs with
    | .error e => .error e
    | .ok (v, rest) =>
      match skipSpace rest with
      | ']' :: after => .ok (.arr (v :: acc).reverse, after)
      | ',' :: after => items fuel room (v :: acc) (skipSpace after)
      | other => .error ⟨.comma, other⟩

def members : (fuel room : Nat) → List (String × Json) → List Char → Step Json
  | 0, _, _, cs => .error ⟨.propertyName, cs⟩
  | fuel + 1, room, acc, cs =>
    match cs with
    | '"' :: rest =>
      match string rest with
      | .error e => .error e
      | .ok (name, rest) =>
        match skipSpace rest with
        | ':' :: after =>
          match value fuel room (skipSpace after) with
          | .error e => .error e
          | .ok (v, rest) =>
            match skipSpace rest with
            | '\x7d' :: after => .ok (.obj (Keyed.ofList ((name, v) :: acc).reverse), after)
            | ',' :: after => members fuel room ((name, v) :: acc) (skipSpace after)
            | other => .error ⟨.comma, other⟩
        | other => .error ⟨.colon, other⟩
    | _ => .error ⟨.propertyName, cs⟩

end

/-- A whole text. At most two calls above go by without taking a character, so twice its length is
fuel enough. -/
def readValue (cs : List Char) : Except Fault Json :=
  match value (2 * cs.length + 2) nesting (skipSpace cs) with
  | .error e => .error e
  | .ok (v, rest) =>
    match skipSpace rest with
    | [] => .ok v
    | extra => .error ⟨.extraData, extra⟩

def read (cs : List Char) : Except Fault Json :=
  match cs with
  | '\ufeff' :: _ => .error ⟨.byteOrderMark, cs⟩
  | _ => readValue cs

def Fault.place (fault : Fault) (text : List Char) : String :=
  let offset := text.length - fault.rest.length
  let before := text.take offset
  let line := before.count '\n' + 1
  let column := (before.reverse.takeWhile (· != '\n')).length + 1
  "line " ++ Nat.repr line ++ " column " ++ Nat.repr column ++ " (char " ++ Nat.repr offset ++ ")"

def Fault.message (fault : Fault) (text : List Char) : String :=
  match fault.cause.limit? with
  | some _ => fault.cause.message
  | none => fault.cause.message ++ ": " ++ fault.place text

end QueryDraft.Json
