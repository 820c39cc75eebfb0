import QueryDraft.Text.Blank
import QueryDraft.Text.DecimalDigit

namespace QueryDraft.Numeral

/-- Blanks around a number. The separators of information are none. -/
def isMargin (c : Char) : Bool := Text.isBlank c && !(0x1c ≤ c.toNat && c.toNat ≤ 0x1f)

def trim (cs : List Char) : List Char :=
  ((cs.dropWhile isMargin).reverse.dropWhile isMargin).reverse

def asciiDigits (cs : List Char) : List Char :=
  cs.map fun c =>
    match Text.decimalDigit? c with
    | some d => Char.ofNat (d + '0'.toNat)
    | none => c

/-- Leaves out the underscores, each of which must stand between two digits; `afterDigit` tells
whether the character before is one. -/
def dropUnderscores? (afterDigit : Bool) : List Char → Option (List Char)
  | [] => some []
  | '_' :: c :: rest =>
    if afterDigit && c.isDigit then (dropUnderscores? true rest).map (c :: ·) else none
  | ['_'] => none
  | c :: rest => (dropUnderscores? c.isDigit rest).map (c :: ·)

def plain? (text : String) : Option (List Char) :=
  dropUnderscores? false (asciiDigits (trim text.toList))

def unsigned (cs : List Char) : Bool × List Char :=
  match cs with
  | '-' :: rest => (true, rest)
  | '+' :: rest => (false, rest)
  | _ => (false, cs)

def mostDigits : Nat := 4300

def int? (text : String) : Option Int := do
  let (negative, ds) := unsigned (← plain? text)
  if ds.isEmpty || !ds.all Char.isDigit || mostDigits < ds.length then none
  else
    let n := ds.foldl (fun n c => n * 10 + (c.toNat - '0'.toNat)) 0
    some (if negative then -(n : Int) else n)

def isExponent (cs : List Char) : Bool :=
  match cs with
  | [] => true
  | e :: rest =>
    let ds := (unsigned rest).2
    (e == 'e' || e == 'E') && !ds.isEmpty && ds.all Char.isDigit

def isDecimal (cs : List Char) : Bool :=
  let whole := cs.takeWhile Char.isDigit
  match cs.dropWhile Char.isDigit with
  | '.' :: rest =>
    let fraction := rest.takeWhile Char.isDigit
    !(whole.isEmpty && fraction.isEmpty) && isExponent (rest.dropWhile Char.isDigit)
  | rest => !whole.isEmpty && isExponent rest

def isFloat (text : String) : Bool :=
  match plain? text with
  | none => false
  | some cs =>
    let body := (unsigned cs).2
    let word := String.ofList (body.map Char.toLower)
    isDecimal body || word == "inf" || word == "infinity" || word == "nan"

end QueryDraft.Numeral
