import QueryDraft.Text.Hex

namespace QueryDraft.Host

/-- Whether digits stand at both ends and all the way but for `gaps` single characters, digits
around each. -/
def hasRuns : (gaps : Nat) → (afterDigit : Bool) → List Char → Bool
  | 0, afterDigit, [] => afterDigit
  | _ + 1, _, [] => false
  | 0, _, c :: rest => c.isDigit && hasRuns 0 true rest
  | gaps + 1, afterDigit, c :: rest =>
    (c.isDigit && hasRuns (gaps + 1) true rest) || (afterDigit && hasRuns gaps false rest)

def looksNumeric (cs : List Char) : Bool := hasRuns 3 false cs

def pieces (separator : Char) : List Char → List (List Char)
  | [] => [[]]
  | c :: rest =>
    if c = separator then [] :: pieces separator rest
    else
      match pieces separator rest with
      | [] => [[c]]
      | p :: ps => (c :: p) :: ps

def isOctet (cs : List Char) : Bool :=
  cs.all Char.isDigit &&
    match cs with
    | [_] => true
    | [a, _] => a != '0'
    | ['1', _, _] => true
    | ['2', b, c] => b < '5' || (b == '5' && c ≤ '5')
    | _ => false

def isFourNumbers (cs : List Char) : Bool :=
  let ps := pieces '.' cs
  ps.length == 4 && ps.all isOctet

def isGroup (cs : List Char) : Bool :=
  !cs.isEmpty && cs.length ≤ 4 && cs.all fun c => (Text.hexDigit? c).isSome

/-- The groups, where four numbers at the end stand for two groups. -/
def groups? (cs : List Char) : Option (List (List Char)) :=
  let ps := pieces ':' cs
  let last := ps.getLast?.getD []
  if ps.length < 3 then none
  else if !last.contains '.' then some ps
  else if isFourNumbers last then some (ps.dropLast ++ [['0'], ['0']])
  else none

/-- Groups before or after a gap; the empty one at the far end belongs to a gap at that end. -/
def isSide (ps : List (List Char)) : Bool := ps = [[]] || ps.all isGroup

def isEightNumbers (cs : List Char) : Bool :=
  match groups? cs with
  | none => false
  | some ps =>
    let inner := (ps.drop 1).dropLast
    match inner.count [] with
    | 0 => ps.length == 8 && ps.all isGroup
    | 1 =>
      let before := ps.take ((inner.takeWhile (!·.isEmpty)).length + 1)
      let after := ps.drop (before.length + 1)
      isSide before && isSide after && (before.filter (!·.isEmpty)).length +
        (after.filter (!·.isEmpty)).length ≤ 7
    | _ => false

def isScoped (cs : List Char) : Bool :=
  match cs.dropWhile (· != '%') with
  | [] => isEightNumbers cs
  | _ :: zone => !zone.isEmpty && !zone.contains '%' && isEightNumbers (cs.takeWhile (· != '%'))

end QueryDraft.Host
