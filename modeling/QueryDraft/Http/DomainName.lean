import QueryDraft.Http.Host
import QueryDraft.Text.Lowercase
import QueryDraft.Text.NameLetter
import QueryDraft.Text.Punycode

namespace QueryDraft.DomainName

def isDot (c : Char) : Bool := c == '.' || c == '\u3002' || c == '\uff0e' || c == '\uff61'

def labels (cs : List Char) : List (List Char) :=
  Host.pieces '.' (cs.map fun c => if isDot c then '.' else c)

/-- Hyphens stand neither at the ends of a label nor at its third and fourth place. -/
def hasGoodHyphens (cs : List Char) : Bool :=
  cs.head? != some '-' && cs.getLast? != some '-' && (cs.drop 2).take 2 != ['-', '-']

def isLabel (cs : List Char) : Bool := !cs.isEmpty && cs.all Text.isNameLetter && hasGoodHyphens cs

def mark : List Char := "xn--".toList

def label? (cs : List Char) : Option (List Char) :=
  let isAscii := cs.all (·.toNat < 0x80)
  let written := if isAscii then cs else mark ++ Text.Punycode.encode cs
  let isMarked := isAscii && mark.isPrefixOf cs
  if (isMarked || isLabel cs) && written.length ≤ 63 then some written else none

def join : List (List Char) → List Char
  | [] => []
  | [l] => l
  | l :: next :: rest => l ++ '.' :: join (next :: rest)

/-- The ASCII form of a name, if it has one. The last label may be empty. -/
def encode? (name : List Char) : Option (List Char) := do
  let ls := labels (name.flatMap Text.lowercase)
  let isClosed := ls.getLast? = some []
  let written ← (if isClosed then ls.dropLast else ls).mapM label?
  let whole := join written ++ if isClosed then ['.'] else []
  if written.isEmpty || (if isClosed then 254 else 253) < whole.length then none else some whole

end QueryDraft.DomainName
