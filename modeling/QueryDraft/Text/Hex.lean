namespace QueryDraft.Text

def hexDigit (n : Nat) : Char := if n < 10 then Char.ofNat (48 + n) else Char.ofNat (87 + n)

/-- The last `width` digits of a number, before `acc`. -/
def hexOnto (acc : List Char) : Nat → Nat → List Char
  | 0, _ => acc
  | width + 1, n => hexOnto (hexDigit (n % 16) :: acc) width (n / 16)

def hex (width n : Nat) : List Char := hexOnto [] width n

def hexDigit? (c : Char) : Option Nat :=
  if c.isDigit then some (c.toNat - '0'.toNat)
  else if 'a' ≤ c && c ≤ 'f' then some (c.toNat - 'a'.toNat + 10)
  else if 'A' ≤ c && c ≤ 'F' then some (c.toNat - 'A'.toNat + 10)
  else none

def hexValue? (cs : List Char) : Option Nat :=
  cs.foldl (fun acc c => do some ((← acc) * 16 + (← hexDigit? c))) (some 0)

end QueryDraft.Text
