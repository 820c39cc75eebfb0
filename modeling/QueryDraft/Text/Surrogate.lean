import QueryDraft.Text.Hex

namespace QueryDraft.Text.Surrogate

def isHigh (n : Nat) : Bool := 0xd800 ≤ n && n ≤ 0xdbff

def isLow (n : Nat) : Bool := 0xdc00 ≤ n && n ≤ 0xdfff

/-- The character of a code. Half of a surrogate pair is no character, but texts from elsewhere can
have one alone; it is held as the private character whose code is 0x100000 higher. -/
def hold (n : Nat) : Char := if isHigh n || isLow n then Char.ofNat (n + 0x100000) else Char.ofNat n

def isHeld (c : Char) : Bool := 0x10d800 ≤ c.toNat && c.toNat ≤ 0x10dfff

def code (c : Char) : Nat := if isHeld c then c.toNat - 0x100000 else c.toNat

def join (high low : Nat) : Char := Char.ofNat (0x10000 + (high - 0xd800) * 0x400 + (low - 0xdc00))

def escapeChar (c : Char) : List Char := if isHeld c then '\\' :: 'u' :: hex 4 (code c) else [c]

def escape (s : String) : String := String.ofList (s.toList.flatMap escapeChar)

end QueryDraft.Text.Surrogate
