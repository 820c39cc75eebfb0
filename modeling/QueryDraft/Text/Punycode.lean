namespace QueryDraft.Text.Punycode

def digit (n : Nat) : Char := if n < 26 then Char.ofNat (97 + n) else Char.ofNat (22 + n)

def threshold (bias place : Nat) : Nat :=
  if place ≤ bias then 1 else if bias + 26 ≤ place then 26 else place - bias

/-- The digits of a number, the least first; places go up by 36. -/
def digitsFrom (bias : Nat) : (fuel place n : Nat) → List Char
  | 0, _, _ => []
  | fuel + 1, place, n =>
    let t := threshold bias place
    if n < t then [digit n]
    else digit (t + (n - t) % (36 - t)) :: digitsFrom bias fuel (place + 36) ((n - t) / (36 - t))

def digits (bias n : Nat) : List Char := digitsFrom bias (n + 1) 36 n

def settle : (fuel delta place : Nat) → Nat
  | 0, delta, place => place + 36 * delta / (delta + 38)
  | fuel + 1, delta, place =>
    if 455 < delta then settle fuel (delta / 35) (place + 36) else place + 36 * delta / (delta + 38)

/-- The bias after a number, `count` being the characters that are there with it. -/
def adapt (delta count : Nat) (isFirst : Bool) : Nat :=
  let delta := if isFirst then delta / 700 else delta / 2
  settle delta (delta + delta / count) 0

/-- What is written, how far the next character is, the bias and how many characters are there. -/
structure State where
  written : List Char
  delta : Nat
  bias : Nat
  count : Nat

def visit (basic m : Nat) (s : State) (n : Nat) : State :=
  if n < m then { s with delta := s.delta + 1 }
  else if n = m then
    ⟨s.written ++ digits s.bias s.delta, 0, adapt s.delta (s.count + 1) (s.count == basic),
      s.count + 1⟩
  else s

/-- The characters of some codes in turn, those below `low` being written. -/
def write (codes : List Nat) (basic : Nat) : (low : Nat) → List Nat → State → State
  | _, [], s => s
  | low, m :: rest, s =>
    let s := codes.foldl (visit basic m) { s with delta := s.delta + (m - low) * (s.count + 1) }
    write codes basic (m + 1) rest { s with delta := s.delta + 1 }

/-- The ASCII characters come first; for each other one, in the order of their codes, a number
follows that tells how far it is from the one before. -/
def encode (cs : List Char) : List Char :=
  let codes := cs.map Char.toNat
  let basic := cs.filter (·.toNat < 0x80)
  let others := ((codes.filter (0x80 ≤ ·)).mergeSort (· ≤ ·)).eraseDups
  let written := (write codes basic.length 0x80 others ⟨[], 0, 72, basic.length⟩).written
  basic ++ (if basic.isEmpty then [] else ['-']) ++ written

end QueryDraft.Text.Punycode
