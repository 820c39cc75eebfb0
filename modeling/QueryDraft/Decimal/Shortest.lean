namespace QueryDraft.Decimal

/-- A positive number `mantissa * 2 ^ scale` and the numbers that round to it: those between the
midpoints to its two neighbours. The neighbour below is half as far away when `narrow` holds. -/
structure Binary where
  mantissa : Nat
  scale : Int
  narrow : Bool

structure Grid where
  digits : Nat
  exponent : Int

/-- Everything is counted in quarters of the distance to the next number. -/
def Binary.quarters (b : Binary) : Nat := 4 * b.mantissa

def Binary.low (b : Binary) : Nat := b.quarters - if b.narrow then 1 else 2

def Binary.high (b : Binary) : Nat := b.quarters + 2

/-- Factors that bring `x` quarters and `d` units of `10 ^ p` to one scale: `x * fst`
and `d * snd`. -/
def Binary.scales (b : Binary) (p : Int) : Nat × Nat :=
  (Nat.pow 2 (b.scale - 2).toNat * Nat.pow 10 (-p).toNat,
    Nat.pow 10 p.toNat * Nat.pow 2 (2 - b.scale).toNat)

/-- Whether `d * 10 ^ p` rounds to `b`; the midpoints do when the mantissa is even. -/
def Binary.owns (b : Binary) (p : Int) (d : Nat) : Bool :=
  let (quarter, unit) := b.scales p
  if b.mantissa % 2 == 0 then b.low * quarter ≤ d * unit && d * unit ≤ b.high * quarter
  else b.low * quarter < d * unit && d * unit < b.high * quarter

/-- The multiple of `10 ^ p` that rounds to `b`, the nearer one if two do, an even one if both
are as near. -/
def Binary.onGrid? (b : Binary) (p : Int) : Option Nat :=
  let (quarter, unit) := b.scales p
  let value := b.quarters * quarter
  let below := value / unit
  match b.owns p below, b.owns p (below + 1) with
  | true, true =>
    let rest := value % unit
    if 2 * rest < unit || (2 * rest == unit && below % 2 == 0) then some below else some (below + 1)
  | true, false => some below
  | false, true => some (below + 1)
  | false, false => none

/-- The first hit on the grids from `10 ^ p` down; the finest grid tried is `10 ^ (p - n)`. -/
def Binary.search (b : Binary) : Nat → Int → Grid
  | 0, p => ⟨(b.onGrid? p).getD 0, p⟩
  | n + 1, p =>
    match b.onGrid? p with
    | some d => ⟨d, p⟩
    | none => b.search n (p - 1)

def Binary.shortest (b : Binary) : Grid := b.search 640 310

/-- Positional from `0.0001` to below `10 ^ 16`, otherwise with an exponent of at least
two digits. -/
def Grid.text (g : Grid) : String :=
  let ds := (Nat.repr g.digits).toList
  let point := ds.length + g.exponent
  if -4 < point && point ≤ 16 then
    if point ≤ 0 then String.ofList ('0' :: '.' :: List.replicate (-point).toNat '0' ++ ds)
    else if ds.length ≤ point then
      String.ofList (ds ++ List.replicate g.exponent.toNat '0' ++ ['.', '0'])
    else String.ofList (ds.take point.toNat ++ '.' :: ds.drop point.toNat)
  else
    let e := point - 1
    let tail := if ds.length ≤ 1 then [] else '.' :: ds.drop 1
    let size := (Nat.repr e.natAbs).toList
    let padded := if size.length < 2 then '0' :: size else size
    String.ofList (ds.take 1 ++ tail ++ 'e' :: (if e < 0 then '-' else '+') :: padded)

def Binary.ofFloat (x : Float) : Binary :=
  let bits := x.toBits.toNat
  let fraction := bits % Nat.pow 2 52
  let exponent := bits / Nat.pow 2 52 % Nat.pow 2 11
  if exponent == 0 then ⟨fraction, -1074, false⟩
  else ⟨Nat.pow 2 52 + fraction, Int.ofNat exponent - 1075, fraction == 0 && exponent != 1⟩

def text (nan infinity : String) (x : Float) : String :=
  if x.isNaN then nan
  else
    let sign := if x.toBits.toNat / Nat.pow 2 63 == 1 then "-" else ""
    if x.isInf then sign ++ infinity
    else if x == 0.0 then sign ++ "0.0"
    else sign ++ (Binary.ofFloat x).shortest.text

end QueryDraft.Decimal
