import QueryDraft.Text.Hex
import QueryDraft.Text.Surrogate

namespace QueryDraft.Text

structure DecodeFault where
  encoding : String
  byte : Nat
  first : Nat
  last : Nat
  reason : String

def DecodeFault.message (f : DecodeFault) : String :=
  let place :=
    if f.first = f.last then
      "byte 0x" ++ String.ofList (hex 2 f.byte) ++ " in position " ++ Nat.repr f.first
    else "bytes in position " ++ Nat.repr f.first ++ "-" ++ Nat.repr f.last
  "'" ++ f.encoding ++ "' codec can't decode " ++ place ++ ": " ++ f.reason

def isTail (b : Nat) : Bool := 0x80 ≤ b && b ≤ 0xbf

/-- How many bytes follow a first byte, the range of the next one, and the bits that the
first one gives. -/
structure Lead where
  more : Nat
  low : Nat
  high : Nat
  bits : Nat

def lead? (b : Nat) : Option Lead :=
  if b < 0x80 then some ⟨0, 0x80, 0xbf, b⟩
  else if b < 0xc2 then none
  else if b < 0xe0 then some ⟨1, 0x80, 0xbf, b - 0xc0⟩
  else if b == 0xe0 then some ⟨2, 0xa0, 0xbf, 0⟩
  else if b == 0xed then some ⟨2, 0x80, 0x9f, b - 0xe0⟩
  else if b < 0xf0 then some ⟨2, 0x80, 0xbf, b - 0xe0⟩
  else if b == 0xf0 then some ⟨3, 0x90, 0xbf, 0⟩
  else if b < 0xf4 then some ⟨3, 0x80, 0xbf, b - 0xf0⟩
  else if b == 0xf4 then some ⟨3, 0x80, 0x8f, 4⟩
  else none

/-- The bytes after a first one: the value and the bytes left, or how many fit and why
no more do. -/
def following (low high : Nat) (value seen : Nat) :
    Nat → List Nat → Except (Nat × String) (Nat × List Nat)
  | 0, bs => .ok (value, bs)
  | _ + 1, [] => .error (seen, "unexpected end of data")
  | more + 1, b :: rest =>
    if low ≤ b && b ≤ high then following 0x80 0xbf (value * 64 + (b - 0x80)) (seen + 1) more rest
    else .error (seen, "invalid continuation byte")

def surrogate? : List Nat → Option (Nat × List Nat)
  | 0xed :: b :: c :: rest =>
    if 0xa0 ≤ b && b ≤ 0xbf && isTail c then some (0xd000 + (b - 0x80) * 64 + (c - 0x80), rest)
    else none
  | _ => none

/-- UTF-8 from the byte at `position` on; `acc` is the text before it, last character first. A
surrogate is a fault unless `lenient` holds. -/
def utf8From (lenient : Bool) (position : Nat) (acc : List Char) :
    Nat → List Nat → Except DecodeFault (List Char)
  | 0, _ => .ok acc.reverse
  | _ + 1, [] => .ok acc.reverse
  | fuel + 1, b :: rest =>
    match lenient, surrogate? (b :: rest) with
    | true, some (n, left) => utf8From lenient (position + 3) (Surrogate.hold n :: acc) fuel left
    | _, _ =>
      match lead? b with
      | none => .error ⟨"utf-8", b, position, position, "invalid start byte"⟩
      | some l =>
        match following l.low l.high l.bits 0 l.more rest with
        | .error (seen, reason) => .error ⟨"utf-8", b, position, position + seen, reason⟩
        | .ok (n, left) => utf8From lenient (position + 1 + l.more) (Char.ofNat n :: acc) fuel left

def utf8 (lenient : Bool) (bs : List Nat) : Except DecodeFault (List Char) :=
  utf8From lenient 0 [] (bs.length + 1) bs

def replacedFrom (acc : List Char) : Nat → List Nat → List Char
  | 0, _ => acc.reverse
  | _ + 1, [] => acc.reverse
  | fuel + 1, b :: rest =>
    match lead? b with
    | none => replacedFrom ('\ufffd' :: acc) fuel rest
    | some l =>
      match following l.low l.high l.bits 0 l.more rest with
      | .error (seen, _) => replacedFrom ('\ufffd' :: acc) fuel (rest.drop seen)
      | .ok (n, left) => replacedFrom (Char.ofNat n :: acc) fuel left

/-- UTF-8 with a sign for the faulty bytes, one for all that fit together. -/
def utf8Replaced (bs : List Nat) : List Char := replacedFrom [] (bs.length + 1) bs

def pairUnits (bigEndian : Bool) : List Nat → List Nat
  | a :: b :: rest => (if bigEndian then a * 256 + b else b * 256 + a) :: pairUnits bigEndian rest
  | _ => []

def unitsText : List Nat → List Char
  | a :: b :: rest =>
    if Surrogate.isHigh a && Surrogate.isLow b then Surrogate.join a b :: unitsText rest
    else Surrogate.hold a :: unitsText (b :: rest)
  | [a] => [Surrogate.hold a]
  | [] => []

def utf16 (bigEndian : Bool) (position : Nat) (bs : List Nat) : Except DecodeFault (List Char) :=
  if bs.length % 2 == 1 then
    let last := position + bs.length - 1
    .error ⟨if bigEndian then "utf-16-be" else "utf-16-le", bs.getLast?.getD 0, last, last,
      "truncated data"⟩
  else .ok (unitsText (pairUnits bigEndian bs))

def utf32From (bigEndian : Bool) (acc : List Char) (position : Nat) :
    List Nat → Except DecodeFault (List Char)
  | a :: b :: c :: d :: rest =>
    let n :=
      if bigEndian then ((a * 256 + b) * 256 + c) * 256 + d else ((d * 256 + c) * 256 + b) * 256 + a
    if n < 0x110000 then
      utf32From bigEndian (Surrogate.hold n :: acc) (position + 4) rest
    else
      .error ⟨if bigEndian then "utf-32-be" else "utf-32-le", a, position, position + 3,
        "code point not in range(0x110000)"⟩
  | [] => .ok acc.reverse
  | b :: bs =>
    .error ⟨if bigEndian then "utf-32-be" else "utf-32-le", b, position, position + bs.length,
      "truncated data"⟩

def utf32 (bigEndian : Bool) (position : Nat) (bs : List Nat) : Except DecodeFault (List Char) :=
  utf32From bigEndian [] position bs

/-- The text of bytes whose encoding shows in a byte order mark or in the zeros of the first
characters, which are ASCII. A mark is no part of the text, but those of UTF-16 and UTF-32 count
in positions. -/
def detect (bs : List Nat) : Except DecodeFault (List Char) :=
  match bs with
  | 0x00 :: 0x00 :: 0xfe :: 0xff :: rest => utf32 true 4 rest
  | 0xff :: 0xfe :: 0x00 :: 0x00 :: rest => utf32 false 4 rest
  | 0xfe :: 0xff :: rest => utf16 true 2 rest
  | 0xff :: 0xfe :: rest => utf16 false 2 rest
  | 0xef :: 0xbb :: 0xbf :: rest => utf8 true rest
  | 0 :: 0 :: _ :: _ :: _ => utf32 true 0 bs
  | 0 :: _ :: _ :: _ :: _ => utf16 true 0 bs
  | _ :: 0 :: 0 :: 0 :: _ => utf32 false 0 bs
  | _ :: 0 :: _ :: _ :: _ => utf16 false 0 bs
  | [0, _] => utf16 true 0 bs
  | [_, 0] => utf16 false 0 bs
  | _ => utf8 true bs

end QueryDraft.Text
