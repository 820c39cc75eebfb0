import QueryDraft.Text.Encoding

namespace QueryDraft.Text.Percent

def bytes (c : Char) : List Nat := (String.utf8EncodeChar c).map UInt8.toNat

def escape (c : Char) : List Char := (bytes c).flatMap fun b => '%' :: (hex 2 b).map Char.toUpper

def encodeChar (safe : Char → Bool) (c : Char) : List Char := if safe c then [c] else escape c

def isEscape (a b : Char) : Bool := (hexDigit? a).isSome && (hexDigit? b).isSome

/-- Escapes that are there are kept. -/
def encode (safe : Char → Bool) : List Char → List Char
  | [] => []
  | '%' :: a :: b :: rest =>
    if isEscape a b then '%' :: a :: b :: encode safe rest
    else encodeChar safe '%' ++ encode safe (a :: b :: rest)
  | c :: rest => encodeChar safe c ++ encode safe rest

def decodeBytes : List Char → List Nat
  | [] => []
  | '%' :: a :: b :: rest =>
    match hexDigit? a, hexDigit? b with
    | some m, some n => (m * 16 + n) :: decodeBytes rest
    | _, _ => bytes '%' ++ decodeBytes (a :: b :: rest)
  | c :: rest => bytes c ++ decodeBytes rest

def decode (cs : List Char) : List Char := utf8Replaced (decodeBytes cs)

end QueryDraft.Text.Percent
