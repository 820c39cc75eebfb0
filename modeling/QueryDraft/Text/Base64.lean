namespace QueryDraft.Text.Base64

def alphabet : List Char :=
  "ABCDEFGHIJKLMNOPQRSTUVWXYZabcdefghijklmnopqrstuvwxyz0123456789+/".toList

def digit (n : Nat) : Char := alphabet[n % 64]?.getD '='

def encode : List Nat → List Char
  | [] => []
  | [a] => [digit (a / 4), digit (a * 16), '=', '=']
  | [a, b] => [digit (a / 4), digit (a * 16 + b / 16), digit (b * 4), '=']
  | a :: b :: c :: rest =>
    digit (a / 4) :: digit (a * 16 + b / 16) :: digit (b * 4 + c / 64) :: digit c :: encode rest

end QueryDraft.Text.Base64
