import QueryDraft.Json.Reader
import QueryDraft.Schema.Envelope
import QueryDraft.Text.Encoding

namespace QueryDraft

inductive Entry where
  | file (bytes : List Nat)
  | directory
  deriving DecidableEq, Repr

inductive FileError where
  | missing
  | directory
  | notText
  | notJson (name : String) (fault : Json.Fault) (text : List Char)
  | limit (limit : Json.Limit) (cause : Json.Cause)
  | load (cause : LoadError)

def FileError.message : FileError → String
  | .missing => "No such file or directory"
  | .directory => "Is a directory"
  | .notText => "The file is not UTF-8 text"
  | .notJson name fault text => name ++ " is not valid JSON: " ++ fault.message text
  | .limit _ cause => cause.message
  | .load cause => cause.message

def unifyLineBreaks : List Char → List Char → List Char
  | acc, [] => acc.reverse
  | acc, '\r' :: '\n' :: rest => unifyLineBreaks ('\n' :: acc) rest
  | acc, '\r' :: rest => unifyLineBreaks ('\n' :: acc) rest
  | acc, c :: rest => unifyLineBreaks (c :: acc) rest

def readFile (name : String) (bytes : List Nat) : Except FileError Json :=
  match Text.utf8 false bytes with
  | .error _ => .error .notText
  | .ok text =>
    let text := unifyLineBreaks [] text
    match Json.read text with
    | .error fault =>
      match fault.cause.limit? with
      | some limit => .error (.limit limit fault.cause)
      | none => .error (.notJson name fault text)
    | .ok v => .ok v

def Schema.ofFile (name : String) (entry : Option Entry) : Except FileError Schema :=
  match entry with
  | none => .error .missing
  | some .directory => .error .directory
  | some (.file bytes) =>
    match readFile name bytes with
    | .error e => .error e
    | .ok v => (Schema.ofPayload v).mapError .load

end QueryDraft
