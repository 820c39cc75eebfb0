import QueryDraft.Keyed
import QueryDraft.Text.Blank
import QueryDraft.Text.Quoted

namespace QueryDraft

structure HeaderFault where
  text : String
  deriving DecidableEq, Repr

def HeaderFault.message (f : HeaderFault) : String :=
  "expected 'Name: value', got " ++ Text.quoted f.text

def header (text : String) : Except HeaderFault (String × String) :=
  let name := Text.trim (text.toList.takeWhile (· != ':'))
  match text.toList.dropWhile (· != ':') with
  | [] => .error ⟨text⟩
  | _ :: value => if name.isEmpty then .error ⟨text⟩
    else .ok (String.ofList name, String.ofList (Text.trim value))

/-- The headers of all texts, the last of a name counting. -/
def headers (texts : List String) : Except HeaderFault (Keyed String) :=
  (texts.mapM header).map Keyed.ofList

inductive Credentials where
  | none
  | bearer (token : String)
  deriving DecidableEq, Repr

namespace Credentials

def ofToken (token : Option String) : Credentials :=
  match token with
  | Option.none => .none
  | some t => if t.isEmpty then .none else .bearer t

def headers : Credentials → Keyed String
  | .none => []
  | .bearer token => [("Authorization", "Bearer " ++ token)]

end Credentials

end QueryDraft
