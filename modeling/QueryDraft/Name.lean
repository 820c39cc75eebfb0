import QueryDraft.Text.Quoted

namespace QueryDraft.Name

def isStart (c : Char) : Bool := c.isAlpha || c == '_'

def isPart (c : Char) : Bool := c.isAlphanum || c == '_'

inductive Fault where
  | empty
  | part (name : String)
  | start (name : String)

def Fault.message : Fault → String
  | .empty => "Expected name to be a non-empty string."
  | .part name => "Names must only contain [_a-zA-Z0-9] but " ++ Text.quoted name ++ " does not."
  | .start name => "Names must start with [_a-zA-Z] but " ++ Text.quoted name ++ " does not."

/-- The characters after the first are looked at before the first. -/
def check (name : String) : Except Fault Unit :=
  match name.toList with
  | [] => .error .empty
  | c :: rest =>
    if !rest.all isPart then .error (.part name)
    else if !isStart c then .error (.start name)
    else .ok ()

end QueryDraft.Name
