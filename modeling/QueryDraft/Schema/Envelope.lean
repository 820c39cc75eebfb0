import QueryDraft.Schema.Introspection

namespace QueryDraft

open Json (Members)

structure Envelope where
  data : Option Members
  errors : Option (List Members)

inductive Problem where
  | notObject
  | data
  | errors
  | error (index : Nat)
  deriving DecidableEq, Repr

inductive LoadError where
  | invalid (problems : List Problem)
  | reported (errors : List Members) (messages : List String)
  | messageNotText (index : Nat) (found : Json)
  | noDescription
  | noMembers (found : Json)
  | build (fault : Introspection.Fault)

namespace Envelope

def objects : List Json → List Members
  | [] => []
  | .obj ms :: rest => ms :: objects rest
  | _ :: rest => objects rest

def notObjects (i : Nat) : List Json → List Nat
  | [] => []
  | .obj _ :: rest => notObjects (i + 1) rest
  | _ :: rest => i :: notObjects (i + 1) rest

def dataProblems : Json → List Problem
  | .null | .obj _ => []
  | _ => [.data]

def errorsProblems : Json → List Problem
  | .null => []
  | .arr vs => (notObjects 0 vs).map .error
  | _ => [.errors]

def dataOf : Json → Option Members
  | .obj ms => some ms
  | _ => none

def errorsOf : Json → Option (List Members)
  | .arr vs => some (objects vs)
  | _ => none

/-- A bare answer is the data itself, whatever stands beside its description. -/
def ofPayload (payload : Json) : Except LoadError Envelope :=
  match payload with
  | .obj ms =>
    if (ms.lookup "__schema").isSome then .ok ⟨some ms, none⟩
    else
      let data := Json.member ms "data"
      let errors := Json.member ms "errors"
      match dataProblems data ++ errorsProblems errors with
      | [] => .ok ⟨dataOf data, errorsOf errors⟩
      | problems => .error (.invalid problems)
  | _ => .error (.invalid [.notObject])

def message (e : Members) : Json :=
  match e.lookup "message" with
  | some v => v
  | none => .str (Json.obj e).display

/-- The messages from position `i` on, if all are texts. -/
def messages (i : Nat) : List Members → Except LoadError (List String)
  | [] => .ok []
  | e :: rest =>
    match message e with
    | .str s => (messages (i + 1) rest).map (s :: ·)
    | v => .error (.messageNotText i v)

end Envelope

namespace LoadError

def summary (messages : List String) : String :=
  "Schema introspection errors: " ++ "; ".intercalate messages

def message : LoadError → String
  | .invalid _ => "Invalid introspection payload"
  | .reported _ messages => summary messages
  | .messageNotText i found =>
    "sequence item " ++ Nat.repr i ++ ": expected str instance, " ++ found.kindWord ++ " found"
  | .noDescription => "Introspection payload has no __schema data"
  | .noMembers found => (Introspection.Fault.noMembers found).message
  | .build fault => "Could not build schema: " ++ fault.message

end LoadError

namespace Schema

/-- A value that is no object where a root or a directive needs one is told apart from
other faults. -/
def ofData (data : Members) : Except LoadError Schema :=
  if (data.lookup "__schema").isSome then
    match Introspection.schema data with
    | .ok s => .ok s
    | .error (.noMembers found) => .error (.noMembers found)
    | .error fault => .error (.build fault)
  else .error .noDescription

def ofEnvelope (e : Envelope) : Except LoadError Schema :=
  match e.errors.getD [] with
  | [] => ofData (e.data.getD [])
  | errors => do
    let messages ← Envelope.messages 0 errors
    .error (.reported errors messages)

def ofPayload (payload : Json) : Except LoadError Schema := do
  ofEnvelope (← Envelope.ofPayload payload)

end Schema

end QueryDraft
