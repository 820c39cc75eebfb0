import QueryDraft.Http.Address
import QueryDraft.Http.Header
import QueryDraft.Http.Query
import QueryDraft.Http.Status
import QueryDraft.Json.Reader
import QueryDraft.Schema.Envelope
import QueryDraft.Text.Encoding

namespace QueryDraft

structure Endpoint where
  address : String
  credentials : Credentials
  headers : Keyed String
  deriving DecidableEq, Repr

structure Request where
  address : String
  headers : Keyed String
  query : String
  deriving DecidableEq, Repr

/-- What comes of a request: an answer with a body of bytes, no answer because of the network, or
none because of something else that has a name. -/
inductive Reply where
  | answer (status : Int) (body : List Nat)
  | failure (text : String)
  | breakdown (name text : String)
  deriving DecidableEq, Repr

inductive BodyFault where
  | encoding (fault : Text.DecodeFault)
  | json (fault : Json.Fault) (text : List Char)

def BodyFault.message : BodyFault → String
  | .encoding fault => fault.message
  | .json fault text => fault.message text

inductive FetchError where
  | headerNotAscii
  | address (fault : AddressFault)
  | status (code : Int)
  | network (text : String)
  | breakdown (name text : String)
  | body (fault : BodyFault)
  | nested (cause : Json.Cause)
  | load (cause : LoadError)

def FetchError.message : FetchError → String
  | .headerNotAscii => "A header is not ASCII text"
  | .address fault => fault.message
  | .status code => "Failed to fetch schema: " ++ Int.repr code ++ " " ++ Status.phrase code
  | .network text => "Failed to fetch schema: " ++ text
  | .breakdown _ text => text
  | .body fault => "Endpoint did not return JSON: " ++ fault.message
  | .nested cause => cause.message
  | .load cause => cause.message

/-- A body that is nested too deeply may be JSON all the same. -/
def FetchError.ofBody (fault : BodyFault) : FetchError :=
  match fault with
  | .json f _ => if f.cause.limit? = some .nesting then .nested f.cause else .body fault
  | .encoding _ => .body fault

/-- The value takes the place of the first one of a class, and of the others too. It comes last if
there is none. -/
def replaceFirst {α : Type} (isOld : α → Bool) (new : α) (xs : List α) : List α :=
  match xs.dropWhile (!isOld ·) with
  | [] => xs ++ [new]
  | _ :: rest => xs.takeWhile (!isOld ·) ++ new :: rest.filter (!isOld ·)

namespace Endpoint

/-- The kind of the body, then the credentials, then the extra headers. A header replaces an earlier
one of the same spelling. -/
def requestHeaders (e : Endpoint) : Keyed String :=
  Keyed.update (Keyed.update [("Content-Type", "application/json")] e.credentials.headers) e.headers

/-- Headers are sent as ASCII text, and no connection is opened for others. -/
def canConnect (e : Endpoint) : Bool :=
  e.requestHeaders.all fun h => h.1.toList.all (·.toNat < 0x80) && h.2.toList.all (·.toNat < 0x80)

def authorization : String := "Authorization"

def isAuthorization (h : String × String) : Bool :=
  Address.lower h.1.toList == Address.lower authorization.toList

/-- What is sent to a place of an address. A user named there takes the place of other
credentials. -/
def requestTo (e : Endpoint) (a : Address) : Request :=
  let headers := match a.credentials? with
    | none => e.requestHeaders
    | some text => replaceFirst isAuthorization (authorization, text) e.requestHeaders
  ⟨a.target, headers, Introspection.query⟩

def request (e : Endpoint) : Except AddressFault Request :=
  (Address.ofText e.address).map e.requestTo

end Endpoint

def decodeBody (body : List Nat) : Except BodyFault Json :=
  match Text.detect body with
  | .error fault => .error (.encoding fault)
  | .ok text =>
    match Json.readValue text with
    | .error fault => .error (.json fault text)
    | .ok v => .ok v

def Reply.json : Reply → Except FetchError Json
  | .failure text => .error (.network text)
  | .breakdown name text => .error (.breakdown name text)
  | .answer status body =>
    if Status.isSuccess status then (decodeBody body).mapError .ofBody else .error (.status status)

def Reply.schema (r : Reply) : Except FetchError Schema :=
  match r.json with
  | .error e => .error e
  | .ok v => (Schema.ofPayload v).mapError .load

inductive Event where
  | opened
  | posted (request : Request)
  | closed
  deriving DecidableEq, Repr

/-- Whether a connection is open, and what has happened, last first. A connection is kept whatever
the endpoint answers. -/
structure Session where
  isOpen : Bool
  history : List Event
  deriving DecidableEq, Repr

namespace Session

def start : Session := ⟨false, []⟩

def connect (s : Session) : Session := if s.isOpen then s else ⟨true, .opened :: s.history⟩

def post (s : Session) (r : Request) : Session :=
  { s.connect with history := .posted r :: s.connect.history }

def close (s : Session) : Session := if s.isOpen then ⟨false, .closed :: s.history⟩ else s

def requests (s : Session) : List Request :=
  s.history.reverse.filterMap fun
    | .posted r => some r
    | _ => none

end Session

inductive Action where
  | fetchIntrospection
  | fetchSchema
  | close
  deriving DecidableEq, Repr

inductive Outcome where
  | body (v : Json)
  | schema (s : Schema)
  | closed
  | failed (cause : FetchError)

def Outcome.ofBody : Except FetchError Json → Outcome
  | .ok v => .body v
  | .error e => .failed e

def Outcome.ofSchema : Except FetchError Schema → Outcome
  | .ok s => .schema s
  | .error e => .failed e

def Reply.next : List Reply → Reply × List Reply
  | [] => (.failure "", [])
  | r :: rest => (r, rest)

namespace Session

def exchange (e : Endpoint) (replies : List Reply) (s : Session) :
    Except FetchError Reply × Session × List Reply :=
  if e.canConnect then
    match e.request with
    | .error fault => (.error (.address fault), s.connect, replies)
    | .ok r =>
      let (reply, left) := Reply.next replies
      (.ok reply, s.post r, left)
  else (.error .headerNotAscii, s, replies)

/-- One action with the replies to come: its outcome, the session after it and the replies left. -/
def step (e : Endpoint) (action : Action) (replies : List Reply) (s : Session) :
    Outcome × Session × List Reply :=
  match action with
  | .close => (.closed, s.close, replies)
  | .fetchIntrospection =>
    let (reply, after) := s.exchange e replies
    (.ofBody (reply.bind Reply.json), after)
  | .fetchSchema =>
    let (reply, after) := s.exchange e replies
    (.ofSchema (reply.bind Reply.schema), after)

def run (e : Endpoint) : List Action → List Reply → Session → List (Outcome × Session)
  | [], _, _ => []
  | action :: rest, replies, s =>
    let (outcome, after, left) := step e action replies s
    (outcome, after) :: run e rest left after

def after (e : Endpoint) (actions : List Action) (replies : List Reply) (s : Session) : Session :=
  (((run e actions replies s).getLast?).map (·.2)).getD s

end Session

def Endpoint.fetchSchema (e : Endpoint) (replies : List Reply) :
    Except FetchError Schema × Session :=
  let (reply, after, _) := Session.start.exchange e replies
  (reply.bind Reply.schema, after.close)

end QueryDraft
