import QueryDraft.Decimal.Numeral
import QueryDraft.Http.DomainName
import QueryDraft.Text.Base64
import QueryDraft.Text.Percent
import QueryDraft.Text.Quoted

namespace QueryDraft

inductive AddressFault where
  | tooLong
  | control (c : Char) (position : Nat)
  | host (description : String) (name : String)
  | service (text : String)
  | pathOfSlashes
  | pathOfColon
  deriving DecidableEq, Repr

def AddressFault.message : AddressFault → String
  | .tooLong => "URL too long"
  | .control c position =>
    "Invalid non-printable ASCII character in URL, " ++ Text.quoted (String.ofList [c]) ++
      " at position " ++ Nat.repr position ++ "."
  | .host description name => "Invalid " ++ description ++ ": " ++ Text.quoted name
  | .service text => "Invalid port: " ++ Text.quoted text
  | .pathOfSlashes => "Relative URLs cannot have a path starting with '//'"
  | .pathOfColon => "Relative URLs cannot have a path starting with ':'"

/-- The parts of an address. Missing parts that are not optional are empty. -/
structure Address where
  scheme : List Char
  user : List Char
  host : List Char
  service : Option Int
  path : List Char
  query : Option (List Char)
  fragment : Option (List Char)
  deriving DecidableEq, Repr

namespace Address

def lower (cs : List Char) : List Char := cs.map Char.toLower

/-- Whether a source is an address and not a file. The letters of the two schemes are not the lower
case of any other character. -/
def isEndpoint (source : String) : Bool :=
  let cs := lower source.toList
  "http://".toList.isPrefixOf cs || "https://".toList.isPrefixOf cs

def isVisible (c : Char) : Bool := 0x20 ≤ c.toNat && c.toNat < 0x7f

def allBut (refused : String) (c : Char) : Bool := isVisible c && !refused.toList.contains c

def userSafe : Char → Bool := allBut " \"#<>?`\x7b\x7d/;=@[\\]^|"

def pathSafe : Char → Bool := allBut " \"#<>?`\x7b\x7d"

def querySafe : Char → Bool := allBut " \"#<>"

def fragmentSafe : Char → Bool := allBut " \"<>`"

def hostSafe : Char → Bool := allBut " #/:<>?@[]^"

def splitAt (ends : Char → Bool) (cs : List Char) : List Char × List Char :=
  (cs.takeWhile fun c => !ends c, cs.dropWhile fun c => !ends c)

def afterSign? (sign : Char) : List Char → Option (List Char)
  | c :: rest => if c = sign then some rest else none
  | [] => none

def isScheme : List Char → Bool
  | c :: rest => c.isAlpha && rest.all fun c => c.isAlphanum || c == '+' || c == '.' || c == '-'
  | [] => true

/-- The scheme before the first colon, if the text there can be one. -/
def splitScheme (cs : List Char) : List Char × List Char :=
  match splitAt (· == ':') cs with
  | (scheme, _ :: rest) => if isScheme scheme then (scheme, rest) else ([], cs)
  | (_, []) => ([], cs)

def splitAuthority (cs : List Char) : List Char × List Char :=
  match cs with
  | '/' :: '/' :: rest => splitAt (fun c => c == '/' || c == '?' || c == '#') rest
  | _ => ([], cs)

/-- The user before the last at sign. -/
def splitUser (authority : List Char) : List Char × List Char :=
  if authority.contains '@' then
    let host := (authority.reverse.takeWhile (· != '@')).reverse
    (authority.take (authority.length - host.length - 1), host)
  else ([], authority)

def splitHost (place : List Char) : List Char × List Char :=
  let (host, rest) :=
    if place.head? == some '[' && place.contains ']' then
      let rest := (place.reverse.takeWhile (· != ']')).reverse
      (place.take (place.length - rest.length), rest)
    else splitAt (· == ':') place
  (host, (afterSign? ':' rest).getD rest)

def readHost (host : List Char) : Except AddressFault (List Char) :=
  if Host.looksNumeric host then
    if Host.isFourNumbers host then .ok host else .error (.host "IPv4 address" (String.ofList host))
  else if host.head? == some '[' && host.getLast? == some ']' then
    let inner := (host.drop 1).dropLast
    if Host.isScoped inner then .ok inner else .error (.host "IPv6 address" (String.ofList host))
  else if host.all (·.toNat < 0x80) then .ok (Text.Percent.encode hostSafe (lower host))
  else
    match DomainName.encode? host with
    | some name => .ok name
    | none => .error (.host "IDNA hostname" (String.ofList host))

/-- The service that a scheme implies goes without saying, if the scheme is in lower case. -/
def standardService? (scheme : List Char) : Option Int :=
  [("ftp", 21), ("http", 80), ("https", 443), ("ws", 80), ("wss", 443)].lookup
    (String.ofList scheme)

def readService (scheme text : List Char) : Except AddressFault (Option Int) :=
  if text.isEmpty then .ok none
  else
    match Numeral.int? (String.ofList text) with
    | none => .error (.service (String.ofList text))
    | some n => .ok (if standardService? scheme = some n then none else some n)

/-- The steps of a path as it is walked, last first: a dot stays in place, two dots go back. The
step before the first slash is never left. -/
def walk : List (List Char) → List (List Char) → List (List Char)
  | done, [] => done
  | done, ['.'] :: rest => walk done rest
  | done, ['.', '.'] :: rest => walk (if done = [[]] then done else done.drop 1) rest
  | done, step :: rest => walk (step :: done) rest

def joinSteps : List (List Char) → List Char
  | [] => []
  | [step] => step
  | step :: next :: rest => step ++ '/' :: joinSteps (next :: rest)

/-- The start of a path that nothing stands before must not look like another part. -/
def checkStart : List Char → Except AddressFault Unit
  | '/' :: '/' :: _ => .error .pathOfSlashes
  | ':' :: _ => .error .pathOfColon
  | _ => .ok ()

def straighten (path : List Char) : List Char := joinSteps (walk [] (Host.pieces '/' path)).reverse

def mostCharacters : Nat := 65536

def isControl (c : Char) : Bool := c.toNat < 0x20 || c.toNat == 0x7f

def checkText (cs : List Char) : Except AddressFault Unit :=
  if mostCharacters < cs.length then .error .tooLong
  else
    match cs.dropWhile (!isControl ·) with
    | [] => .ok ()
    | c :: rest => .error (.control c (cs.length - rest.length - 1))

def ofText (text : String) : Except AddressFault Address := do
  let cs := text.toList
  checkText cs
  let (scheme, rest) := splitScheme cs
  let (authority, rest) := splitAuthority rest
  let (path, rest) := splitAt (fun c => c == '?' || c == '#') rest
  let (query, rest) := match afterSign? '?' rest with
    | some rest => (some (splitAt (· == '#') rest).1, (splitAt (· == '#') rest).2)
    | none => (none, rest)
  let (user, place) := splitUser authority
  let (host, service) := splitHost place
  let host ← readHost host
  let service ← readService scheme service
  let isAlone := scheme.isEmpty && user.isEmpty && host.isEmpty && service.isNone
  if isAlone then checkStart path
  .ok {
    scheme := lower scheme
    user := Text.Percent.encode userSafe user
    host := host
    service := service
    path := Text.Percent.encode pathSafe (if isAlone then path else straighten path)
    query := query.map (Text.Percent.encode querySafe)
    fragment := (afterSign? '#' rest).map (Text.Percent.encode fragmentSafe) }

def authority (a : Address) : List Char :=
  (if a.user.isEmpty then [] else a.user ++ ['@'])
    ++ (if a.host.contains ':' then '[' :: a.host ++ [']'] else a.host)
    ++ (match a.service with
      | none => []
      | some n => ':' :: (Int.repr n).toList)

def signed (sign : Char) : Option (List Char) → List Char
  | none => []
  | some cs => sign :: cs

def text (a : Address) : List Char :=
  (if a.scheme.isEmpty then [] else a.scheme ++ [':'])
    ++ (if a.authority.isEmpty then [] else '/' :: '/' :: a.authority)
    ++ a.path ++ signed '?' a.query ++ signed '#' a.fragment

def target (a : Address) : String :=
  if a.scheme.isEmpty || a.host.isEmpty then
    String.ofList ('/' :: a.path.dropWhile (· == '/') ++ signed '?' a.query)
  else String.ofList a.text

def credentials? (a : Address) : Option String :=
  if a.scheme.isEmpty || a.host.isEmpty then none
  else
    let (name, secret) := splitAt (· == ':') a.user
    let secret := secret.drop 1
    if name.isEmpty && secret.isEmpty then none
    else
      let pair := Text.Percent.decode name ++ ':' :: Text.Percent.decode secret
      some ("Basic " ++ String.ofList (Text.Base64.encode (pair.flatMap Text.Percent.bytes)))

end Address

end QueryDraft
