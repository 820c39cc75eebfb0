import QueryDraft.Command.Workspace
import QueryDraft.Decimal.Numeral
import QueryDraft.Http.Address
import QueryDraft.Http.Header
import QueryDraft.Text.Likeness

namespace QueryDraft.Command

inductive Switch where
  | depth
  | token
  | header
  | timeout
  | skipDeprecated
  | noFormat
  | verbose
  | version
  | help
  deriving DecidableEq, Repr

namespace Switch

def takesValue : Switch → Bool
  | .depth | .token | .header | .timeout => true
  | _ => false

def long : List (String × Switch) := [
  ("--depth", .depth), ("--token", .token), ("--header", .header), ("--timeout", .timeout),
  ("--skip-deprecated", .skipDeprecated), ("--no-format", .noFormat), ("--verbose", .verbose),
  ("--version", .version), ("--help", .help)]

def short : List (Char × Switch) := [('d', .depth), ('H', .header), ('v', .verbose)]

end Switch

inductive UsageError where
  | noSuchOption (name : String) (alike : List String)
  | missingValue (name : String)
  | noValueTaken (name : String)
  | missingSource
  | extraArguments (texts : List String)
  | notInteger (text : String)
  | negative (n : Int)
  | notFloat (text : String)
  | header (fault : HeaderFault)
  | outputDirectory (text : String)
  | notPath
  | noSource (text : String)
  deriving DecidableEq, Repr

namespace UsageError

def suggestion : List String → String
  | [] => ""
  | [name] => " Did you mean " ++ Text.quoted name ++ "?"
  | names => " (Did you mean one of: " ++ ", ".intercalate (names.map Text.quoted) ++ "?)"

def message : UsageError → String
  | .noSuchOption name alike => "No such option " ++ Text.quoted name ++ "." ++ suggestion alike
  | .missingValue name => "Option " ++ Text.quoted name ++ " requires an argument."
  | .noValueTaken name => "Option " ++ Text.quoted name ++ " does not take a value."
  | .missingSource => "Missing argument 'SOURCE'."
  | .extraArguments texts =>
    "Got unexpected extra argument" ++ (if texts.length = 1 then " (" else "s (") ++
      " ".intercalate texts ++ ")"
  | .notInteger text =>
    "Invalid value for '--depth' / '-d': " ++ Text.quoted text ++ " is not a valid integer range."
  | .negative n =>
    "Invalid value for '--depth' / '-d': " ++ Int.repr n ++ " is not in the range x>=0."
  | .notFloat text =>
    "Invalid value for '--timeout': " ++ Text.quoted text ++ " is not a valid float."
  | .header fault => "Invalid value for '--header' / '-H': " ++ fault.message
  | .notPath => "embedded null byte"
  | .outputDirectory text =>
    "Invalid value for '[OUTPUT]': File " ++ Text.quoted text ++ " is a directory."
  | .noSource text =>
    "Invalid value for SOURCE: " ++ Text.quoted text ++
      " is neither an http(s) URL nor an existing file"

def showsUsage : UsageError → Bool
  | .missingValue _ | .noValueTaken _ => false
  | _ => true

end UsageError

abbrev Checked (α : Type) := Except UsageError α

/-- An option as it was given; one without a value has an empty one. -/
structure Given where
  switch : Switch
  value : String
  deriving DecidableEq, Repr

structure Scanned where
  options : List Given
  positional : List String
  deriving DecidableEq, Repr

structure Piece where
  options : List Given
  open? : Option (Switch × String)
  deriving DecidableEq, Repr

/-- Options of one letter in a row. The first that takes a value takes the letters after it. -/
def letters : List Char → Checked Piece
  | [] => .ok ⟨[], none⟩
  | c :: rest =>
    let name := String.ofList ['-', c]
    match Switch.short.lookup c with
    | none => .error (.noSuchOption name [])
    | some s =>
      if !s.takesValue then (letters rest).map fun p => { p with options := ⟨s, ""⟩ :: p.options }
      else if rest.isEmpty then .ok ⟨[], some (s, name)⟩
      else .ok ⟨[⟨s, String.ofList rest⟩], none⟩

def word (s : Switch) (name : String) (value : Option String) : Checked Piece :=
  match s.takesValue, value with
  | true, some v => .ok ⟨[⟨s, v⟩], none⟩
  | true, none => .ok ⟨[], some (s, name)⟩
  | false, some _ => .error (.noValueTaken name)
  | false, none => .ok ⟨[⟨s, ""⟩], none⟩

def valueAfterEquals (cs : List Char) : Option String :=
  match cs.dropWhile (· != '=') with
  | [] => none
  | _ :: value => some (String.ofList value)

def piece (cs : List Char) : Checked Piece :=
  let name := String.ofList (cs.takeWhile (· != '='))
  match Switch.long.lookup name with
  | some s => word s name (valueAfterEquals cs)
  | none =>
    match cs with
    | '-' :: '-' :: _ => .error (.noSuchOption name (Text.alike name (Switch.long.map (·.1))))
    | _ => letters (cs.drop 1)

def isOption (cs : List Char) : Bool :=
  match cs with
  | '-' :: _ :: _ => true
  | _ => false

def Scanned.withOptions (gs : List Given) (s : Scanned) : Scanned :=
  { s with options := gs ++ s.options }

def Scanned.withPositional (text : String) (s : Scanned) : Scanned :=
  { s with positional := text :: s.positional }

/-- Two dashes end the options. An option takes the next argument whatever it looks like. -/
def scan : List String → Checked Scanned
  | [] => .ok ⟨[], []⟩
  | arg :: rest =>
    if arg = "--" then .ok ⟨[], rest⟩
    else if isOption arg.toList then
      match piece arg.toList with
      | .error e => .error e
      | .ok ⟨gs, none⟩ => (scan rest).map (·.withOptions gs)
      | .ok ⟨gs, some (s, name)⟩ =>
        match rest with
        | [] => .error (.missingValue name)
        | v :: rest => (scan rest).map (·.withOptions (gs ++ [⟨s, v⟩]))
    else (scan rest).map (·.withPositional arg)

namespace Scanned

def has (s : Scanned) (x : Switch) : Bool := s.options.any (·.switch = x)

def values (s : Scanned) (x : Switch) : List String :=
  (s.options.filter (·.switch = x)).map (·.value)

def last? (s : Scanned) (x : Switch) : Option String := (s.values x).getLast?

def shows? (s : Scanned) : Option Switch :=
  (s.options.map (·.switch)).find? fun x => x = .version || x = .help

end Scanned

structure Settings where
  source : String
  output : Option String
  depth : Nat
  token : Option String
  headers : Keyed String
  skipDeprecated : Bool
  format : Bool
  verbose : Bool
  deriving DecidableEq, Repr

def defaultDepth : Nat := 7

def depth (s : Scanned) : Checked Nat :=
  match s.last? .depth with
  | none => .ok defaultDepth
  | some text =>
    match Numeral.int? text with
    | none => .error (.notInteger text)
    | some n => if n < 0 then .error (.negative n) else .ok n.toNat

def headersOf (s : Scanned) : Checked (Keyed String) :=
  (headers (s.values .header)).mapError .header

def checkTimeout (s : Scanned) : Checked Unit :=
  match s.last? .timeout with
  | none => .ok ()
  | some text => if Numeral.isFloat text then .ok () else .error (.notFloat text)

def checkSwitch (s : Scanned) : Switch → Checked Unit
  | .depth => (depth s).map fun _ => ()
  | .header => (headersOf s).map fun _ => ()
  | .timeout => checkTimeout s
  | _ => .ok ()

/-- An empty output is none. No path holds the character NUL. -/
def output (w : Workspace) (text : Option String) : Checked (Option String) :=
  match text with
  | none => .ok none
  | some t =>
    if t.toList.contains '\x00' then .error .notPath
    else if w.isDirectoryText t then .error (.outputDirectory t)
    else if t.isEmpty then .ok none
    else .ok (some t)

/-- The token of the environment counts if none is given; an empty one counts as none. -/
def token (s : Scanned) (environment : Option String) : Option String :=
  match s.last? .token with
  | some t => some t
  | none => environment.filter (!·.isEmpty)

/-- Options in the order in which they were given, then the positional arguments. -/
def settings (w : Workspace) (environment : Option String) (s : Scanned) : Checked Settings := do
  s.options.forM fun g => checkSwitch s g.switch
  match s.positional with
  | [] => .error .missingSource
  | source :: others => do
    let out ← output w others.head?
    if 1 < others.length then .error (.extraArguments (others.drop 1))
    let hs ← headersOf s
    let d ← depth s
    .ok ⟨source, out, d, token s environment, hs, s.has .skipDeprecated, !s.has .noFormat,
      s.has .verbose⟩

end QueryDraft.Command
