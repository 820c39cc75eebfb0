import QueryDraft.Language.Document
import QueryDraft.Language.Lexeme

namespace QueryDraft.Language.Parser

inductive Cause where
  | expected (what : String) (found : Option Lexeme)
  | unexpected (found : Option Lexeme)
  | descriptionOnShorthand
  | descriptionOnOther
  | constantVariable (name : String)
  | tooDeep
  deriving Repr

def describe (found : Option Lexeme) : String := (found.map Lexeme.description).getD "<EOF>"

def Cause.message : Cause → String
  | .expected what found => "Expected " ++ what ++ ", found " ++ describe found ++ "."
  | .unexpected found => "Unexpected " ++ describe found ++ "."
  | .descriptionOnShorthand =>
    "Unexpected description, descriptions are not supported on shorthand queries."
  | .descriptionOnOther => "Unexpected description, only GraphQL definitions support descriptions."
  | .constantVariable name => "Unexpected variable '$" ++ name ++ "' in constant value."
  | .tooDeep => "Document is nested too deeply. Parsing aborted."

/-- A fault, how many lexemes there are from its place on, and how many were left when
it was found. -/
structure Fault where
  cause : Cause
  place : Nat
  left : Nat
  deriving Repr

abbrev Lexemes := List Lexeme

abbrev Reader (α : Type) := Lexemes → Except Fault (α × Lexemes)

variable {α : Type}

def faultAt (cause : Cause) (ts : Lexemes) : Except Fault α := .error ⟨cause, ts.length, ts.length⟩

def unexpected (ts : Lexemes) : Except Fault α := faultAt (.unexpected ts.head?) ts

def expected (what : String) (ts : Lexemes) : Except Fault α := faultAt (.expected what ts.head?) ts

def expectPunctuator (p : Punctuator) : Reader Unit
  | .punctuator q :: rest =>
    if q = p then .ok ((), rest) else expected ("'" ++ p.text ++ "'") (.punctuator q :: rest)
  | ts => expected ("'" ++ p.text ++ "'") ts

def expectKeyword (word : String) : Reader Unit
  | .name v :: rest =>
    if v = word then .ok ((), rest) else expected ("'" ++ word ++ "'") (.name v :: rest)
  | ts => expected ("'" ++ word ++ "'") ts

def name : Reader String
  | .name v :: rest => .ok (v, rest)
  | ts => expected "Name" ts

/-- The items up to a closing punctuator. A reader takes at least one lexeme, so the lexemes from
one before the first item on are fuel enough. -/
def untilClose (close : Punctuator) (item : Reader α) : (fuel : Lexemes) → Reader (List α)
  | [], ts => unexpected ts
  | _ :: fuel, ts =>
    match ts with
    | .punctuator q :: rest =>
      if q = close then .ok ([], rest)
      else do
        let (x, rest) ← item ts
        let (xs, rest) ← untilClose close item fuel rest
        .ok (x :: xs, rest)
    | _ => do
      let (x, rest) ← item ts
      let (xs, rest) ← untilClose close item fuel rest
      .ok (x :: xs, rest)

def someUntilClose (close : Punctuator) (item : Reader α) : Reader (List α) := fun ts => do
  let (x, rest) ← item ts
  let (xs, rest) ← untilClose close item ts rest
  .ok (x :: xs, rest)

def optionalParens (item : Reader α) : Reader (List α)
  | .punctuator .parenL :: rest => someUntilClose .parenR item rest
  | ts => .ok ([], ts)

def plainValue (const : Bool) : Reader Value
  | .int s :: rest => .ok (.int s, rest)
  | .float s :: rest => .ok (.float s, rest)
  | .string s :: rest => .ok (.string ⟨s, false⟩, rest)
  | .blockString s :: rest => .ok (.string ⟨s, true⟩, rest)
  | .name v :: rest =>
    if v = "true" then .ok (.bool true, rest)
    else if v = "false" then .ok (.bool false, rest)
    else if v = "null" then .ok (.null, rest)
    else .ok (.enum v, rest)
  | .punctuator .dollar :: rest =>
    if const then
      match rest with
      | .name v :: _ => .error ⟨.constantVariable v, rest.length + 1, rest.length⟩
      | _ => .error ⟨.unexpected (some (.punctuator .dollar)), rest.length + 1, rest.length⟩
    else (name rest).map fun (v, rest) => (.variable v, rest)
  | ts => unexpected ts

def namedValue (value : Reader Value) : Reader (String × Value) := fun ts => do
  let (n, rest) ← name ts
  let ((), rest) ← expectPunctuator .colon rest
  let (v, rest) ← value rest
  .ok ((n, v), rest)

/-- A value; `room` is how many lists and objects may still be opened. -/
def value (const : Bool) : (room : Nat) → Reader Value
  | 0 => fun ts =>
    match ts with
    | .punctuator .bracketL :: _ | .punctuator .braceL :: _ => faultAt .tooDeep ts
    | _ => plainValue const ts
  | room + 1 => fun ts =>
    match ts with
    | .punctuator .bracketL :: rest =>
      (untilClose .bracketR (value const room) ts rest).map fun (vs, rest) => (.list vs, rest)
    | .punctuator .braceL :: rest =>
      (untilClose .braceR (namedValue (value const room)) ts rest).map fun (fs, rest) =>
        (.object fs, rest)
    | _ => plainValue const ts

def arguments (const : Bool) (room : Nat) : Reader Arguments :=
  optionalParens (namedValue (value const room))

/-- The directives at the front. Each takes at least two lexemes, so the lexemes are fuel enough. -/
def directivesFrom (const : Bool) (room : Nat) : (fuel : Lexemes) → Reader (List Directive)
  | _ :: fuel, .punctuator .at :: rest => do
    let (n, rest) ← name rest
    let (args, rest) ← arguments const room rest
    let (ds, rest) ← directivesFrom const room fuel rest
    .ok (⟨n, args⟩ :: ds, rest)
  | _, ts => .ok ([], ts)

def directives (const : Bool) (room : Nat) : Reader (List Directive) :=
  fun ts => directivesFrom const room ts ts

def afterBang (t : TypeRef) : Lexemes → TypeRef × Lexemes
  | .punctuator .bang :: rest => (.nonNull t, rest)
  | ts => (t, ts)

/-- A type reference. The fault of a list too deep is at the lexeme after its bracket. -/
def typeRef : (room : Nat) → Reader TypeRef
  | 0 => fun ts =>
    match ts with
    | .punctuator .bracketL :: rest => faultAt .tooDeep rest
    | _ => (name ts).map fun (n, rest) => afterBang (.named n) rest
  | room + 1 => fun ts =>
    match ts with
    | .punctuator .bracketL :: rest => do
      let (item, rest) ← typeRef room rest
      let ((), rest) ← expectPunctuator .bracketR rest
      .ok (afterBang (.list item) rest)
    | _ => (name ts).map fun (n, rest) => afterBang (.named n) rest

def description : Lexemes → Option Literal × Lexemes
  | .string s :: rest => (some ⟨s, false⟩, rest)
  | .blockString s :: rest => (some ⟨s, true⟩, rest)
  | ts => (none, ts)

def defaultValue (room : Nat) : Reader (Option Value)
  | .punctuator .equals :: rest => (value true room rest).map fun (v, rest) => (some v, rest)
  | ts => .ok (none, ts)

def variableDefinition (room : Nat) : Reader VariableDefinition := fun ts => do
  let (text, rest) := description ts
  let ((), rest) ← expectPunctuator .dollar rest
  let (n, rest) ← name rest
  let ((), rest) ← expectPunctuator .colon rest
  let (type, rest) ← typeRef room rest
  let (v, rest) ← defaultValue room rest
  let (ds, rest) ← directives true room rest
  .ok (⟨text, n, type, v, ds⟩, rest)

def aliasAndName : Reader (Option String × String) := fun ts => do
  let (n, rest) ← name ts
  match rest with
  | .punctuator .colon :: rest => do
    let (m, rest) ← name rest
    .ok ((some n, m), rest)
  | _ => .ok ((none, n), rest)

def fieldHead (room : Nat) : Reader FieldHead := fun ts => do
  let ((a, n), rest) ← aliasAndName ts
  let (args, rest) ← arguments false room rest
  let (ds, rest) ← directives false room rest
  .ok (⟨a, n, args, ds⟩, rest)

def selection (room : Nat) (set : Reader (List Selection)) : Reader Selection
  | .punctuator .spread :: rest =>
    match rest with
    | .name v :: after =>
      if v = "on" then do
        let (n, rest) ← name after
        let (ds, rest) ← directives false room rest
        let (sub, rest) ← set rest
        .ok (.inline (some n) ds sub, rest)
      else (directives false room after).map fun (ds, rest) => (.spread v ds, rest)
    | _ => do
      let (ds, rest) ← directives false room rest
      let (sub, rest) ← set rest
      .ok (.inline none ds sub, rest)
  | ts => do
    let (head, rest) ← fieldHead room ts
    match rest with
    | .punctuator .braceL :: _ => (set rest).map fun (sub, rest) => (.field head sub, rest)
    | _ => .ok (.leaf head, rest)

def selectionSet : (room : Nat) → Reader (List Selection)
  | 0 => fun ts => faultAt .tooDeep ts
  | room + 1 => fun ts => do
    let ((), rest) ← expectPunctuator .braceL ts
    untilClose .braceR (selection room (selectionSet room)) ts rest

def operationType? (word : String) : Option OperationType :=
  if word = "query" then some .query
  else if word = "mutation" then some .mutation
  else if word = "subscription" then some .subscription
  else none

def optionalName : Lexemes → Option String × Lexemes
  | .name v :: rest => (some v, rest)
  | ts => (none, ts)

def operation (room : Nat) (text : Option Literal) (type : OperationType) :
    Reader Definition := fun ts => do
  let (n, rest) := optionalName ts
  let (vars, rest) ← optionalParens (variableDefinition room) rest
  let (ds, rest) ← directives false room rest
  let (sub, rest) ← selectionSet room rest
  .ok (.operation text type n vars ds sub, rest)

/-- A fragment's name. A lexeme that reads "on" is refused, be it a name or a text. -/
def fragmentName : Reader String
  | .name v :: rest => if v = "on" then unexpected (.name v :: rest) else .ok (v, rest)
  | .string v :: rest => if v = "on" then unexpected (.string v :: rest)
  else name (.string v :: rest)
  | .blockString v :: rest =>
    if v = "on" then unexpected (.blockString v :: rest) else name (.blockString v :: rest)
  | ts => name ts

def fragment (room : Nat) (text : Option Literal) : Reader Definition := fun ts => do
  let (n, rest) ← fragmentName ts
  let ((), rest) ← expectKeyword "on" rest
  let (on, rest) ← name rest
  let (ds, rest) ← directives false room rest
  let (sub, rest) ← selectionSet room rest
  .ok (.fragment text n on ds sub, rest)

/-- A definition with its description. The faults of a description are at its start, and are found
when the lexeme after it has been seen. Nothing executable can be extended, so the lexeme after that
word is refused. -/
def definition (room : Nat) : Reader Definition := fun ts =>
  let (text, rest) := description ts
  match rest with
  | .punctuator .braceL :: _ =>
    match text with
    | none => (selectionSet room ts).map fun (sub, rest) =>
      (.operation none .query none [] [] sub, rest)
    | some _ => .error ⟨.descriptionOnShorthand, ts.length, rest.length⟩
  | .name v :: after =>
    match operationType? v with
    | some type => operation room text type after
    | none =>
      if v = "fragment" then fragment room text after
      else
        match text with
        | none => if v = "extend" then unexpected after else unexpected ts
        | some _ => .error ⟨.descriptionOnOther, ts.length, rest.length⟩
  | _ => unexpected rest

def definitions (room : Nat) : (fuel : Lexemes) → Lexemes → Except Fault Document
  | [], ts => unexpected ts
  | _ :: fuel, ts => do
    let (d, rest) ← definition room ts
    match rest with
    | [] => .ok [d]
    | _ => do
      let ds ← definitions room fuel rest
      .ok (d :: ds)

/-- How many selection sets, lists, objects and list types may be open at once. -/
def nesting : Nat := 200

def document (ts : Lexemes) : Except Fault Document := definitions nesting ts ts

def constant (ts : Lexemes) : Except Fault Value := do
  let (v, rest) ← value true nesting ts
  match rest with
  | [] => .ok v
  | _ => expected "<EOF>" rest

end QueryDraft.Language.Parser
