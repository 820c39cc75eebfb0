import QueryDraft.Document.Assembly
import QueryDraft.Language.Format

namespace QueryDraft

structure Options where
  maxDepth : Int
  safeDepth : Int
  maxOutputSize : Int
  skipDeprecated : Bool
  format : Bool
  deriving DecidableEq, Repr

def Options.default : Options := ⟨7, 7, 50000000, false, true⟩

inductive Exhaustion where
  | memory (text : String)
  | recursion (text : String)
  deriving DecidableEq, Repr

def Exhaustion.message : Exhaustion → String
  | .memory text => if text.isEmpty then "MemoryError" else text
  | .recursion text => if text.isEmpty then "RecursionError" else text

/-- What goes wrong while a document is drafted, apart from what the document itself causes. -/
structure Faults where
  memory : MemoryFaults
  parser : Option Exhaustion

def Faults.none : Faults := ⟨fun _ => false, Option.none⟩

inductive FormatError where
  | malformed (fault : Language.Fault) (text : List Char)
  | exhausted (cause : Exhaustion)

def FormatError.message : FormatError → String
  | .malformed fault text => fault.message text
  | .exhausted cause => cause.message

def layOut (parser : Option Exhaustion) (text : List Char) : Except FormatError (List Char) :=
  match parser with
  | some cause => .error (.exhausted cause)
  | none =>
    match Language.format text with
    | .ok laidOut => .ok laidOut
    | .error fault => .error (.malformed fault text)

inductive Warning where
  | regenerated (cause : TooLarge) (depth : Int)
  | unlimited (cause : TooLarge)
  | unformatted (cause : FormatError)

def Warning.message : Warning → String
  | .regenerated cause depth => cause.message ++ "; regenerated at depth " ++ Int.repr depth
  | .unlimited cause => cause.message ++ "; writing unformatted output without a size limit"
  | .unformatted cause => "Formatting failed (" ++ cause.message ++ "); writing unformatted output"

structure Draft where
  document : List Char
  operationCount : Nat
  depth : Int
  formatted : Bool
  warnings : List Warning

structure Attempt where
  depth : Int
  limited : Bool
  outcome : Except DraftError (List Char)

abbrev Attempted (α : Type) := Except DraftError α × List Attempt

def Attempted.after {α : Type} (later : Attempted α) (attempt : Attempt) : Attempted α :=
  (later.1, attempt :: later.2)

namespace Options

def assemble (o : Options) (schema : Schema) (memory : MemoryFaults) (depth : Int) (limited : Bool)
    (begun : Nat) : Counted (List Char) :=
  if depth < 0 then (.error (.negativeDepth depth), begun)
  else
    let scope : Scope :=
      ⟨depth.toNat, o.skipDeprecated, if limited then some o.maxOutputSize else none⟩
    scope.assemble schema memory begun

def reducedDepth (o : Options) : Int :=
  if o.maxDepth = 0 ∨ o.safeDepth < o.maxDepth then o.safeDepth else max 1 (o.maxDepth / 2)

def finish (o : Options) (schema : Schema) (faults : Faults) (depth : Int) (warnings : List Warning)
    (raw : List Char) : Draft :=
  let count := schema.roots.length
  if o.format && !raw.isEmpty then
    match layOut faults.parser raw with
    | .ok document => ⟨document, count, depth, true, warnings⟩
    | .error cause => ⟨raw, count, depth, false, warnings ++ [.unformatted cause]⟩
  else ⟨raw, count, depth, false, warnings⟩

/-- The document without a limit, after `cause` ended the last attempt with one. -/
def unlimited (o : Options) (schema : Schema) (faults : Faults) (depth : Int)
    (warnings : List Warning) (cause : TooLarge) (begun : Nat) : Attempted Draft :=
  let outcome := (o.assemble schema faults.memory depth false begun).1
  let attempt : Attempt := ⟨depth, false, outcome⟩
  match outcome with
  | .ok raw =>
    (.ok ⟨raw, schema.roots.length, depth, false, warnings ++ [.unlimited cause]⟩, [attempt])
  | .error e => (.error e, [attempt])

def retry (o : Options) (schema : Schema) (faults : Faults) (cause : TooLarge)
    (begun : Nat) : Attempted Draft :=
  let depth := o.reducedDepth
  if depth = o.maxDepth then o.unlimited schema faults depth [] cause begun
  else
    let warnings := [.regenerated cause depth]
    let (outcome, begun) := o.assemble schema faults.memory depth true begun
    let attempt : Attempt := ⟨depth, true, outcome⟩
    match outcome with
    | .ok raw => (.ok (o.finish schema faults depth warnings raw), [attempt])
    | .error (.tooLarge cause) =>
      (o.unlimited schema faults depth warnings cause begun).after attempt
    | .error e => (.error e, [attempt])

/-- The draft of a schema, with the assemblies made for it. -/
def drafting (o : Options) (schema : Schema) (faults : Faults) : Attempted Draft :=
  let (outcome, begun) := o.assemble schema faults.memory o.maxDepth true 0
  let attempt : Attempt := ⟨o.maxDepth, true, outcome⟩
  match outcome with
  | .ok raw => (.ok (o.finish schema faults o.maxDepth [] raw), [attempt])
  | .error (.tooLarge cause) => (o.retry schema faults cause begun).after attempt
  | .error e => (.error e, [attempt])

def draft (o : Options) (schema : Schema) (faults : Faults) : Except DraftError Draft :=
  (o.drafting schema faults).1

end Options

end QueryDraft
