import QueryDraft.Command.Arguments
import QueryDraft.Command.Help
import QueryDraft.Document.Draft
import QueryDraft.Http.Session

namespace QueryDraft.Command

structure Invocation where
  args : List String
  workspace : Workspace
  token : Option String
  replies : List Reply
  faults : Faults

inductive Fatal where
  | fetch (cause : FetchError)
  | file (cause : FileError)
  | tooLarge (cause : TooLarge)

def Fatal.message : Fatal → String
  | .fetch cause => cause.message
  | .file cause => cause.message
  | .tooLarge cause => cause.message

/-- What stops a run without a message. -/
inductive Crash where
  | messageNotText
  | noMembers
  | headerNotAscii
  | address
  | breakdown (name : String)
  | fileNotText
  | notPath
  | nameTooLong
  | limit (limit : Json.Limit)
  | draft (cause : DraftError)
  | write (fault : WriteFault)

inductive Ending where
  | done
  | usage (cause : UsageError)
  | fatal (cause : Fatal)
  | crash (cause : Crash)

def endOfUse : UsageError → Ending
  | .notPath => .crash .notPath
  | cause => .usage cause

def Ending.exitCode : Ending → Nat
  | .done => 0
  | .usage _ => 2
  | .fatal _ => 1
  | .crash _ => 1

structure Report where
  progress : List String
  warnings : List String
  ending : Ending
  requests : List Request
  written : Option (Path × List Char)

namespace Report

def shown (lines : List String) : Report := ⟨lines, [], .done, [], none⟩

def misused (cause : UsageError) : Report := ⟨[], [], endOfUse cause, [], none⟩

def errors (r : Report) : List String :=
  r.warnings ++
    match r.ending with
    | .done => []
    | .usage cause =>
      (if cause.showsUsage then [usageLine, usageHint, ""] else []) ++ ["Error: " ++ cause.message]
    | .fatal cause => ["Error: " ++ Text.Surrogate.escape cause.message]
    | .crash _ => []

end Report

def defaultOutput : String := "query.graphql"

def outputPath (w : Workspace) (s : Settings) : Path := w.resolve (s.output.getD defaultOutput)

def Settings.endpoint (s : Settings) : Endpoint := ⟨s.source, .ofToken s.token, s.headers⟩

def Settings.options (s : Settings) : Options :=
  { Options.default with
    maxDepth := s.depth
    skipDeprecated := s.skipDeprecated
    format := s.format }

def checkSource (w : Workspace) (s : Settings) : Except Ending Unit :=
  if Address.isEndpoint s.source || w.isFile s.source then .ok ()
  else if w.isTooLong s.source then .error (.crash .nameTooLong)
  else .error (.usage (.noSource s.source))

structure Loaded where
  schema : Except Ending Schema
  requests : List Request

def endOfLoad (fatal : Fatal) : LoadError → Ending
  | .messageNotText _ _ => .crash .messageNotText
  | .noMembers _ => .crash .noMembers
  | _ => .fatal fatal

def endOfFetch (cause : FetchError) : Ending :=
  match cause with
  | .load e => endOfLoad (.fetch cause) e
  | .headerNotAscii => .crash .headerNotAscii
  | .address _ => .crash .address
  | .breakdown name _ => .crash (.breakdown name)
  | .nested _ => .crash (.limit .nesting)
  | _ => .fatal (.fetch cause)

def endOfFile (cause : FileError) : Ending :=
  match cause with
  | .load e => endOfLoad (.file cause) e
  | .notText => .crash .fileNotText
  | .limit limit _ => .crash (.limit limit)
  | _ => .fatal (.file cause)

def load (i : Invocation) (s : Settings) : Loaded :=
  if Address.isEndpoint s.source then
    let (result, session) := s.endpoint.fetchSchema i.replies
    ⟨result.mapError endOfFetch, session.requests⟩
  else
    ⟨(Schema.ofFile (Path.fileName s.source) (i.workspace.find? s.source)).mapError endOfFile, []⟩

def headLines (w : Workspace) (s : Settings) : List String := [
  "Source: " ++ s.source,
  "Output: " ++ (outputPath w s).text,
  "Max Depth: " ++ describeDepth s.depth,
  (if Address.isEndpoint s.source then "Fetching" else "Loading") ++ " schema from " ++
  s.source ++ "..."]

def schemaLines (schema : Schema) : List String := [
  "  Types: " ++ Nat.repr schema.types.length,
  "  Queries: " ++ Nat.repr (schema.rootFields schema.query).length,
  "  Mutations: " ++ Nat.repr (schema.rootFields schema.mutation).length]

def draftLines (d : Draft) : List String := [
  "  Operations: " ++ Nat.repr d.operationCount,
  "  Depth used: " ++ describeDepth d.depth,
  "  Formatted: " ++ (if d.formatted then "yes" else "no")]

def doneLine (d : Draft) (p : Path) : String :=
  "Done! Generated " ++ Nat.repr d.operationCount ++ " operations in " ++ p.text

def verbosely (s : Settings) (lines : List String) : List String := if s.verbose then lines else []

def endOfDraft : DraftError → Ending
  | .tooLarge cause => .fatal (.tooLarge cause)
  | cause => .crash (.draft cause)

def deliver (i : Invocation) (s : Settings) (d : Draft) (before : Report) : Report :=
  let path := outputPath i.workspace s
  let report := { before with
    progress := before.progress ++ verbosely s (draftLines d)
    warnings := d.warnings.map fun w : Warning => "Warning: " ++ w.message }
  match i.workspace.writeFault? path with
  | some fault => { report with ending := .crash (.write fault) }
  | none =>
    { report with
      progress := report.progress ++ [doneLine d path]
      written := some (path, d.document) }

def generate (i : Invocation) (s : Settings) : Report :=
  let head := headLines i.workspace s
  let loaded := load i s
  match loaded.schema with
  | .error ending => ⟨head, [], ending, loaded.requests, none⟩
  | .ok schema =>
    let progress := head ++ verbosely s (schemaLines schema) ++ ["Generating operations..."]
    match s.options.draft schema i.faults with
    | .error cause => ⟨progress, [], endOfDraft cause, loaded.requests, none⟩
    | .ok d => deliver i s d ⟨progress, [], .done, loaded.requests, none⟩

/-- Help and version are shown if the options can be told apart, whatever their values. -/
def run (i : Invocation) : Report :=
  match scan i.args with
  | .error cause => .misused cause
  | .ok scanned =>
    match scanned.shows? with
    | some .version => .shown [versionLine]
    | some _ => .shown helpLines
    | none =>
      match settings i.workspace i.token scanned with
      | .error cause => .misused cause
      | .ok s =>
        match checkSource i.workspace s with
        | .error ending => ⟨[], [], ending, [], none⟩
        | .ok () => generate i s

end QueryDraft.Command
