import QueryDraft.Command.Run

namespace QueryDraft.Command

def stations (p : Path) : List Path := (List.range p.length).map fun n => p.take (n + 1)

def lookUp (p : Path) : IO (List (Path × Entry)) := do
  let root ← IO.currentDir
  if ← (root / p.text).isDir then return [(p, .directory)]
  else if ← (root / p.text).pathExists then
    let bytes ← IO.FS.readBinFile p.text
    return [(p, .file (bytes.toList.map UInt8.toNat))]
  else return []

def survey (args : List String) : IO Workspace := do
  let here : Workspace := ⟨Path.names (← IO.currentDir).toString, []⟩
  let paths := ((defaultOutput :: args).map here.resolve).flatMap stations
  let entries ← paths.eraseDups.mapM lookUp
  return { here with entries := entries.flatten }

def carryOut (r : Report) : IO UInt32 := do
  if let some (path, text) := r.written then
    IO.FS.createDirAll (Path.text path.dropLast)
    IO.FS.writeFile path.text (String.ofList text)
  r.progress.forM IO.println
  r.errors.forM fun line => IO.eprintln line
  return r.ending.exitCode.toUInt32

/-- No transport is built in, so a request gets no answer. -/
def noTransport : Reply := .failure "no network transport is available"

end QueryDraft.Command

open QueryDraft Command in
def main (args : List String) : IO UInt32 := do
  carryOut (run ⟨args, ← survey args, ← IO.getEnv "GQL_OPGEN_TOKEN", [noTransport], .none⟩)
