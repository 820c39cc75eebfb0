import QueryDraft.Schema.File

namespace QueryDraft

abbrev Path := List String

/-- The files and directories that are there; those on the way to them are there too. -/
structure Workspace where
  directory : Path
  entries : List (Path × Entry)
  deriving DecidableEq, Repr

namespace Path

def splitOnto (path : Path) (name : List Char) : List Char → Path
  | [] => (String.ofList name.reverse :: path).reverse
  | '/' :: rest => splitOnto (String.ofList name.reverse :: path) [] rest
  | c :: rest => splitOnto path (c :: name) rest

/-- The names in a path, without empty ones and those that stay in place. -/
def names (text : String) : Path :=
  (splitOnto [] [] text.toList).filter fun n => n != "" && n != "."

def isAbsolute (text : String) : Bool := text.toList.head? == some '/'

def text (p : Path) : String := "/" ++ "/".intercalate p

def mostBytes : Nat := 4095

def isLongName (name : String) : Bool := 255 < name.utf8ByteSize

def fileName (text : String) : String := (names text).getLast?.getD ""

end Path

namespace Workspace

def start (w : Workspace) (text : String) : Path := if Path.isAbsolute text then [] else w.directory

/-- The absolute path that a text means, whether it is there or not. -/
def resolve (w : Workspace) (text : String) : Path :=
  (Path.names text).foldl (fun p n => if n = ".." then p.dropLast else p ++ [n]) (w.start text)

def entry? (w : Workspace) (p : Path) : Option Entry :=
  match w.entries.lookup p with
  | some e => some e
  | none => if p.isPrefixOf w.directory || w.entries.any (fun e => p.isPrefixOf e.1) then
    some .directory else none

def isDirectory (w : Workspace) (p : Path) : Bool :=
  match w.entry? p with
  | some .directory => true
  | _ => false

/-- What is there at the end of some names, all names before the last leading to directories. -/
def follow (w : Workspace) (p : Path) : List String → Option Entry
  | [] => w.entry? p
  | n :: rest =>
    if w.isDirectory p then w.follow (if n = ".." then p.dropLast else p ++ [n]) rest else none

def find? (w : Workspace) (text : String) : Option Entry :=
  if text.isEmpty then none else w.follow (w.start text) (Path.names text)

def meetsLongName (w : Workspace) (p : Path) : List String → Bool
  | [] => false
  | n :: rest =>
    w.isDirectory p &&
      (Path.isLongName n || w.meetsLongName (if n = ".." then p.dropLast else p ++ [n]) rest)

def isTooLong (w : Workspace) (text : String) : Bool :=
  Path.mostBytes < text.utf8ByteSize || w.meetsLongName (w.start text) (Path.names text)

def isFile (w : Workspace) (text : String) : Bool :=
  match w.find? text with
  | some (.file _) => true
  | _ => false

def isDirectoryText (w : Workspace) (text : String) : Bool :=
  match w.find? text with
  | some .directory => true
  | _ => false

end Workspace

inductive WriteFault where
  | fileExists
  | notDirectory
  | isDirectory
  | nameTooLong
  deriving DecidableEq, Repr

def Workspace.blocked (w : Workspace) (p : Path) : Bool :=
  (List.range (p.length + 1)).any fun n =>
    match w.entry? (p.take n) with
    | some (.file _) => true
    | _ => false

/-- A file can be written where no file is in the way of its directories, no directory in its place,
and no name too long. -/
def Workspace.writeFault? (w : Workspace) (p : Path) : Option WriteFault :=
  match w.entry? p.dropLast with
  | some (.file _) => some .fileExists
  | _ =>
    if w.blocked p.dropLast then some .notDirectory
    else if p.any Path.isLongName || Path.mostBytes < (Path.text p).utf8ByteSize then
      some .nameTooLong
    else if w.isDirectory p then some .isDirectory
    else none

end QueryDraft
