import QueryDraft.Schema.Fault
import QueryDraft.Schema.Standard

namespace QueryDraft.Introspection

open Json (Members)

abbrev Read (α : Type) := Except Fault α

inductive Kind where
  | scalar
  | object
  | interface
  | union
  | enum
  | inputObject
  deriving DecidableEq, Repr

def Kind.ofWord? (word : String) : Option Kind :=
  [("SCALAR", Kind.scalar), ("OBJECT", .object), ("INTERFACE", .interface), ("UNION", .union),
    ("ENUM", .enum), ("INPUT_OBJECT", .inputObject)].lookup word

def Kind.ofDef : TypeDef → Kind
  | .scalar => .scalar
  | .enum => .enum
  | .object _ => .object
  | .interface _ => .interface
  | .union _ => .union
  | .inputObject => .inputObject

inductive Listed where
  | standard (type : TypeDef)
  | described (kind : Kind) (entry : Members)

def Listed.kind : Listed → Kind
  | .standard type => .ofDef type
  | .described kind _ => kind

abbrev Listing := Keyed Listed

def Listing.kind? (l : Listing) (name : String) : Option Kind := (l.lookup name).map Listed.kind

def required (key : String) : Json → Read Json
  | .obj ms =>
    match ms.lookup key with
    | some v => .ok v
    | none => .error (.missingKey key)
  | v => .error (.notIndexable v)

def members : Json → Read Members
  | .obj ms => .ok ms
  | v => .error (.noMembers v)

/-- An object counts as the list of its names, a text as the list of its characters. -/
def items : Json → Read (List Json)
  | .arr vs => .ok vs
  | .obj ms => .ok (ms.map fun m => .str m.1)
  | .str s => .ok (s.toList.map fun c => .str (String.ofList [c]))
  | v => .error (.notIterable v)

def part (p : Part) (key : String) (entry : Members) : Read Json :=
  match Json.member entry key with
  | .null => .error (.missingPart p (.obj entry))
  | v => .ok v

def checkKey : Json → Read Unit
  | .arr vs => .error (.unhashable (.arr vs))
  | .obj ms => .error (.unhashable (.obj ms))
  | _ => .ok ()

def checkName : Json → Read String
  | .null => .error .nameAbsent
  | .str s =>
    match Name.check s with
    | .ok () => .ok s
    | .error fault => .error (.badName fault)
  | _ => .error .nameNotText

def standard? : Json → Option TypeDef
  | .str s => Standard.find? s
  | _ => none

def checkReserved (name : Json) : Read Unit :=
  match name, standard? name with
  | .str s, some _ => .error (.reserved s)
  | _, _ => .ok ()

def checkPart (p : Part) (key : String) (entry : Members) : Read Unit :=
  (part p key entry).map fun _ => ()

/-- The names of an enumeration's values are read, and may be any. -/
def checkValues (entry : Members) : Read Unit := do
  (← items (Json.member entry "enumValues")).forM fun v => do checkKey (← required "name" v)

/-- What must hold of an entry before its name is looked at. -/
def checkParts (kind : Kind) (entry : Members) : Read Unit :=
  match kind with
  | .union => checkPart .possibleTypes "possibleTypes" entry
  | .enum => checkPart .enumValues "enumValues" entry
  | .inputObject => checkPart .inputFields "inputFields" entry
  | _ => .ok ()

/-- Scalars, objects and enumerations give way to a standard type of their name. -/
def mayBeStandard : Kind → Bool
  | .scalar | .object | .enum => true
  | _ => false

def kindOf (entry : Members) : Read Kind :=
  match entry.lookup "kind" with
  | some (.str word) =>
    match Kind.ofWord? word with
    | some kind => .ok kind
    | none => .error (.incomplete (.obj entry))
  | some (.arr vs) => .error (.unhashable (.arr vs))
  | some (.obj ms) => .error (.unhashable (.obj ms))
  | _ => .error (.incomplete (.obj entry))

def listed (v : Json) : Read (String × Listed) := do
  let name ← required "name" v
  let entry ← members v
  let kind ← kindOf entry
  checkParts kind entry
  checkKey name
  match name, standard? name, mayBeStandard kind with
  | .str s, some type, true => .ok (s, .standard type)
  | _, _, _ => do
    if kind = .enum then checkValues entry
    checkReserved name
    let s ← checkName name
    .ok (s, .described kind entry)

def listing (description : Members) : Read Listing := do
  let entries ← items (← required "types" (.obj description))
  let named ← entries.mapM listed
  .ok (Keyed.ofList named)

def isWord (v : Json) (word : String) : Bool :=
  match v with
  | .str s => s == word
  | _ => false

def known (l : Listing) (name : String) : Read TypeRef :=
  match l.lookup name with
  | some _ => .ok (.named name)
  | none => .error (.unknownType name)

def named (l : Listing) (ref : Members) : Read TypeRef :=
  let name := Json.member ref "name"
  if !name.truthy then .error (.unknownReference (.obj ref))
  else
    match name with
    | .str s => known l s
    | .arr vs => .error (.unhashable (.arr vs))
    | .obj ms => .error (.unhashable (.obj ms))
    | v => .error (.unknownType v.display)

def nonNull (t : TypeRef) : Read TypeRef :=
  if t.isNonNull then .error (.notNullable t) else .ok (.nonNull t)

mutual

def reference (l : Listing) : Json → Read TypeRef
  | .obj ms =>
    if isWord (Json.member ms "kind") "LIST" then (inner l ms).map .list
    else if isWord (Json.member ms "kind") "NON_NULL" then (inner l ms).bind nonNull
    else named l ms
  | v => .error (.noMembers v)

def inner (l : Listing) : List (String × Json) → Read TypeRef
  | [] => .error .tooDeep
  | (key, v) :: rest =>
    if key = "ofType" then
      if v.truthy then reference l v else .error .tooDeep
    else inner l rest

end

def hasKind (l : Listing) (kind : Kind) : TypeRef → Bool
  | .named name => l.kind? name = some kind
  | _ => false

def objectName (l : Listing) (ref : Json) : Read String := do
  let t ← reference l ref
  if hasKind l .object t then .ok t.target else .error (.notObject t)

def interfaceName (l : Listing) (ref : Json) : Read String := do
  let t ← reference l ref
  if hasKind l .interface t then .ok t.target else .error (.notInterface t)

def isInput (l : Listing) (t : TypeRef) : Bool :=
  match l.kind? t.target with
  | some .scalar | some .enum | some .inputObject => true
  | _ => false

def isOutput (l : Listing) (t : TypeRef) : Bool := l.kind? t.target != some .inputObject

/-- A default is a text, or a list that is read piece by piece. -/
def checkDefault : Json → Read Unit
  | .null => .ok ()
  | .str s =>
    match Language.parseConstant s.toList with
    | .ok _ => .ok ()
    | .error fault => .error (.defaultValue s fault)
  | .arr pieces =>
    match Language.Pieces.check pieces with
    | .ok () => .ok ()
    | .error fault => .error (.defaultPieces fault)
  | .obj ms => .error (if ms.isEmpty then .notText (.obj ms) else .noPosition)
  | v => .error (.noLength v)

abbrev Unchecked (α : Type) := List (Json × α)

def checkNames {α : Type} (xs : Unchecked α) : Read (List (String × α)) :=
  xs.mapM fun x => do .ok (← checkName x.1, x.2)

def inputValue (l : Listing) (role : InputRole) (v : Json) : Read (Json × TypeRef) := do
  let name ← required "name" v
  let t ← reference l (← required "type" v)
  if !isInput l t then .error (.notInput role t)
  let entry ← members v
  checkDefault (Json.member entry "defaultValue")
  checkKey name
  .ok (name, t)

def inputValues (l : Listing) (role : InputRole) (v : Json) : Read (Unchecked TypeRef) := do
  (← items v).mapM (inputValue l role)

def arguments (l : Listing) (v : Json) : Read (List Argument) := do
  let named ← checkNames (← inputValues l .argument v)
  .ok ((Keyed.ofList named).map fun x => ⟨x.1, x.2⟩)

def field (l : Listing) (v : Json) : Read (Json × (String → Field)) := do
  let name ← required "name" v
  let t ← reference l (← required "type" v)
  if !isOutput l t then .error (.notOutput t)
  let entry ← members v
  let args ← arguments l (← part .fieldArgs "args" entry)
  checkKey name
  let deprecated := (Json.member entry "deprecationReason").truthy
  .ok (name, fun n => ⟨n, t, args, deprecated⟩)

def within {α : Type} (owner : String) (side : Side) : Read α → Read α
  | .ok a => .ok a
  | .error cause => .error (.unresolved owner side cause)

def interfaces (l : Listing) (kind : Kind) (entry : Members) : Read (List String) :=
  match Json.member entry "interfaces" with
  | .null => if kind = .interface then .ok [] else .error (.missingPart .interfaces (.obj entry))
  | v => do (← items v).mapM (interfaceName l)

def fieldList (l : Listing) (entry : Members) : Read (Unchecked (String → Field)) :=
  match Json.member entry "fields" with
  | .null => .error (.missingFields (.obj entry))
  | v => do (← items v).mapM (field l)

/-- Field names are checked when all fields have been read. -/
def fields (l : Listing) (owner : String) (kind : Kind) (entry : Members) : Read (List Field) := do
  let _ ← within owner .interfaces (interfaces l kind entry)
  let unchecked ← within owner .fields (fieldList l entry)
  let named ← checkNames unchecked
  .ok ((Keyed.ofList named).map fun x => x.2 x.1)

def unionMembers (l : Listing) (entry : Members) : Read (List String) := do
  (← items (Json.member entry "possibleTypes")).mapM (objectName l)

def definition (l : Listing) (name : String) : Listed → Read TypeDef
  | .standard type => .ok type
  | .described .scalar _ => .ok .scalar
  | .described .enum _ => .ok .enum
  | .described .object entry => (fields l name .object entry).map .object
  | .described .interface entry => (fields l name .interface entry).map .interface
  | .described .union entry => (within name .types (unionMembers l entry)).map .union
  | .described .inputObject entry => do
    let unchecked ← within name .fields
      (inputValues l .inputField (Json.member entry "inputFields"))
    let _ ← checkNames unchecked
    .ok .inputObject

def root (l : Listing) (description : Members) (key : String) : Read (Option String) :=
  match Json.member description key with
  | .null => .ok none
  | v => (objectName l v).map some

def isLocation : Json → Bool
  | .str s => Standard.directiveLocations.contains s
  | _ => false

def checkDirective (l : Listing) (v : Json) : Read Unit := do
  let entry ← members v
  let args ← part .directiveArgs "args" entry
  let locations ← part .directiveLocations "locations" entry
  let name ← required "name" v
  let places ← items locations
  let unchecked ← inputValues l .argument args
  let s ← checkName name
  if !places.all isLocation then .error (.locations s)
  let _ ← checkNames unchecked
  .ok ()

def checkDirectives (l : Listing) (description : Members) : Read Unit := do
  let v := Json.member description "directives"
  if v.truthy then (← items v).forM (checkDirective l)

def complete (types : List (String × TypeDef)) : List (String × TypeDef) :=
  types ++ Standard.always.filter fun t => (types.lookup t.1).isNone

/-- All names are read first; then the roots, the directives and the types are resolved in the order
of the description. The first fault ends the reading. -/
def schema (data : Members) : Read Schema :=
  match Json.member data "__schema" with
  | .obj description => do
    let l ← listing description
    let query ← root l description "queryType"
    let mutation ← root l description "mutationType"
    let _ ← root l description "subscriptionType"
    checkDirectives l description
    let types ← l.mapM fun t => do .ok (t.1, ← definition l t.1 t.2)
    .ok ⟨complete types, query, mutation⟩
  | _ => .error (.noDescription (.obj data))

end QueryDraft.Introspection
