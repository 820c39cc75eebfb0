import QueryDraft.Json.Display
import QueryDraft.Language.Format
import QueryDraft.Language.Pieces
import QueryDraft.Name
import QueryDraft.TypeRef

namespace QueryDraft.Introspection

inductive Part where
  | possibleTypes
  | enumValues
  | inputFields
  | interfaces
  | fieldArgs
  | directiveArgs
  | directiveLocations

def Part.text : Part → String
  | .possibleTypes => "possibleTypes"
  | .enumValues => "enumValues"
  | .inputFields => "inputFields"
  | .interfaces => "interfaces"
  | .fieldArgs => "field args"
  | .directiveArgs => "directive args"
  | .directiveLocations => "directive locations"

/-- The sides of a type that are read after all names are known. -/
inductive Side where
  | types
  | interfaces
  | fields

def Side.text : Side → String
  | .types => "types"
  | .interfaces => "interfaces"
  | .fields => "fields"

inductive InputRole where
  | argument
  | inputField

def InputRole.text : InputRole → String
  | .argument => "arguments"
  | .inputField => "input fields"

inductive Fault where
  | noDescription (data : Json)
  | incomplete (entry : Json)
  | missingKey (key : String)
  | missingPart (part : Part) (entry : Json)
  | missingFields (entry : Json)
  | notIndexable (found : Json)
  | notIterable (found : Json)
  | noMembers (found : Json)
  | noLength (found : Json)
  | noPosition
  | notText (found : Json)
  | unhashable (found : Json)
  | reserved (name : String)
  | nameAbsent
  | nameNotText
  | badName (fault : Name.Fault)
  | tooDeep
  | notNullable (type : TypeRef)
  | unknownReference (ref : Json)
  | unknownType (name : String)
  | notObject (type : TypeRef)
  | notInterface (type : TypeRef)
  | notOutput (type : TypeRef)
  | notInput (role : InputRole) (type : TypeRef)
  | defaultValue (text : String) (fault : Language.Fault)
  | defaultPieces (fault : Language.Pieces.Fault)
  | locations (directive : String)
  | unresolved (owner : String) (side : Side) (cause : Fault)

def typeText (t : TypeRef) : String := String.ofList t.text

def Fault.message : Fault → String
  | .noDescription data =>
    "Invalid or incomplete introspection result. Ensure that you are passing the 'data' attribute "
      ++ "of an introspection response and no 'errors' were returned alongside: " ++ data.inspect
      ++ "."
  | .incomplete entry =>
    "Invalid or incomplete introspection result. Ensure that a full introspection query is used "
      ++ "in order to build a client schema: " ++ entry.inspect ++ "."
  | .missingKey key => Text.quoted key
  | .missingPart part entry =>
    "Introspection result missing " ++ part.text ++ ": " ++ entry.inspect ++ "."
  | .missingFields entry => "Introspection result missing fields: " ++ entry.display ++ "."
  | .notIndexable found =>
    match found with
    | .str _ => "string indices must be integers, not 'str'"
    | .arr _ => "list indices must be integers or slices, not str"
    | _ => "'" ++ found.kindWord ++ "' object is not subscriptable"
  | .notIterable found => "'" ++ found.kindWord ++ "' object is not iterable"
  | .noMembers found => "'" ++ found.kindWord ++ "' object has no attribute 'get'"
  | .noLength found => "object of type '" ++ found.kindWord ++ "' has no len()"
  | .noPosition => "0"
  | .notText found => "expected string or bytes-like object, got '" ++ found.kindWord ++ "'"
  | .unhashable found => "unhashable type: '" ++ found.kindWord ++ "'"
  | .reserved name => "Redefinition of reserved type " ++ Text.quoted name
  | .nameAbsent => "Must provide name."
  | .nameNotText => "Expected name to be a string."
  | .badName fault => fault.message
  | .tooDeep => "Decorated type deeper than introspection query."
  | .notNullable type => "Expected " ++ typeText type ++ " to be a GraphQL nullable type."
  | .unknownReference ref => "Unknown type reference: " ++ ref.inspect ++ "."
  | .unknownType name =>
    "Invalid or incomplete schema, unknown type: " ++ name
      ++ ". Ensure that a full introspection query is used in order to build a client schema."
  | .notObject type => "Expected " ++ typeText type ++ " to be a GraphQL Object type."
  | .notInterface type => "Expected " ++ typeText type ++ " to be a GraphQL Interface type."
  | .notOutput type =>
    "Introspection must provide output type for fields, but received: " ++ typeText type ++ "."
  | .notInput role type =>
    "Introspection must provide input type for " ++ role.text ++ ", but received: " ++
      typeText type ++ "."
  | .defaultValue text fault => fault.message text.toList
  | .defaultPieces fault => fault.message
  | .locations directive =>
    directive ++ " locations must be specified as a collection of DirectiveLocation enum values."
  | .unresolved owner side cause =>
    owner ++ " " ++ side.text ++ " cannot be resolved. " ++ cause.message

end QueryDraft.Introspection
