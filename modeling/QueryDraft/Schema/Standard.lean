import QueryDraft.Schema.Basic

namespace QueryDraft.Standard

def nameRef (name : String) : TypeRef := .named name

def required (t : TypeRef) : TypeRef := .nonNull t

def listOf (name : String) : TypeRef := .list (.nonNull (.named name))

def plain (name : String) (type : TypeRef) : Field := ⟨name, type, [], false⟩

def string : TypeRef := .named "String"

def boolean : TypeRef := .named "Boolean"

def withDeprecated (name : String) (type : TypeRef) : Field :=
  ⟨name, type, [⟨"includeDeprecated", required boolean⟩], false⟩

def schemaFields : List Field := [
  plain "description" string,
  plain "types" (required (listOf "__Type")),
  plain "queryType" (required (nameRef "__Type")),
  plain "mutationType" (nameRef "__Type"),
  plain "subscriptionType" (nameRef "__Type"),
  withDeprecated "directives" (required (listOf "__Directive"))]

def deprecationFields : List Field := [
  plain "isDeprecated" (required boolean),
  plain "deprecationReason" string]

def directiveFields : List Field := [
  plain "name" (required string),
  plain "description" string,
  plain "isRepeatable" (required boolean),
  plain "locations" (required (listOf "__DirectiveLocation")),
  withDeprecated "args" (required (listOf "__InputValue"))] ++ deprecationFields

def typeFields : List Field := [
  plain "kind" (required (nameRef "__TypeKind")),
  plain "name" string,
  plain "description" string,
  plain "specifiedByURL" string,
  withDeprecated "fields" (listOf "__Field"),
  plain "interfaces" (listOf "__Type"),
  plain "possibleTypes" (listOf "__Type"),
  withDeprecated "enumValues" (listOf "__EnumValue"),
  withDeprecated "inputFields" (listOf "__InputValue"),
  plain "ofType" (nameRef "__Type"),
  plain "isOneOf" boolean]

def fieldFields : List Field := [
  plain "name" (required string),
  plain "description" string,
  withDeprecated "args" (required (listOf "__InputValue")),
  plain "type" (required (nameRef "__Type"))] ++ deprecationFields

def inputValueFields : List Field := [
  plain "name" (required string),
  plain "description" string,
  plain "type" (required (nameRef "__Type")),
  plain "defaultValue" string] ++ deprecationFields

def enumValueFields : List Field := [
  plain "name" (required string),
  plain "description" string] ++ deprecationFields

/-- The scalars that a schema has only if it lists them. -/
def optionalScalars : List (String × TypeDef) :=
  [("Int", .scalar), ("Float", .scalar), ("ID", .scalar)]

/-- The types of introspection and the scalars that they use, which every schema has. -/
def always : List (String × TypeDef) := [
  ("String", .scalar),
  ("Boolean", .scalar),
  ("__Schema", .object schemaFields),
  ("__Directive", .object directiveFields),
  ("__DirectiveLocation", .enum),
  ("__Type", .object typeFields),
  ("__Field", .object fieldFields),
  ("__InputValue", .object inputValueFields),
  ("__EnumValue", .object enumValueFields),
  ("__TypeKind", .enum)]

def find? (name : String) : Option TypeDef := (always ++ optionalScalars).lookup name

def directiveLocations : List String := [
  "QUERY", "MUTATION", "SUBSCRIPTION", "FIELD", "FRAGMENT_DEFINITION", "FRAGMENT_SPREAD",
  "INLINE_FRAGMENT", "VARIABLE_DEFINITION", "FRAGMENT_VARIABLE_DEFINITION", "SCHEMA", "SCALAR",
  "OBJECT", "FIELD_DEFINITION", "ARGUMENT_DEFINITION", "INTERFACE", "UNION", "ENUM", "ENUM_VALUE",
  "INPUT_OBJECT", "INPUT_FIELD_DEFINITION", "DIRECTIVE_DEFINITION"]

end QueryDraft.Standard
