namespace QueryDraft.Command

def usageLine : String := "Usage: gql-opgen [OPTIONS] SOURCE [OUTPUT]"

def usageHint : String := "Try 'gql-opgen --help' for help."

def versionLine : String := "gql-opgen, version 0.1.0"

def helpLines : List String := [
  usageLine,
  "",
  "  Generate one GraphQL operation per root field of a schema.",
  "",
  "  SOURCE is a GraphQL endpoint URL or a pre-fetched introspection JSON file.",
  "  OUTPUT defaults to ./query.graphql.",
  "",
  "  Examples:",
  "",
  "      gql-opgen https://api.example.com/graphql",
  "",
  "      gql-opgen https://api.example.com/graphql ops.graphql --depth 3",
  "",
  "      gql-opgen schema.json ops.graphql --depth 0",
  "",
  "Options:",
  "  -d, --depth INTEGER RANGE  Maximum selection depth. 0 means auto: stop only at",
  "                             cycles.  [default: 7; x>=0]",
  "  --token TEXT               Bearer token sent with the introspection request.",
  "  -H, --header TEXT          Extra request header as 'Name: value'. Can be",
  "                             repeated.",
  "  --timeout FLOAT            Request timeout in seconds.  [default: 30.0]",
  "  --skip-deprecated          Leave deprecated fields out of selections.",
  "  --no-format                Write the raw document without pretty-printing.",
  "  -v, --verbose              Enable verbose output.",
  "  --version                  Show the version and exit.",
  "  --help                     Show this message and exit."]

end QueryDraft.Command
