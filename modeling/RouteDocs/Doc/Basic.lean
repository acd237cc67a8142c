import RouteDocs.Json.Writer

/-!
# Documentation of one endpoint

What a documentation block says about a route: a summary and a description, parameters, a request
body, responses by status code and further sections under titles of their own.
-/

namespace RouteDocs
namespace Doc
def defaultContentType : String := "application/json"

inductive Location where
  | path
  | query
  | header
deriving DecidableEq

def Location.word : Location -> String
  | path => "path"
  | query => "query"
  | header => "header"

def Location.ofWord? (word : String) : Option Location := if word = "path" then some .path
  else if word = "query" then some .query
  else if word = "header" then some .header
  else none

structure Parameter where
  name : String
  location : Location
  description : String := ""
deriving DecidableEq

structure RequestBody where
  contentType : String := defaultContentType
  description : String := ""
  /-- The name of the schema, looked up when a document is assembled. -/
  schema? : Option String := none
deriving DecidableEq

structure Example where
  name : String
  summary? : Option String := none
  value : Json := .string ""

inductive Response where
  | simple (status : Int) (description : String)
  | elaborate (status : Int) (description contentType : String) (schema? : Option String)
      (examples : List Example)

def Response.status : Response -> Int
  | simple status _ => status
  | elaborate status .. => status

def Response.description : Response -> String
  | simple _ description => description
  | elaborate _ description .. => description

inductive Concern where
  | parameterLine (text : String)
  | parameterLocation (location : String)
  | strayIndentation
  | responseLine (text : String)
  | statusRange (status : Nat)
  | ignoredLines (status : Nat)
  | oddIndentation (spaces : Nat)
  | deepIndentation
  | keyLine (text : String)
  | droppedForIndentation (status : Nat)
  | droppedForDescription (status : Nat)
  | unknownMediaKey (key media : String)
  | unknownKey (key : String) (status : Nat)
  | unnamedExample
  | repeatedStatus (status : Int)
  /-- A remark that came with a documentation record rather than from a block. -/
  | remark (text : String)
deriving DecidableEq

def indentWidth : Nat := 2

def Concern.message : Concern -> String
  | parameterLine text => s!"Unrecognized parameter line: {Text.quoted text}"
  | parameterLocation location =>
    s!"Unknown parameter location {Text.quoted location}, using 'query'"
  | strayIndentation => "Indented line outside of any response entry"
  | responseLine text => s!"Unrecognized response line: {Text.quoted text}"
  | statusRange status => s!"Invalid HTTP status code {status}"
  | ignoredLines status => s!"Ignoring indented lines under simple response {status}"
  | oddIndentation spaces => s!"Indentation of {spaces} spaces is not a multiple of {indentWidth}"
  | deepIndentation => "Line is indented too deeply"
  | keyLine text => s!"Expected 'key: value', got {Text.quoted text}"
  | droppedForIndentation status => s!"Dropping response {status}: unrecognized indentation"
  | droppedForDescription status => s!"Dropping response {status}: missing 'description:'"
  | unknownMediaKey key media => s!"Unknown key {Text.quoted key} under {media}"
  | unknownKey key status => s!"Unknown key {Text.quoted key} in response {status}"
  | unnamedExample => "Example entries must start with '- name:'"
  | repeatedStatus status => s!"Response {status} documented more than once, keeping the last one"
  | remark text => text

structure Warning where
  /-- The line in the cleaned block, counted from one; zero if no line is meant. -/
  line : Int
  concern : Concern
deriving DecidableEq

def Warning.message (warning : Warning) : String := warning.concern.message
end Doc

/-- The documentation of one route. -/
structure EndpointDoc where
  summary : String := ""
  description : String := ""
  parameters : List Doc.Parameter := []
  requestBody? : Option Doc.RequestBody := none
  responses : OrderedMap Int Doc.Response := ∅
  /-- Sections under other titles, with their text. -/
  extensions : OrderedMap String String := ∅
  warnings : List Doc.Warning := []

/-- The first parameter of a name, at a given place if one is given. -/
def EndpointDoc.parameter? (doc : EndpointDoc) (name : String)
    (location? : Option String) : Option Doc.Parameter :=
  doc.parameters.find? fun parameter =>
    parameter.name == name && match location? with
      | none => true
      | some location => parameter.location.word == location

/-!
## Documentation as data

The documentation of a route is printed as JSON with all its fields in a fixed
order, those that are empty included.
-/

namespace Doc
def textOrNull : Option String -> Json
  | none => .null
  | some text => .string text

def Parameter.toJson (parameter : Parameter) : Json := .object [ ("name", .string parameter.name),
    ("location", .string parameter.location.word),
    ("description", .string parameter.description)]

def RequestBody.toJson (body : RequestBody) : Json := .object [
    ("content_type", .string body.contentType),
    ("description", .string body.description),
    ("schema_ref", textOrNull body.schema?)]

def Example.toJson (shown : Example) : Json := .object [ ("name", .string shown.name),
    ("summary", textOrNull shown.summary?),
    ("value", shown.value)]

def Response.toJson : Response -> Json
  | simple status description =>
    .object [ ("kind", .string "simple"), ("status", .int status),
      ("description", .string description)]
  | elaborate status description contentType schema? examples =>
    .object [ ("kind", .string "elaborate"), ("status", .int status),
      ("description", .string description),
      ("content_type", .string contentType),
      ("schema_ref", textOrNull schema?),
      ("examples", .array (examples.map Example.toJson))]

def Warning.toJson (warning : Warning) : Json :=
  .object [("line", .int warning.line), ("message", .string warning.message)]

/-- Numbers of double precision in printed documentation: few are written with an
exponent, which then has neither a plus sign nor leading zeros, and what is no
number is null. -/
def realStyle : Number.RealStyle where
  leastPositional := -5
  greatestPositional := 15
  plusSign := false
  exponentWidth := 1
  infinite := "null"
  undefined := "null"

def writeReal (number : Number.Binary64) : String := match number with
  | .infinite _ => realStyle.infinite
  | other => other.write realStyle

def printed : Json.Style where
  lines := true
  real := writeReal
end Doc

namespace EndpointDoc
def toJson (doc : EndpointDoc) : Json := .object [ ("summary", .string doc.summary),
    ("description", .string doc.description),
    ("parameters", .array (doc.parameters.map Doc.Parameter.toJson)),
    ("request_body", (doc.requestBody?.map Doc.RequestBody.toJson).getD .null),
    ("responses", .object (doc.responses.entries.map fun (status, response) =>
      (String.ofList (Json.intChars status), response.toJson))),
    ("extensions", .object (doc.extensions.entries.map fun (title, body) => (title, .string body))),
    ("warnings", .array (doc.warnings.map Doc.Warning.toJson))]

def toJsonText (doc : EndpointDoc) : String := Json.write Doc.printed doc.toJson
end EndpointDoc
end RouteDocs
