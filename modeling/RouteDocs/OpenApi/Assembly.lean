import RouteDocs.Doc.Basic
import RouteDocs.Http.Method
import RouteDocs.Route.Registry
import RouteDocs.Schema.Node

/-!
# Documents

A document lists operations by path and method, and the registered schemas by
name.
-/

/-! ## Operations

An operation is what a document says about one route: its parameters, the body
it takes and the responses it gives. Schemas stand in operations only by name.
-/

namespace RouteDocs.OpenApi

/-- The schema of a body: a registered one, alternatives, or any object. -/
inductive BodySchema where
  | ref (name : String)
  | oneOf (names : List String)
  | anyObject
deriving DecidableEq

def BodySchema.toJson : BodySchema -> Json
  | ref name => Schema.refJson name
  | oneOf names => .object [("oneOf", .array (names.map Schema.refJson))]
  | anyObject => Schema.typeJson "object"

def BodySchema.references : BodySchema -> List String
  | ref name => [name]
  | oneOf names => names
  | anyObject => []

structure Parameter where
  name : String
  location : Doc.Location
  description : String := ""
deriving DecidableEq

/-- Whether a parameter has to be given: those in the path have to. -/
def Parameter.required (parameter : Parameter) : Bool := parameter.location = .path

def Parameter.toJson (parameter : Parameter) : Json :=
  .object ([("name", .string parameter.name), ("in", .string parameter.location.word)] ++
    (if parameter.description.isEmpty then []
      else [("description", .string parameter.description)]) ++
    [("required", .bool parameter.required), ("schema", Schema.typeJson "string")])

structure RequestBody where
  description : String
  contentType : String
  schema : BodySchema
deriving DecidableEq

def RequestBody.toJson (body : RequestBody) : Json := .object ((if body.description.isEmpty then []
      else [("description", .string body.description)]) ++
    [("content", .object [(body.contentType, .object [("schema", body.schema.toJson)])]),
      ("required", .bool true)])

def exampleJson (shown : Doc.Example) : Json := .object ((match shown.summary? with
      | none => []
      | some summary => if summary.isEmpty then [] else [("summary", .string summary)]) ++
    [("value", shown.value)])

structure Response where
  description : String
  contentType : String
  schema? : Option BodySchema
  examples : List Doc.Example := []

/-- The rendering of a response. A response without schema and examples has no
content. -/
def Response.toJson (response : Response) : Json :=
  let schema := match response.schema? with
    | none => []
    | some schema => [("schema", schema.toJson)]
  let examples := if response.examples.isEmpty then []
    else [("examples", Json.ofMembers (response.examples.map fun shown =>
      (shown.name, exampleJson shown)))]
  let media := schema ++ examples
  .object (("description", .string response.description) ::
    (if media.isEmpty then [] else [("content", .object [(response.contentType, .object media)])]))

structure Operation where
  operationId : String
  summary : String
  description : String := ""
  parameters : List Parameter := []
  requestBody? : Option RequestBody := none
  responses : OrderedMap Int Response := ∅
  /-- Further members, whose names begin with `x-`. -/
  extensions : OrderedMap String String := ∅

def Operation.toJson (operation : Operation) : Json :=
  .object ([("operationId", .string operation.operationId),
      ("summary", .string operation.summary)] ++
    (if operation.description.isEmpty then []
      else [("description", .string operation.description)]) ++
    (if operation.parameters.isEmpty then []
      else [("parameters", .array (operation.parameters.map Parameter.toJson))]) ++
    (match operation.requestBody? with
      | none => []
      | some body => [("requestBody", body.toJson)]) ++
    [("responses", .object (operation.responses.entries.map fun (status, response) =>
      (toString status, response.toJson)))] ++
    operation.extensions.entries.map fun (name, text) => (name, .string text))
end RouteDocs.OpenApi

namespace RouteDocs
namespace OpenApi
def formatVersion : String := "3.0.3"

structure Options where
  version : String := formatVersion
  description? : Option String := none
  /-- The media type of content without a declared one. -/
  defaultContentType : String := Doc.defaultContentType
deriving DecidableEq

structure Info where
  title : String
  version : String
  description? : Option String := none
deriving DecidableEq

/-- The rendering of an information object; an empty description is left out. -/
def Info.toJson (info : Info) : Json :=
  .object ([("title", .string info.title), ("version", .string info.version)] ++
    (match info.description? with
      | none => []
      | some description =>
        if description.isEmpty then [] else [("description", .string description)]))

abbrev Paths := OrderedMap String (OrderedMap Http.Method Operation)

def Paths.enter (paths : Paths) (path : String) (method : Http.Method)
    (operation : Operation) : Paths :=
  paths.insert path (((paths.get? path).getD ∅).insert method operation)
end OpenApi

structure Document where
  version : String
  info : OpenApi.Info
  paths : OpenApi.Paths
  schemas : OrderedMap String Schema.Node
  warnings : List String := []

namespace Document
def toJson (document : Document) : Json := .object [ ("openapi", .string document.version),
    ("info", document.info.toJson),
    ("paths", .object (document.paths.entries.map fun (path, operations) =>
      (path, .object (operations.entries.map fun (method, operation) =>
        (method.key, operation.toJson))))),
    ("components", .object [("schemas", .object (document.schemas.entries.map fun (name, node) =>
      (name, node.toJson)))])]

/-- How many containers may stand in one another in a document: six calls are open around it. -/
def nestingLimit : Nat := Json.callLimit - 6

/-- The JSON text of a document, if it has one: whole numbers that are too long and containers that
stand too deep are not written. -/
def toJsonText (document : Document) : Except Json.WriteFault String :=
  Json.writeWithin Json.pretty nestingLimit document.toJson
end Document

/-!
## Assembling a document

Every entry becomes one operation. Documented responses come first; a success type and the statuses
of an error type fill in what is not documented.
-/

namespace OpenApi
open Route (Entry)
open Schema

inductive AssemblyError where
  | conflict (name : String)
  | unresolved (name referrer : String)
deriving DecidableEq

def AssemblyError.message : AssemblyError -> String
  | conflict name => s!"Conflicting definitions for schema '{name}'"
  | unresolved name referrer => s!"{referrer} references unknown schema '{name}'"

/-- A step of an assembly, which collects warnings; they stand even if the
assembly fails. -/
abbrev Assembly := ExceptT AssemblyError (StateM (List String))

structure Site where
  entry : Entry
  table : Table
  options : Options

namespace Site
variable (site : Site)

def warn (message : String) : Assembly Unit := modify (· ++ [site.entry.label ++ ": " ++ message])

def require (name : String) : Assembly Unit :=
  if site.table.contains name then pure ()
  else throw (.unresolved name ("Route " ++ site.entry.label))

def reference (name : String) : Assembly BodySchema := do
  site.require name
  return .ref name

/-- The documented parameters that the operation has: one in the path has to
stand in the template. -/
def documentedParameters (site : Site) : List Doc.Parameter -> Assembly (List Parameter)
  | [] => return []
  | parameter :: rest => do
    if parameter.location = .path &&
        !(Route.parameters site.entry.path).contains parameter.name then
      site.warn s!"documented path parameter '{parameter.name}' is not in the path"
      site.documentedParameters rest
    else
      return ⟨parameter.name, parameter.location, parameter.description⟩ ::
        (<- site.documentedParameters rest)

def undocumentedParameters (site : Site) : List String -> Assembly (List Parameter)
  | [] => return []
  | name :: rest => do
    match site.entry.doc.parameter? name (some Doc.Location.path.word) with
    | some _ => site.undocumentedParameters rest
    | none =>
      site.warn s!"path parameter '{name}' is not documented"
      return ⟨name, .path, ""⟩ :: (<- site.undocumentedParameters rest)

def parameters : Assembly (List Parameter) := do
  let documented <- site.documentedParameters site.entry.doc.parameters
  return documented ++ (<- site.undocumentedParameters (Route.parameters site.entry.path))

def present? (name? : Option String) : Option String := name?.filter fun name => !name.isEmpty

/-- The body that the operation takes. A documented schema comes before the
declared type. -/
def requestBody? : Assembly (Option RequestBody) := do
  let documented? := site.entry.doc.requestBody?
  let schemaName? := (present? (documented?.bind (·.schema?))).or site.entry.request?
  if documented?.isNone && schemaName?.isNone then
    return none
  let schema <- match present? schemaName? with
    | some name => site.reference name
    | none => pure .anyObject
  return some {
    description := (documented?.map (·.description)).getD ""
    contentType := (documented?.map (·.contentType)).getD site.options.defaultContentType
    schema := schema }

/-- The statuses of the route's error type. A type without a status map answers
with an internal error. -/
def errorMap : StatusMap := match site.entry.error? with
  | none => ∅
  | some name =>
    match site.table.statusMap? name with
    | some statuses => statuses
    | none =>
      OrderedMap.empty.insert (Http.internalError : Int)
        ⟨Http.internalError, name ++ " error", [name]⟩

def errorSchema (error : ErrorResponse) : Assembly BodySchema := do
  error.schemas.forM site.require
  match error.schemas with
  | [name] => return .ref name
  | names => return .oneOf names

def inferredSchema (status : Int) : Assembly (Option BodySchema) := do
  let error? := site.errorMap.get? status
  match (if Http.isSuccess status then present? site.entry.success? else none), error? with
  | some name, _ => return some (<- site.reference name)
  | none, some error => return some (<- site.errorSchema error)
  | none, none => return none

def documentedResponse (status : Int) : Doc.Response -> Assembly Response
  | .simple _ description => do
    let schema? <- site.inferredSchema status
    return ⟨description, site.options.defaultContentType, schema?, []⟩
  | .elaborate _ description contentType schemaName? examples => do
    let schema? <- match present? schemaName? with
      | some name => some <$> site.reference name
      | none => site.inferredSchema status
    return ⟨description, contentType, schema?, examples⟩

def addDocumented (site : Site) (responses : OrderedMap Int Response) :
    List (Int × Doc.Response) -> Assembly (OrderedMap Int Response)
  | [] => return responses
  | (status, doc) :: rest => do
    let response <- site.documentedResponse status doc
    site.addDocumented (responses.insert status response) rest

def documentsSuccess : Bool := site.entry.doc.responses.keys.any Http.isSuccess

def addSuccess (responses : OrderedMap Int Response) : Assembly (OrderedMap Int Response) := do
  match present? site.entry.success? with
  | none => return responses
  | some name =>
    if site.documentsSuccess then
      return responses
    let schema <- site.reference name
    return responses.insert Http.success
      ⟨s!"Successfully returned {name}", site.options.defaultContentType, some schema, []⟩

/-- Add the responses of those statuses of the error type that are not
documented. -/
def addErrors (site : Site) (responses : OrderedMap Int Response) :
    List (Int × ErrorResponse) -> Assembly (OrderedMap Int Response)
  | [] => return responses
  | (status, error) :: rest => do
    if site.entry.doc.responses.contains status then
      site.addErrors responses rest
    else
      let schema <- site.errorSchema error
      site.addErrors (responses.insert status
        ⟨(site.entry.error?.getD "") ++ " error", site.options.defaultContentType, some schema, []⟩)
        rest

def responses : Assembly (OrderedMap Int Response) := do
  let documented <- site.addDocumented ∅ site.entry.doc.responses.entries
  let successful <- site.addSuccess documented
  let responses <- site.addErrors successful site.errorMap.entries
  if responses.isEmpty then
    site.warn "no responses documented or inferred"
  return responses

def slug (title : String) : Chars :=
  Text.trimWhile (· == '-') (Text.collapse (fun c => c.isLower || c.isDigit) '-'
    (Text.lower title.toList))

def extensions : OrderedMap String String :=
  OrderedMap.ofList (site.entry.doc.extensions.entries.map fun (title, text) =>
    (String.ofList ('x' :: '-' :: slug title), text))

def operation : Assembly Operation := do
  let doc := site.entry.doc
  if doc.summary.isEmpty then
    site.warn "no summary documented"
  let parameters <- site.parameters
  let requestBody? <- site.requestBody?
  let responses <- site.responses
  return {
    operationId := Route.operationId site.entry.method.name site.entry.path
    summary := if doc.summary.isEmpty then site.entry.label else doc.summary
    description := doc.description
    parameters, requestBody?, responses
    extensions := site.extensions }
end Site

/-- A name that some schema refers to and that no schema has, with the schema
that refers to it. -/
def danglingReference? (table : Table) : Option (String × String) :=
  table.schemas.entries.findSome? fun (name, node) =>
    (node.references.find? fun target => !table.contains target).map fun target => (target, name)

def addOperations (table : Table) (options : Options) (paths : Paths) : List Entry -> Assembly Paths
  | [] => return paths
  | entry :: rest => do
    let operation <- Site.operation ⟨entry, table, options⟩
    addOperations table options
      (paths.enter (Route.documentPath entry.path) entry.method operation) rest

def assembly (info : Info) (entries : List Entry) (table : Table) (options : Options) :
    Assembly Document := do
  match table.conflicts with
  | name :: _ => throw (.conflict name)
  | [] => pure ()
  match danglingReference? table with
  | some (target, name) => throw (.unresolved target s!"Schema '{name}'")
  | none => pure ()
  let paths <- addOperations table options ∅ entries
  return {
    version := options.version
    info, paths
    schemas := table.schemas
    warnings := table.warnings ++ (<- get) }
end OpenApi

/-- The document of a registry, or why there is none, and the notices given. -/
def Registry.assemble (registry : Registry) (title version : String)
    (options : OpenApi.Options := {}) : Except OpenApi.AssemblyError Document × List Notice :=
  let info := ⟨title, version, options.description?⟩
  let (answer, warnings) :=
    (OpenApi.assembly info registry.entries registry.table options).run.run []
  (answer, warnings.map .assembly)
end RouteDocs
