import RouteDocs.Class.Description
import RouteDocs.OpenApi.Publication

/-!
# Documented routers

A router collects handlers with their documentation and types.
-/

namespace RouteDocs

/-- A router: what its document is about, and what was added to it. A handler is
known by its method and by its path as given. -/
structure Router where
  title : String
  version : String
  options : OpenApi.Options := {}
  catalog : Class.Catalog := {}
  /-- What descriptions of classes have left behind. -/
  memory : Class.Memory := {}
  registry : Registry := {}
  handlers : List (Http.Method × String) := []
  document? : Option Document := none

namespace Router
open Schema

inductive TypeSource where
  | named (schema : String)
  | descriptor (type : Descriptor)
  | hinted (hint : Class.Hint)

/-- The description of a type. What is changed in memory in the course of it stays changed if
it fails. -/
abbrev Typing := ExceptT Class.TargetFault (StateM Class.Memory)

/-- The type of a source. A descriptor has to be of a type with a name; of hints, nothing is no
type, and text is the name of a schema. -/
def TypeSource.candidate? (catalog : Class.Catalog) : TypeSource -> Typing (Option Candidate)
  | named schema => return some (.descriptor (.named schema))
  | hinted (.text pieces) => return some (.descriptor (.named (Text.escapedText pieces)))
  | descriptor type =>
    match type.name?, type with
    | none, _ | _, .primitive _ => throw .genericForm
    | _, _ => return some (.descriptor type)
  | hinted .nothing => return none
  | hinted hint => do
    return some (.descriptor (<- Class.describe catalog hint).descriptor)

def candidate? (catalog : Class.Catalog) : Option TypeSource -> Typing (Option Candidate)
  | none => return none
  | some source => source.candidate? catalog

structure Handler where
  method : String
  path : String
  doc : String := ""
  response? : Option TypeSource := none
  error? : Option TypeSource := none
  body? : Option TypeSource := none

inductive Refusal where
  | type (fault : Class.TargetFault)
  | registration (cause : Route.RegistrationError)
  | assembly (cause : OpenApi.AssemblyError)
  | publication (fault : OpenApi.PublishFault)
deriving DecidableEq

abbrev Outcome (α : Type) := Except Refusal α × Router

variable (router : Router) (catalog : Class.Catalog) (handler : Handler)

/-- The registration of a handler. The margin of its documentation is cut off. -/
def Handler.request : Typing Route.Request := do
  return {
    method := handler.method
    path := handler.path
    doc := .block (String.ofList (Text.cleanBlock handler.doc.toList))
    success? := <- candidate? catalog handler.response?
    error? := <- candidate? catalog handler.error?
    body? := <- candidate? catalog handler.body? }

/-- Handlers with one more; one that is there already keeps its place. -/
def addHandler (handlers : List (Http.Method × String)) (handler : Http.Method × String) :
    List (Http.Method × String) :=
  if handler ∈ handlers then handlers else handlers ++ [handler]

def addRoute : Outcome Route.Entry :=
  let (answer, memory) := (handler.request router.catalog).run.run router.memory
  match answer with
  | .error fault => (.error (.type fault), { router with memory })
  | .ok request =>
    let outcome := router.registry.register request
    let after := { router with memory, registry := outcome.registry }
    match outcome.answer with
    | .error cause => (.error (.registration cause), after)
    | .ok entry =>
      (.ok entry, { after with
        handlers := addHandler router.handlers (entry.method, handler.path) })

def addSchema (source? : Option TypeSource) : Outcome Unit :=
  let (answer, memory) := (candidate? router.catalog source?).run.run router.memory
  match answer with
  | .error fault => (.error (.type fault), { router with memory })
  | .ok type? =>
    let outcome := router.registry.registerType (type?.getD (.foreign "None"))
    (outcome.answer.mapError .registration, { router with memory, registry := outcome.registry })

/-- Register types, one after another, up to the first that is refused. -/
def addSchemas : Router -> List (Option TypeSource) -> Outcome Unit
  | router, [] => (.ok (), router)
  | router, source? :: rest =>
    match router.addSchema source? with
    | (.error refusal, after) => (.error refusal, after)
    | (.ok (), after) => after.addSchemas rest

def document (router : Router) : Outcome Document := match router.document? with
  | some document => (.ok document, router)
  | none =>
    match (router.registry.assemble router.title router.version router.options).1 with
    | .error cause => (.error (.assembly cause), router)
    | .ok document =>
      (.ok document, { router with document? := some document, registry := router.registry.freeze })

def publications (text : String := OpenApi.defaultPrefix) : Outcome (List OpenApi.Publication) :=
  match router.document with
  | (.error refusal, after) => (.error refusal, after)
  | (.ok document, after) => ((OpenApi.publish document text).mapError .publication, after)
end Router
end RouteDocs
