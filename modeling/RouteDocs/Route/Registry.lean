import RouteDocs.Doc.Block
import RouteDocs.Http.Method
import RouteDocs.Route.Path
import RouteDocs.Schema.Synthesis

/-!
# The route registry

Routes are registered with their documentation and the types they answer and take.
-/

namespace RouteDocs
namespace Route
open Schema

/-- A registered route; the schemas of its types are named. -/
structure Entry where
  method : Http.Method
  path : String
  doc : EndpointDoc
  success? : Option String := none
  error? : Option String := none
  request? : Option String := none

/-- What an entry is found by: no two entries have the same key. -/
def Entry.key (entry : Entry) : Http.Method × List Segment := (entry.method, segments entry.path)
def Entry.label (entry : Entry) : String := entry.method.name ++ " " ++ entry.path

inductive Documentation where
  /-- A block that has yet to be read. -/
  | block (text : String)
  | parsed (doc : EndpointDoc)

def Documentation.read : Documentation -> Except Doc.ReadFault EndpointDoc
  | block text => EndpointDoc.ofText text
  | parsed doc => .ok doc

def Documentation.notices (documentation : Documentation) (doc : EndpointDoc) : List Notice :=
  match documentation with
  | block _ => doc.warnings.map .documentation
  | parsed _ => []

structure Request where
  method : String
  path : String
  doc : Documentation := .block ""
  success? : Option Candidate := none
  error? : Option Candidate := none
  body? : Option Candidate := none

inductive RegistrationError where
  | unsupportedMethod (method : String)
  | duplicate (method path : String)
  | frozenRoute (method path : String)
  | frozenType (name : String)
  | frozenUnnamed
  | unread (cause : Doc.ReadFault)
  | synthesis (cause : Failure)
deriving DecidableEq

def RegistrationError.message : RegistrationError -> String
  | unsupportedMethod method => s!"Unsupported HTTP method '{method}'"
  | duplicate method path => s!"Route already registered: {method} {path}"
  | frozenRoute method path => s!"Cannot register {method} {path}: registry is frozen"
  | frozenType name => s!"Cannot register type {name}: registry is frozen"
  | frozenUnnamed => "Cannot register a type without a name: registry is frozen"
  | unread cause => cause.message
  | synthesis cause => cause.message

/-- The name of the schema of a route's type. A type that is only named is not
synthesized; it may be registered later. -/
def schemaName (label : String) : Option Candidate -> Synthesis Node (Option String)
  | none => return none
  | some (.descriptor (.named name)) => return some name
  | some (.descriptor (.struct name fields description)) => do
    let _ <- Synthesis.inside label (.ofDescriptor (.struct name fields description))
    return some name
  | some (.descriptor (.union name variants)) => do
    let _ <- Synthesis.inside label (.ofDescriptor (.union name variants))
    return some name
  | some _ => .fail (.inside label .unnamedRouteType)
end Route

/-- Routes, their schemas, and the memo of what was synthesized. -/
structure Registry where
  entries : List Route.Entry := []
  table : Schema.Table := {}
  memo : OrderedMap String Schema.Descriptor := ∅
  frozen : Bool := false
deriving Inhabited

namespace Registry
open Route Schema

structure Outcome (α : Type) where
  answer : Except RegistrationError α
  registry : Registry
  notices : List Notice := []

def synthesize {α : Type} (registry : Registry) (step : Synthesis Node α) : Outcome α :=
  let (answer, session) := step.staged.run { table := registry.table, memo := registry.memo }
  { answer := answer.mapError .synthesis
    registry := { registry with table := session.table, memo := session.memo }
    notices := session.notices }

def isTaken (registry : Registry) (method : Http.Method) (path : String) : Bool :=
  registry.entries.any fun entry => entry.key = (method, segments path)

def entryOf (method : Http.Method) (doc : EndpointDoc) (request : Request) :
    Synthesis Node Entry := do
  let label := method.name ++ " " ++ request.path
  let success? <- schemaName label request.success?
  let error? <- schemaName label request.error?
  let body? <- schemaName label request.body?
  return ⟨method, request.path, doc, success?, error?, body?⟩

def register (registry : Registry) (request : Request) : Outcome Entry :=
  let capitals := Http.capitalized request.method
  match Http.Method.ofName? capitals with
  | none => { answer := .error (.unsupportedMethod capitals), registry }
  | some method =>
    match request.doc.read with
    | .error cause => { answer := .error (.unread cause), registry }
    | .ok doc =>
      let read := request.doc.notices doc
      if registry.frozen then
        { answer := .error (.frozenRoute capitals request.path), registry, notices := read }
      else if registry.isTaken method request.path then
        { answer := .error (.duplicate capitals request.path), registry, notices := read }
      else
        let outcome := registry.synthesize (entryOf method doc request)
        match outcome.answer with
        | .error cause =>
          { outcome with answer := .error cause, notices := read ++ outcome.notices }
        | .ok entry =>
          { answer := .ok entry
            registry := { outcome.registry with entries := outcome.registry.entries ++ [entry] }
            notices := read ++ outcome.notices ++ [.registered capitals request.path] }

def registerType (registry : Registry) (type : Candidate) : Outcome Unit := if registry.frozen then
    let cause := match type with
      | .descriptor descriptor => match descriptor.name? with
        | some name => .frozenType name
        | none => .frozenUnnamed
      | .foreign _ => .frozenUnnamed
    { answer := .error cause, registry }
  else
    registry.synthesize (do let _ <- type.synthesize)

def freeze (registry : Registry) : Registry :=
  { registry with frozen := true, table := registry.table.freeze }
end Registry
end RouteDocs
