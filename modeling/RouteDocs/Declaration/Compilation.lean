import RouteDocs.Declaration.Resolver
import RouteDocs.OpenApi.Assembly
import RouteDocs.Text.Glob

/-!
# Compiling declarations

The routes of a declaration file are registered in order, then all its types, so
that types no route uses are in the document too.
-/

namespace RouteDocs.Declaration
open Text

/-- A pattern cut at its first blanks, if there is something behind them. -/
def splitPattern (pattern : Chars) : Option (Chars × Chars) :=
  let text := trimStart pattern
  match trimStart (text.dropWhile fun c => !isBlank c) with
  | [] => none
  | path => some (text.takeWhile fun c => !isBlank c, path)

def matchesPattern (method path pattern : String) : Bool := match splitPattern pattern.toList with
  | some (word, glob) =>
    upper word == upper method.toList && globMatches glob path.toList
  | none => globMatches pattern.toList path.toList

def matchesSome (method path : String) (patterns : List String) : Bool :=
  patterns.any (matchesPattern method path)

inductive CompileError where
  | types (fault : TypeFault)
  | registration (cause : Route.RegistrationError)
  | assembly (cause : OpenApi.AssemblyError)
deriving DecidableEq

def CompileError.message : CompileError -> String
  | types fault => fault.message
  | registration cause => cause.message
  | assembly cause => cause.message

structure Progress where
  registry : Registry := {}
  cache : Cache := ∅
  notices : List Notice := []

abbrev Compilation := ExceptT CompileError (StateM Progress)

namespace Compilation
def resolve {α : Type} (step : Resolution α) : Compilation α := do
  let (answer, cache) := step.run (<- get).cache
  modify fun progress => { progress with cache }
  match answer with
  | .ok value => return value
  | .error fault => throw (.types fault)

def registering {α : Type} (step : Registry -> Registry.Outcome α) : Compilation α := do
  let outcome := step (<- get).registry
  modify fun progress =>
    { progress with
      registry := outcome.registry
      notices := progress.notices ++ outcome.notices }
  match outcome.answer with
  | .ok value => return value
  | .error cause => throw (.registration cause)

variable (declarations : Declarations) (patterns : List String) (route : RouteDeclaration)

def addRoute : Compilation Unit := do
  let success? <- resolve (.lookup declarations.specs route.response?)
  let error? <- resolve (.lookup declarations.specs route.error?)
  let body? <- resolve (.lookup declarations.specs route.body?)
  let _ <- registering (·.register {
    method := route.method
    path := route.path
    doc := .block route.doc
    success? := success?.map .descriptor
    error? := error?.map .descriptor
    body? := body?.map .descriptor })

def addType (name : String) : Compilation Unit := do
  let descriptor <- resolve (.descriptor declarations.specs name)
  registering (·.registerType (.descriptor descriptor))

def isSelected : Bool := patterns.isEmpty || matchesSome route.method route.path patterns

def register : Compilation Unit := do
  (declarations.routes.filter (isSelected patterns)).forM (addRoute declarations)
  declarations.types.keys.forM (addType declarations)

def assemble (version : String) : Compilation Document := do
  let (answer, notices) := (<- get).registry.assemble declarations.title declarations.version
    { version, description? := declarations.description? }
  modify fun progress => { progress with notices := progress.notices ++ notices }
  match answer with
  | .ok document => return document
  | .error cause => throw (.assembly cause)

def document (version : String := OpenApi.formatVersion) : Compilation Document := do
  register declarations patterns
  assemble declarations version
end Compilation
end RouteDocs.Declaration
