import RouteDocs.Record.Basic

/-!
# Declarations

A declaration file gives the title of an interface, its types and its routes.
The types stay as they are written; their fields and variants are looked at only
when they are needed.
-/

namespace RouteDocs
namespace Declaration
open Yaml (Value)
open Record

structure RouteDeclaration where
  method : String
  path : String
  doc : String := ""
  response? : Option String := none
  error? : Option String := none
  body? : Option String := none
deriving DecidableEq

abbrev TypeSpec := List (Value × Value)

/-- Read what is written about a type: a mapping whose keys are texts. -/
def readTypeSpec (value : Value) : Checked TypeSpec := match value.opened with
  | .map entries => (entriesOf text .valid entries).map fun members =>
    (OrderedMap.ofList members).entries.map fun (name, value) => (.text name, value)
  | _ => .fault .dictType

def readRoute : Reading RouteDeclaration := record fun fields => RouteDeclaration.mk
    <$> required fields "method" text
    <*> required fields "path" text
    <*> defaulted fields "doc" text ""
    <*> defaulted fields "response" (nullable text) none
    <*> defaulted fields "error" (nullable text) none
    <*> defaulted fields "body" (nullable text) none
end Declaration

open Declaration Record

structure Declarations where
  title : String := "API"
  version : String := "0.1.0"
  description? : Option String := none
  types : OrderedMap String TypeSpec := ∅
  routes : List RouteDeclaration := []

namespace Declarations
def specs (declarations : Declarations) : OrderedMap String Yaml.Value :=
  declarations.types.mapValues fun _ spec => .map spec

def ofFields (fields : Fields) : Checked Declarations := Declarations.mk
    <$> defaulted fields "title" text "API"
    <*> defaulted fields "version" text "0.1.0"
    <*> defaulted fields "description" (nullable text) none
    <*> defaulted fields "types" (mapOf text readTypeSpec) ∅
    <*> defaulted fields "routes" (listOf readRoute) []

inductive ShapeFault where
  | notMapping
  | foreignKey
  | record (faults : List Record.Fault)
deriving DecidableEq

def ofValue (value : Yaml.Value) : Except ShapeFault Declarations := match value.opened with
  | .map entries =>
    if entries.all fun (key, _) => match key with
        | .text _ | .brokenText _ => true
        | _ => false
    then ((ofFields entries).toExcept).mapError .record
    else .error .foreignKey
  | _ => .error .notMapping
end Declarations
end RouteDocs
