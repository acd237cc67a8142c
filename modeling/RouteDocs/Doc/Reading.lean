import RouteDocs.Doc.Basic
import RouteDocs.Record.Basic

/-!
# Documentation from data

The documentation of a route can be handed over as data instead of a block of
text.
-/

namespace RouteDocs
namespace Doc
open Record

def readParameter : Reading Parameter := record fun fields => Parameter.mk
    <$> required fields "name" text
    <*> required fields "location" (oneOf Location.ofWord?)
    <*> defaulted fields "description" text ""

def readRequestBodyRecord : Reading RequestBody := record fun fields => RequestBody.mk
    <$> defaulted fields "content_type" text defaultContentType
    <*> defaulted fields "description" text ""
    <*> defaulted fields "schema_ref" (nullable text) none

def readExample : Reading Example := record fun fields => Example.mk <$> required fields "name" text
    <*> defaulted fields "summary" (nullable text) none
    <*> defaulted fields "value" (fun value => .valid value.toJson) (.string "")

def readResponseKind (kind : String) : Option (Fields -> Checked Response) := if kind = "simple" then
    some fun fields => .simple <$> required fields "status" integer
      <*> required fields "description" text
  else if kind = "elaborate" then
    some fun fields => .elaborate <$> required fields "status" integer
      <*> required fields "description" text
      <*> defaulted fields "content_type" text defaultContentType
      <*> defaulted fields "schema_ref" (nullable text) none
      <*> defaulted fields "examples" (listOf readExample) []
  else none

def readWarning : Reading Warning :=
  record fun fields => (fun line message => ⟨line, .remark message⟩)
    <$> required fields "line" integer
    <*> required fields "message" text
end Doc

open Record

def EndpointDoc.ofValue : Reading EndpointDoc := record fun fields => EndpointDoc.mk
    <$> defaulted fields "summary" text ""
    <*> defaulted fields "description" text ""
    <*> defaulted fields "parameters" (listOf Doc.readParameter) []
    <*> defaulted fields "request_body" (nullable Doc.readRequestBodyRecord) none
    <*> defaulted fields "responses" (mapOf integer (tagged Doc.readResponseKind)) ∅
    <*> defaulted fields "extensions" (mapOf text text) ∅
    <*> defaulted fields "warnings" (listOf Doc.readWarning) []
end RouteDocs
