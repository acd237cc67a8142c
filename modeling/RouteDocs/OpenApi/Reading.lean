import RouteDocs.OpenApi.Assembly
import RouteDocs.Record.Basic

/-!
# Options and information from data
-/

namespace RouteDocs.OpenApi
open Record

def Options.ofValue : Reading Options := record fun fields => Options.mk
    <$> defaulted fields "openapi_version" text formatVersion
    <*> defaulted fields "description" (nullable text) none
    <*> defaulted fields "default_content_type" text Doc.defaultContentType

def Info.ofValue : Reading Info := record fun fields => Info.mk <$> required fields "title" text
    <*> required fields "version" text
    <*> defaulted fields "description" (nullable text) none
end RouteDocs.OpenApi
