import RouteDocs.OpenApi.Assembly
import RouteDocs.Yaml.Writer

/-!
# Publishing a document

A document is rendered as JSON or as YAML, and published in both forms under one
prefix.
-/

namespace RouteDocs

/-- The YAML text of a document. How deep containers may stand in it is left open. -/
def Document.toYamlText (document : Document) : Except Json.WriteFault String :=
  if document.toJson.wholeNumbers.all Json.isShort then .ok (Yaml.write document.toJson)
  else .error (.overflow .written)

namespace OpenApi
inductive Format where
  | json
  | yaml
deriving DecidableEq

def Format.ofName? (name : String) : Option Format := if name = "json" then some .json
  else if name = "yaml" then some .yaml
  else none

def unknownFormat (name : String) : String := s!"Unknown output format: {name}"

def render (format : Format) (document : Document) : Except Json.WriteFault String :=
  match format with
  | .json => document.toJsonText
  | .yaml => document.toYamlText

/-- Whether a document in a format can be encoded. YAML text escapes surrogates that
stand alone, and JSON text would have to keep them. -/
def isEncodable (format : Format) (document : Document) : Bool :=
  format = .yaml || document.toJson.isSound

def Format.mediaType : Format -> String
  | json => "application/json"
  | yaml => "application/yaml"

def Format.suffix : Format -> String
  | json => ".json"
  | yaml => ".yaml"

def defaultPrefix : String := "/openapi"

structure InvalidPrefix where
  text : String
deriving DecidableEq

def InvalidPrefix.message (fault : InvalidPrefix) : String :=
  s!"Invalid publishing prefix: {Text.quoted fault.text}"

def normalizePrefix (text : String) : Except InvalidPrefix String :=
  match Text.trimWhile (· == '/') (Text.trim text.toList) with
  | [] => .error ⟨text⟩
  | trimmed => .ok (String.ofList ('/' :: trimmed))

structure Publication where
  path : String
  mediaType : String
  body : String
deriving DecidableEq

def publishAs (base : String) (document : Document) (format : Format) :
    Except Json.WriteFault Publication :=
  (render format document).map (⟨base ++ format.suffix, format.mediaType, ·⟩)

/-- Why nothing is published. -/
inductive PublishFault where
  | invalidPrefix (fault : InvalidPrefix)
  | unwritten (cause : Json.WriteFault)
deriving DecidableEq

def publish (document : Document) (text : String := defaultPrefix) :
    Except PublishFault (List Publication) := do
  let base <- (normalizePrefix text).mapError .invalidPrefix
  [.json, .yaml].mapM fun format => (publishAs base document format).mapError .unwritten
end OpenApi
end RouteDocs
