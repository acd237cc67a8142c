import RouteDocs.Declaration.Basic
import RouteDocs.Yaml.Reader

/-!
# Declaration files

A declaration file is a YAML text, of which JSON texts are a special case.
-/

namespace RouteDocs.Declarations
inductive LoadError where
  | text (fault : Yaml.Fault)
  | shape (fault : ShapeFault)
deriving DecidableEq

def LoadError.message (file : String) : LoadError -> String
  | .text fault => s!"{file}: {fault.message}"
  | .shape .notMapping => s!"{file}: expected a mapping at the top level"
  | .shape .foreignKey => s!"{file}: a key at the top level is not a text"
  | .shape (.record faults) => s!"{file}: {faults.length} faults"

def ofFile (content : String) : Except LoadError Declarations := do
  let value <- (Yaml.read (Text.normalizeLineEnds content.toList)).mapError .text
  (ofValue value).mapError .shape
end RouteDocs.Declarations
