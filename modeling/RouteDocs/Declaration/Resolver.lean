import RouteDocs.Declaration.Basic
import RouteDocs.Declaration.TypeExpr

/-!
# Declared types

The descriptor of a declared type is built by following the names in it.
-/

namespace RouteDocs.Declaration
open Yaml (Value)
open Schema

inductive TypeFault where
  | unknownType (name : String)
  | expression (fault : TypeExprFault)
  | variantsShape (owner : String)
  | fieldsShape (owner : String)
  | missingType (owner field : String)
  | record (faults : List Record.Fault)
  /-- Something other than a mapping where fields are looked up. -/
  | shapeless
  /-- Something where variants cannot be looked for, or not be taken from. -/
  | unsearchable
  | overflow (cause : Text.DigitOverflow)
deriving DecidableEq

def TypeFault.message : TypeFault -> String
  | unknownType name => s!"Unknown type '{name}'"
  | expression fault => fault.message
  | variantsShape owner => s!"{owner}: 'variants' must be a mapping"
  | fieldsShape owner => s!"{owner}: 'fields' must be a mapping"
  | missingType owner field => s!"{owner}.{field}: missing type"
  | record _ => "a name or a description is not a text"
  | shapeless => "something other than a mapping stands where fields are expected"
  | overflow cause => cause.message
  | unsearchable => "something other than a mapping stands where variants are expected"

abbrev Cache := OrderedMap String Descriptor

/-- A step of the resolution, which keeps what was completed even if it fails. -/
abbrev Resolution := ExceptT TypeFault (StateM Cache)

namespace Resolution

section
variable {m : Type -> Type} [Monad m] [MonadExceptOf TypeFault m] (resolve : String -> m Descriptor)

def checked {α : Type} : Record.Checked α -> m α
  | .valid value => pure value
  | .faulty faults => throw (.record faults)

def readText (member : String) (value : Value) : m String :=
  checked ((Record.text value).below (.name member))

def wordsOf (value : Value) : m String := match value.words with
  | .ok words => pure words
  | .error cause => throw (.overflow cause)

/-- The type and the optional mark of a field: a mapping gives both, anything else
is the type. -/
def fieldParts (spec : Value) : Option Value × Bool := match spec.opened with
  | .map entries =>
    ((Value.find? "type" entries).filter fun value => match value with
        | .null => false
        | _ => true,
      ((Value.find? "optional" entries).map Value.isTrue).getD false)
  | .null => (none, false)
  | _ => (some spec, false)

def typeOf (written : Value) : m Descriptor := do
  match written with
  | .brokenText pieces => throw (.expression (.broken (brokenLeaf pieces.length pieces)))
  | _ =>
    (TypeExpr.read (<- wordsOf written).toList).descriptor
      (fun fault => throw (.expression fault)) resolve

def fieldList (owner : String) : List (Value × Value) -> m (List Field)
  | [] => return []
  | (key, spec) :: rest => do
    let (type?, optional) := fieldParts spec
    match type? with
    | none => throw (.missingType owner (<- wordsOf key))
    | some type =>
      let descriptor <- typeOf resolve type
      let name <- readText "name" key
      return ⟨name, descriptor, optional⟩ :: (<- fieldList owner rest)

def fields (owner : String) (written? : Option Value) : m (List Field) :=
  match written?.map Value.opened with
  | none | some .null => return []
  | some (.map entries) => fieldList resolve owner entries
  | some _ => throw (.fieldsShape owner)

/-- The documentation of a variant and its fields: text alone is its
documentation. -/
def variantParts (spec : Value) : m (Value × Option Value) := match spec.opened with
  | .null => return (.text "", none)
  | .text doc => return (.text doc, none)
  | .brokenText pieces => return (.brokenText pieces, none)
  | .map entries => do
    let doc <- match Value.find? "doc" entries with
      | some (.brokenText pieces) => pure (.brokenText pieces)
      | some doc => pure (.text (<- wordsOf doc))
      | none => pure (.text "")
    return (doc, Value.find? "fields" entries)
  | _ => throw .shapeless

def variantList (owner : String) : List (Value × Value) -> m (List Variant)
  | [] => return []
  | (key, spec) :: rest => do
    let (doc, fields?) <- variantParts spec
    let members <- fields resolve (owner ++ "." ++ (<- wordsOf key)) fields?
    let (name, doc) <- checked (Prod.mk <$> (Record.text key).below (.name "name") <*>
      (Record.text doc).below (.name "doc"))
    return ⟨name, members, doc⟩ :: (<- variantList owner rest)

def variants (owner : String) (written : Value) : m (List Variant) :=
  match written.opened with
  | .map entries => variantList resolve owner entries
  | _ => throw (.variantsShape owner)

def isWord (word : String) : Value -> Bool
  | .text value => value = word
  | _ => false

/-- What is wrong with words in the place of the members of a type: they may seem to have
variants. -/
def wordsFault (words : String) : TypeFault :=
  if (words.splitOn "variants").length = 1 then .shapeless else .unsearchable

/-- The members of what is written about a type. Variants are looked for first,
which a text or a collection answers too; but it has none to give, and no fields. -/
def membersOf (written : Value) : m TypeSpec := match written.opened with
  | .map members => return members
  | .text words => throw (wordsFault words)
  | .brokenText pieces => throw (wordsFault (Text.escapedText pieces))
  | .list items | .set items =>
    throw (if items.any (isWord "variants") then .unsearchable else .shapeless)
  | _ => throw .unsearchable

/-- The descriptor of what is written about a type: a union if it has variants,
else a struct. -/
def build (name : String) (written : Value) : m Descriptor := do
  let spec <- membersOf written
  match Value.find? "variants" spec with
  | some members => return .union name (<- variants resolve name members)
  | none =>
    let members <- fields resolve name (Value.find? "fields" spec)
    let description <- readText "description" ((Value.find? "description" spec).getD (.text ""))
    return .struct name members description
end

/-- The descriptor of a declared type. `building` are the types around it, and
`depth` bounds how many more may be nested in it; where none may, every declared
type is among those around, and another name is not declared. -/
def descriptorWithin (types : OrderedMap String Value) :
    (depth : Nat) -> (building : List String) -> (name : String) -> Resolution Descriptor
  | 0, _, name => throw (.unknownType name)
  | depth + 1, building, name => do
    match (<- get).get? name with
    | some descriptor => return descriptor
    | none =>
      match types.get? name with
      | none | some .null => throw (.unknownType name)
      | some spec =>
        let resolve (inner : String) : Resolution Descriptor :=
          if inner ∈ name :: building then return .named inner
          else descriptorWithin types depth (name :: building) inner
        let descriptor <- build resolve name spec
        modify (·.insert name descriptor)
        return descriptor

def descriptor (types : OrderedMap String Value) (name : String) : Resolution Descriptor :=
  descriptorWithin types types.size [] name

def lookup (types : OrderedMap String Value) : Option String -> Resolution (Option Descriptor)
  | none => return none
  | some name => some <$> descriptor types name
end Resolution
end RouteDocs.Declaration
