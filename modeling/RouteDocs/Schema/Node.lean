import RouteDocs.Json.Writer

/-!
# Schema nodes

A schema node is what a type becomes in a document: structs and unions are registered under their
names and referred to, everything else stands where it is used.
-/

namespace RouteDocs.Schema
inductive Primitive where
  | integer
  | number
  | string
  | boolean
deriving DecidableEq

def Primitive.word : Primitive -> String
  | integer => "integer"
  | number => "number"
  | string => "string"
  | boolean => "boolean"

def Primitive.ofWord? (word : String) : Option Primitive := if word = "integer" then some .integer
  else if word = "number" then some .number
  else if word = "string" then some .string
  else if word = "boolean" then some .boolean
  else none

def primitiveNames : List (String × Primitive) := [
  ("integer", .integer), ("int", .integer), ("i8", .integer), ("i16", .integer),
  ("i32", .integer), ("i64", .integer), ("u8", .integer), ("u16", .integer),
  ("u32", .integer), ("u64", .integer), ("isize", .integer), ("usize", .integer),
  ("number", .number), ("float", .number), ("f32", .number), ("f64", .number),
  ("decimal", .number), ("string", .string), ("str", .string), ("String", .string),
  ("char", .string), ("boolean", .boolean), ("bool", .boolean)]

def primitive? (name : String) : Option Primitive := primitiveNames.lookup name

inductive Node where
  | primitive (type : Primitive)
  /-- A value that may be absent. -/
  | optional (inner : Node)
  | array (inner : Node)
  /-- Fields in order; a variant's object has a tag, the property that holds the
  variant's name. -/
  | object (fields : List (String × Node)) (description : String) (tag? : Option (String × String))
  | ref (name : String)
  | enumRef (name : String)
  /-- Alternatives told apart by a property, whose values lead to names. -/
  | union (variants : List String) (discriminator : String) (mapping : OrderedMap String String)

instance : Inhabited Node := ⟨.ref ""⟩

namespace Node

mutual

/-- Whether two nodes are the same; the order of a union's mapping does not
count. -/
def same : Node -> Node -> Bool
  | primitive a, primitive b => a == b
  | optional a, optional b => a.same b
  | array a, array b => a.same b
  | object fs d t, object gs e u => sameFields fs gs && d == e && t == u
  | ref a, ref b => a == b
  | enumRef a, enumRef b => a == b
  | union vs d m, union ws e n => vs == ws && d == e && OrderedMap.sameEntries (· == ·) m n
  | _, _ => false

def sameFields : List (String × Node) -> List (String × Node) -> Bool
  | [], [] => true
  | (a, m) :: fs, (b, n) :: gs => a == b && m.same n && sameFields fs gs
  | _, _ => false
end

def isOptional : Node -> Bool
  | optional _ => true
  | _ => false

def stripOptional : Node -> Node
  | optional inner => inner
  | node => node

mutual

/-- The names that a node refers to, in order and with repetitions. -/
def references : Node -> List String
  | ref name | enumRef name => [name]
  | optional inner | array inner => inner.references
  | object fields _ _ => fieldReferences fields
  | union variants _ _ => variants
  | primitive _ => []

def fieldReferences : List (String × Node) -> List String
  | [] => []
  | (_, node) :: rest => node.references ++ fieldReferences rest
end
end Node

def componentPath (name : String) : String := "#/components/schemas/" ++ name
def refJson (name : String) : Json := .object [("$ref", .string (componentPath name))]
def typeJson (type : String) : Json := .object [("type", .string type)]

def tagJson (value : String) : Json :=
  .object [("type", .string "string"), ("enum", .array [.string value])]

def objectJson (description : String) (properties : List (String × Json))
    (required : List String) : Json :=
  .object ([("type", .string "object")] ++
    (if description.isEmpty then [] else [("description", .string description)]) ++
    [("properties", Json.ofMembers properties)] ++
    (if required.isEmpty then [] else [("required", Json.texts required)]))

namespace Node

mutual
def toJson : Node -> Json
  | primitive type => typeJson type.word
  | optional inner => inner.toJson
  | array inner => .object [("type", .string "array"), ("items", inner.toJson)]
  | ref name | enumRef name => refJson name
  | union variants discriminator mapping =>
    .object [("oneOf", .array (variants.map refJson)),
      ("discriminator", .object [("propertyName", .string discriminator),
        ("mapping", .object (mapping.entries.map fun (value, name) =>
          (value, .string (componentPath name))))])]
  | object fields description tag? =>
    objectJson description ((tag?.map fun (property, value) => (property, tagJson value)).toList ++
        propertiesJson fields)
      ((tag?.map Prod.fst).toList ++ requiredFields fields)

def propertiesJson : List (String × Node) -> List (String × Json)
  | [] => []
  | (name, node) :: rest => (name, node.toJson) :: propertiesJson rest

def requiredFields : List (String × Node) -> List String
  | [] => []
  | (name, node) :: rest =>
    if node.isOptional then requiredFields rest else name :: requiredFields rest
end
end Node
end RouteDocs.Schema
