import RouteDocs.Record.Basic
import RouteDocs.Schema.Descriptor
import RouteDocs.Schema.Node

/-!
# Descriptors and nodes from data

Descriptors and schema nodes can be handed over as data, each with its kind.
The recursion is bounded by the depth of the data: every descriptor inside
another stands one level deeper.
-/

namespace RouteDocs.Schema
open Yaml (Value)
open Record

variable (readType : Reading Descriptor) (readNode : Reading Node)

def readField : Reading Field := record fun fields => Field.mk <$> required fields "name" text
    <*> required fields "type" readType
    <*> defaulted fields "optional" truth false

def readVariant : Reading Variant := record fun fields => Variant.mk <$> required fields "name" text
    <*> defaulted fields "fields" (listOf (readField readType)) []
    <*> defaulted fields "doc" text ""

def readDescriptorKind (kind : String) : Option (Fields -> Checked Descriptor) :=
  if kind = "primitive" then
    some fun fields => .primitive <$> required fields "name" text
  else if kind = "optional" then
    some fun fields => .optional <$> required fields "inner" readType
  else if kind = "sequence" then
    some fun fields => .sequence <$> required fields "inner" readType
  else if kind = "named" then
    some fun fields => .named <$> required fields "name" text
  else if kind = "struct" then
    some fun fields => .struct <$> required fields "name" text
      <*> defaulted fields "fields" (listOf (readField readType)) []
      <*> defaulted fields "description" text ""
  else if kind = "union" then
    some fun fields => .union <$> required fields "name" text
      <*> defaulted fields "variants" (listOf (readVariant readType)) []
  else none

def readDescriptorWithin : (depth : Nat) -> Reading Descriptor
  | 0 => fun _ => .fault .modelAttributesType
  | depth + 1 => tagged (readDescriptorKind (readDescriptorWithin depth))

def Descriptor.ofValue (value : Value) : Checked Descriptor :=
  readDescriptorWithin value.depth value

/-- Read a field of an object; its schema may stand under either of two names. -/
def readNodeField : Reading (String × Node) :=
  record fun fields => Prod.mk <$> required fields "name" text
    <*> (if (Value.find? "schema" fields).isNone && (Value.find? "schema_" fields).isSome then
        required fields "schema_" readNode
      else required fields "schema" readNode)

def readReference : Reading String := record fun fields => (fun _ name => name)
    <$> defaulted fields kindField (literal "ref") ()
    <*> required fields "name" text

def readNodeKind (kind : String) : Option (Fields -> Checked Node) :=
  if kind = "primitive" then
    some fun fields => .primitive <$> required fields "name" (oneOf Primitive.ofWord?)
  else if kind = "optional" then
    some fun fields => .optional <$> required fields "inner" readNode
  else if kind = "array" then
    some fun fields => .array <$> required fields "inner" readNode
  else if kind = "object" then
    some fun fields => .object <$> defaulted fields "fields" (listOf (readNodeField readNode)) []
      <*> defaulted fields "description" text ""
      <*> defaulted fields "tag" (nullable textPair) none
  else if kind = "ref" then
    some fun fields => .ref <$> required fields "name" text
  else if kind = "enum_ref" then
    some fun fields => .enumRef <$> required fields "name" text
  else if kind = "union" then
    some fun fields => .union <$> defaulted fields "variants" (listOf readReference) []
      <*> required fields "discriminator" text
      <*> defaulted fields "mapping" (mapOf text text) ∅
  else none

def readNodeWithin : (depth : Nat) -> Reading Node
  | 0 => fun _ => .fault .modelAttributesType
  | depth + 1 => tagged (readNodeKind (readNodeWithin depth))

def Node.ofValue (value : Value) : Checked Node := readNodeWithin value.depth value

def notNode (shown : String) : String := s!"Not a schema node: {shown}"
end RouteDocs.Schema
