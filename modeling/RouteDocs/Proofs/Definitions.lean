import Mathlib.Data.List.Basic
import RouteDocs.Proofs.OrderedMap
import RouteDocs.Schema.Synthesis

namespace RouteDocs.Schema

/-!
# What a descriptor defines

The synthesis builds the types of a descriptor one after another, with a memo and a list of types
under construction. None of this has a say in *what* is built: the node of a type is read off the
type itself, and a type inside it counts by its name only. `types` lists the structs and unions of
a descriptor in the order in which they are completed, and `ownDefinitions` gives what one of them
puts into the table. `Sound` collects everything a descriptor must satisfy to be synthesized.
-/

mutual

/-- The structs and unions in a descriptor, each after the ones inside it. -/
def Descriptor.types : Descriptor -> List Descriptor
  | .optional inner | .sequence inner => inner.types
  | .struct name fields about => fieldTypes fields ++ [.struct name fields about]
  | .union name variants => variantTypes variants ++ [.union name variants]
  | .primitive _ | .named _ => []

def fieldTypes : List Field -> List Descriptor
  | [] => []
  | ⟨_, type, _⟩ :: rest => type.types ++ fieldTypes rest

def variantTypes : List Variant -> List Descriptor
  | [] => []
  | ⟨_, fields, _⟩ :: rest => fieldTypes fields ++ variantTypes rest
end

theorem mem_fieldTypes : type ∈ fieldTypes fields ↔ ∃ field ∈ fields, type ∈ field.type.types := by
  induction fields with
  | nil => simp [fieldTypes]
  | cons field rest ih =>
    cases field
    simp [fieldTypes, ih]

theorem mem_variantTypes :
    type ∈ variantTypes variants ↔ ∃ variant ∈ variants, type ∈ fieldTypes variant.fields := by
  induction variants with
  | nil => simp [variantTypes]
  | cons variant rest ih =>
    cases variant
    simp [variantTypes, ih]

mutual

/-- The types in a descriptor that are only named. -/
def Descriptor.namedTypes : Descriptor -> List String
  | .named name => [name]
  | .optional inner | .sequence inner => inner.namedTypes
  | .struct _ fields _ => fieldNamedTypes fields
  | .union _ variants => variantNamedTypes variants
  | .primitive _ => []

def fieldNamedTypes : List Field -> List String
  | [] => []
  | ⟨_, type, _⟩ :: rest => type.namedTypes ++ fieldNamedTypes rest

def variantNamedTypes : List Variant -> List String
  | [] => []
  | ⟨_, fields, _⟩ :: rest => fieldNamedTypes fields ++ variantNamedTypes rest
end

theorem mem_fieldNamedTypes :
    name ∈ fieldNamedTypes fields ↔ ∃ field ∈ fields, name ∈ field.type.namedTypes := by
  induction fields with
  | nil => simp [fieldNamedTypes]
  | cons field rest ih =>
    cases field
    simp [fieldNamedTypes, ih]

theorem mem_variantNamedTypes : name ∈ variantNamedTypes variants ↔
      ∃ variant ∈ variants, name ∈ fieldNamedTypes variant.fields := by
  induction variants with
  | nil => simp [variantNamedTypes]
  | cons variant rest ih =>
    cases variant
    simp [variantNamedTypes, ih]

def Descriptor.inside : Descriptor -> List Descriptor
  | .struct _ fields _ => fieldTypes fields
  | .union _ variants => variantTypes variants
  | _ => []

def Descriptor.typeName : Descriptor -> String
  | .struct name .. | .union name _ => name
  | _ => ""

def Descriptor.isType : Descriptor -> Bool
  | .struct .. | .union .. => true
  | _ => false

/-- None of some structs and unions has one of the same name strictly inside it. -/
def NoneNested (types : List Descriptor) : Prop :=
  ∀ type ∈ types, type.typeName ∉ type.inside.map Descriptor.typeName

/-- No struct or union in a descriptor stands strictly inside one of the same name. -/
def Descriptor.Unnested (type : Descriptor) : Prop := NoneNested type.types

instance : DecidablePred Descriptor.Unnested := fun desc =>
  inferInstanceAs (Decidable (∀ type ∈ desc.types,
    type.typeName ∉ type.inside.map Descriptor.typeName))

variable {type : Descriptor}

theorem Descriptor.types_of_isType (isType : type.isType = true) :
    type.types = type.inside ++ [type] := by
  cases type with
  | struct => rfl
  | union => rfl
  | _ => cases isType

theorem Descriptor.mem_types_self (isType : type.isType = true) : type ∈ type.types := by
  rw [types_of_isType isType]
  exact List.mem_append_right _ (.head _)

/-- The node that stands where a type is used: a struct or a union is referred to. -/
def Descriptor.shape : Descriptor -> Node
  | .primitive name => .primitive ((primitive? name).getD .string)
  | .optional inner => .optional inner.shape.stripOptional
  | .sequence inner => .array inner.shape.stripOptional
  | .named name | .struct name .. => .ref name
  | .union name _ => .enumRef name

def Field.member (field : Field) : String × Node :=
  (field.name, if field.optional && !field.type.shape.isOptional then .optional field.type.shape
    else field.type.shape)

def Variant.reading (variant : Variant) : Option Nat × Chars :=
  (readStatus variant.doc.toList).toOption.getD (none, [])

def Variant.status? (variant : Variant) : Option Nat := variant.reading.1.filter Http.isStatus

def Variant.error (variant : Variant) : ErrorVariant where
  status := variant.status?.getD Http.internalError
  name := variant.name
  description := if variant.reading.2.isEmpty then
      Http.reasonPhrase (variant.status?.getD Http.internalError)
    else String.ofList variant.reading.2
  fields := variant.fields.map Field.member

/-- What is put into the table under a name; a union comes with its statuses. -/
structure Definition where
  name : String
  node : Node
  statuses? : Option StatusMap := none

def ErrorVariant.definition (union : String) (variant : ErrorVariant) : Definition where
  name := variantName union variant.name
  node := variant.node

def unionDefinition (name : String) (variants : List ErrorVariant) : Definition where
  name := name
  node := unionNode name variants
  statuses? := some (StatusMap.ofVariants name variants)

def unionDefinitions (name : String) (variants : List ErrorVariant) : List Definition :=
  variants.map (ErrorVariant.definition name) ++ [unionDefinition name variants]

def structDefinition (name about : String) (members : List (String × Node)) : Definition where
  name := name
  node := .object members about none

def Descriptor.ownDefinitions : Descriptor -> List Definition
  | .struct name fields about => [structDefinition name about (fields.map Field.member)]
  | .union name variants => unionDefinitions name (variants.map Variant.error)
  | _ => []

def definitions (descs : List Descriptor) : List Definition :=
  (descs.flatMap Descriptor.types).flatMap Descriptor.ownDefinitions

def Descriptor.Grounded : Descriptor -> Prop
  | .primitive name => (primitive? name).isSome
  | .optional inner | .sequence inner => inner.Grounded
  | .named _ | .struct .. | .union .. => True

structure FieldsSound (fields : List Field) : Prop where
  distinct : (fields.map Field.name).Nodup
  grounded : ∀ field ∈ fields, field.type.Grounded

/-- A variant's documentation can be read, and none of its fields stands where its
name should. -/
structure Variant.Sound (variant : Variant) : Prop where
  readable : ∃ reading, readStatus variant.doc.toList = .ok reading
  fields : FieldsSound variant.fields
  untagged : discriminator ∉ variant.fields.map Field.name

def Descriptor.OwnSound : Descriptor -> Prop
  | .struct _ fields _ => FieldsSound fields
  | .union _ variants =>
    variants ≠ [] /\ (variants.map Variant.name).Nodup /\ ∀ variant ∈ variants, variant.Sound
  | _ => True

structure Descriptor.Sound (desc : Descriptor) : Prop where
  grounded : desc.Grounded
  types : ∀ type ∈ desc.types, type.OwnSound
end RouteDocs.Schema
