import RouteDocs.Proofs.Translation

namespace RouteDocs
open List Schema Descriptor

/-!
# Descriptors of the same writing

Two descriptors of what is written about a type differ where names are replaced in one and not in
the other. Their nodes differ in one respect: a reference to a union is marked as one where the
union is in the place of its name. `Node.plain` takes the mark away, and after that the definitions
are the same, with their status maps; and if one descriptor is without fault, so is the other.
-/

namespace Schema
namespace Node

mutual
def plain : Node -> Node
  | .enumRef name => .ref name
  | .optional inner => .optional inner.plain
  | .array inner => .array inner.plain
  | .object fields about tag? => .object (plainFields fields) about tag?
  | .primitive type => .primitive type
  | .ref name => .ref name
  | .union variants discriminator mapping => .union variants discriminator mapping

def plainFields : List (String × Node) -> List (String × Node)
  | [] => []
  | (name, node) :: rest => (name, node.plain) :: plainFields rest
end

@[simp] theorem isOptional_plain (node : Node) : node.plain.isOptional = node.isOptional := by
  cases node <;> rfl

theorem stripOptional_plain (node : Node) : node.plain.stripOptional = node.stripOptional.plain := by
  cases node <;> rfl

mutual
theorem toJson_plain : (node : Node) -> node.plain.toJson = node.toJson
  | .enumRef _ | .ref _ | .primitive _ | .union .. => rfl
  | .optional inner => toJson_plain inner
  | .array inner => by rw [plain, toJson, toJson, toJson_plain inner]
  | .object fields about tag? => by
    rw [plain, toJson, toJson, propertiesJson_plain fields, requiredFields_plain fields]

theorem propertiesJson_plain : (fields : List (String × Node)) ->
    propertiesJson (plainFields fields) = propertiesJson fields
  | [] => rfl
  | (name, node) :: rest => by
    rw [plainFields, propertiesJson, propertiesJson, toJson_plain node, propertiesJson_plain rest]

theorem requiredFields_plain : (fields : List (String × Node)) ->
    requiredFields (plainFields fields) = requiredFields fields
  | [] => rfl
  | (name, node) :: rest => by
    rw [plainFields, requiredFields, requiredFields, isOptional_plain, requiredFields_plain rest]
end

mutual
theorem references_plain : (node : Node) -> node.plain.references = node.references
  | .enumRef _ | .ref _ | .primitive _ | .union .. => rfl
  | .optional inner => references_plain inner
  | .array inner => references_plain inner
  | .object fields _ _ => fieldReferences_plain fields

theorem fieldReferences_plain : (fields : List (String × Node)) ->
    fieldReferences (plainFields fields) = fieldReferences fields
  | [] => rfl
  | (name, node) :: rest => by
    rw [plainFields, fieldReferences, fieldReferences, references_plain node,
      fieldReferences_plain rest]
end

theorem plainFields_eq_map (fields : List (String × Node)) :
    plainFields fields = fields.map fun field => (field.1, field.2.plain) := by
  induction fields with
  | nil => rfl
  | cons field rest ih => rw [plainFields, ih, map_cons]
end Node

def Definition.plain (defn : Definition) : Definition := { defn with node := defn.node.plain }

def ErrorVariant.plain (variant : ErrorVariant) : ErrorVariant :=
  { variant with fields := Node.plainFields variant.fields }

theorem unionDefinition_plain (name : String) (variants : List ErrorVariant) :
    unionDefinition name (variants.map ErrorVariant.plain) = unionDefinition name variants := by
  have codes : StatusMap.ofVariants name (variants.map ErrorVariant.plain) =
      StatusMap.ofVariants name variants := by
    unfold StatusMap.ofVariants
    rw [foldl_map]
    rfl
  unfold unionDefinition unionNode
  rw [codes, map_map, map_map]
  rfl

theorem unionDefinitions_plain (name : String) (variants : List ErrorVariant) :
    (unionDefinitions name variants).map Definition.plain =
      unionDefinitions name (variants.map ErrorVariant.plain) := by
  unfold unionDefinitions
  rw [map_append, map_map, map_map, unionDefinition_plain]
  rfl
end Schema

namespace Declaration
theorem plain_shape_of_names (names : Names name type) :
    type.shape.plain = .ref name /\ type.Grounded := by
  rcases names with rfl | ⟨isType, rfl⟩
  · exact ⟨rfl, trivial⟩
  · cases type with
    | struct => exact ⟨rfl, trivial⟩
    | union => exact ⟨rfl, trivial⟩
    | _ => cases isType

theorem TypeExpr.plain_shape_eq : (expr : TypeExpr) -> {first second : Descriptor} ->
    expr.Denotes Names first -> expr.Denotes Names second ->
      first.shape.plain = second.shape.plain /\ (first.Grounded -> second.Grounded)
  | .primitive name, _, _, one, other => by
    obtain rfl := one
    obtain rfl := other
    exact ⟨rfl, fun grounded => grounded⟩
  | .reference name, _, _, one, other =>
    ⟨(plain_shape_of_names one).1.trans (plain_shape_of_names other).1.symm,
      fun _ => (plain_shape_of_names other).2⟩
  | .optional expr, _, _, one, other => by
    obtain ⟨inner, rfl, within⟩ := one
    obtain ⟨inner', rfl, within'⟩ := other
    obtain ⟨shapes, grounded⟩ := TypeExpr.plain_shape_eq expr within within'
    refine ⟨?_, grounded⟩
    simp only [shape, Node.plain, <- Node.stripOptional_plain, shapes]
  | .wrapped wrapper _ expr, _, _, one, other => by
    obtain ⟨wrap, inner, known, rfl, within⟩ := one
    obtain ⟨wrap', inner', known', rfl, within'⟩ := other
    obtain rfl : wrap = wrap' := Option.some.inj (known.symm.trans known')
    obtain ⟨shapes, grounded⟩ := TypeExpr.plain_shape_eq expr within within'
    rcases wrap?_cases known with ⟨rfl, -⟩ | ⟨rfl, -⟩ <;>
      refine ⟨?_, grounded⟩ <;>
      simp only [shape, Node.plain, <- Node.stripOptional_plain, shapes]

section
variable {fields : List WrittenField} {first second : List Field}

theorem plain_member_eq {written : WrittenField} (describes : written.Describes Names one)
    (alsoDescribes : written.Describes Names other) :
    (one.member.1, one.member.2.plain) = (other.member.1, other.member.2.plain) := by
  have shapes := (written.type.plain_shape_eq describes.type alsoDescribes.type).1
  have marks : one.type.shape.isOptional = other.type.shape.isOptional := by
    rw [<- Node.isOptional_plain, shapes, Node.isOptional_plain]
  unfold Field.member
  rw [describes.name, alsoDescribes.name, describes.optional, alsoDescribes.optional, marks]
  split
  · simp only [Node.plain, shapes]
  · simp only [shapes]

theorem plainFields_eq (one : Forall₂ (WrittenField.Describes Names) fields first)
    (other : Forall₂ (WrittenField.Describes Names) fields second) :
    Node.plainFields (first.map Field.member) = Node.plainFields (second.map Field.member) := by
  rw [Node.plainFields_eq_map, Node.plainFields_eq_map, map_map, map_map]
  exact map_eq_of_forall₂ (forall₂_common one other) fun _ _ _ ⟨_, here, alsoHere⟩ =>
    plain_member_eq here alsoHere

theorem FieldsSound.of_described (one : Forall₂ (WrittenField.Describes Names) fields first)
    (other : Forall₂ (WrittenField.Describes Names) fields second)
    (sound : FieldsSound first) : FieldsSound second := by
  constructor
  · rw [names_of_described other, <- names_of_described one]
    exact sound.distinct
  · intro field mem
    obtain ⟨counterpart, listed, written, here, alsoHere⟩ :=
      (exists_of_forall₂ (forall₂_common one other)).2 field mem
    exact (written.type.plain_shape_eq here.type alsoHere.type).2
      (sound.grounded counterpart listed)
end

section
variable {variants : List WrittenVariant} {first second : List Variant} {written : WrittenVariant}

theorem plain_error_eq (describes : written.Describes Names one)
    (alsoDescribes : written.Describes Names other) : one.error.plain = other.error.plain := by
  have fields := plainFields_eq describes.fields alsoDescribes.fields
  have readings : one.reading = other.reading := by
    unfold Variant.reading
    rw [describes.doc, alsoDescribes.doc]
  unfold Variant.error ErrorVariant.plain Variant.status?
  rw [fields, readings, describes.name, alsoDescribes.name]

theorem plain_errors_eq (one : Forall₂ (WrittenVariant.Describes Names) variants first)
    (other : Forall₂ (WrittenVariant.Describes Names) variants second) :
    (first.map Variant.error).map ErrorVariant.plain =
      (second.map Variant.error).map ErrorVariant.plain := by
  rw [map_map, map_map]
  exact map_eq_of_forall₂ (forall₂_common one other) fun _ _ _ ⟨_, here, alsoHere⟩ =>
    plain_error_eq here alsoHere

theorem Variant.Sound.of_described (describes : written.Describes Names one)
    (alsoDescribes : written.Describes Names other) (sound : one.Sound) : other.Sound where
  readable := by
    rw [alsoDescribes.doc, <- describes.doc]
    exact sound.readable
  fields := FieldsSound.of_described describes.fields alsoDescribes.fields sound.fields
  untagged := by
    rw [names_of_described alsoDescribes.fields, <- names_of_described describes.fields]
    exact sound.untagged

theorem Written.Describes.plain_ownDefinitions_eq {written : Written}
    (describes : written.Describes Names name one)
    (alsoDescribes : written.Describes Names name other) :
    one.ownDefinitions.map Definition.plain = other.ownDefinitions.map Definition.plain := by
  cases written with
  | struct fields about =>
    obtain ⟨members, rfl, held⟩ := describes
    obtain ⟨members', rfl, held'⟩ := alsoDescribes
    simp only [ownDefinitions, structDefinition, Definition.plain, Node.plain,
      map_cons, map_nil, plainFields_eq held held']
  | union variants =>
    obtain ⟨members, rfl, held⟩ := describes
    obtain ⟨members', rfl, held'⟩ := alsoDescribes
    rw [ownDefinitions, ownDefinitions, unionDefinitions_plain,
      unionDefinitions_plain, plain_errors_eq held held']

theorem Written.Describes.ownSound {written : Written}
    (describes : written.Describes Names name one)
    (alsoDescribes : written.Describes Names name other) (sound : one.OwnSound) :
    other.OwnSound := by
  cases written with
  | struct fields about =>
    obtain ⟨members, rfl, held⟩ := describes
    obtain ⟨members', rfl, held'⟩ := alsoDescribes
    exact FieldsSound.of_described held held' sound
  | union variants =>
    obtain ⟨members, rfl, held⟩ := describes
    obtain ⟨members', rfl, held'⟩ := alsoDescribes
    obtain ⟨some, nodup, each⟩ := sound
    refine ⟨?_, ?_, fun variant mem => ?_⟩
    · intro none
      rw [none] at held'
      cases held'
      cases held
      exact some rfl
    · rw [variantNames_of_described held', <- variantNames_of_described held]
      exact nodup
    · obtain ⟨counterpart, listed, written, here, alsoHere⟩ :=
        (exists_of_forall₂ (forall₂_common held held')).2 variant mem
      exact Variant.Sound.of_described here alsoHere (each counterpart listed)
end
end Declaration
end RouteDocs
