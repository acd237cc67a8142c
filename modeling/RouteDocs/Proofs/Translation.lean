import RouteDocs.Declaration.Resolver
import RouteDocs.Proofs.SynthesisSteps

namespace RouteDocs.Declaration
open List Schema Descriptor
open Yaml (Value)

/-!
# The direct translation of declared types

A name in what is written becomes a reference, whatever it names. `Written` is what is written
about a type, read for its form, and `Written.schema` is the schema.

The program replaces names by descriptors, except a name inside its own type, and descriptors become
nodes. `Describes` says which descriptors can stand for what is written, and such a descriptor is
shown to have the same schema, wherever names have been replaced in it.
-/

structure WrittenField where
  name : String
  type : TypeExpr
  optional : Bool

structure WrittenVariant where
  name : String
  fields : List WrittenField
  doc : String

inductive Written where
  | struct (fields : List WrittenField) (about : String)
  | union (variants : List WrittenVariant)

def text? (value : Value) : Option String := match Record.text value with
  | .valid text => some text
  | .faulty _ => none

def words? : Value -> Option String
  | .brokenText _ => none
  | value => value.words.toOption

def writtenField? (entry : Value × Value) : Option WrittenField := do
  let type <- (Resolution.fieldParts entry.2).1
  return ⟨<- text? entry.1, TypeExpr.read (<- words? type).toList, (Resolution.fieldParts entry.2).2⟩

def writtenFields? (written? : Option Value) : Option (List WrittenField) :=
  match written?.map Value.opened with
  | none | some .null => some []
  | some (.map entries) => entries.mapM writtenField?
  | some _ => none

def variantText? (spec : Value) : Option (String × Option Value) := match spec.opened with
  | .null => some ("", none)
  | .text doc => some (doc, none)
  | .map entries => do
    let doc <- match Value.find? "doc" entries with
      | some doc => words? doc
      | none => some ""
    return (doc, Value.find? "fields" entries)
  | _ => none

def writtenVariant? (entry : Value × Value) : Option WrittenVariant := do
  let (doc, fields?) <- variantText? entry.2
  return ⟨<- text? entry.1, <- writtenFields? fields?, doc⟩

def Written.ofSpec? (spec : TypeSpec) : Option Written := match Value.find? "variants" spec with
  | some variants =>
    match variants.opened with
    | .map entries => (entries.mapM writtenVariant?).map .union
    | _ => none
  | none => do
    let fields <- writtenFields? (Value.find? "fields" spec)
    let about <- text? ((Value.find? "description" spec).getD (.text ""))
    return .struct fields about

def isWrapper (words : List String) (wrapper : String) : Bool :=
  String.ofList (Text.lower wrapper.toList) ∈ words

/-- The schema of an expression. Wrappers and marks for what may be absent are dropped.
A faulty expression has no schema, which is written as nothing. -/
def TypeExpr.schema : TypeExpr -> Json
  | primitive name => match primitive? name with
    | some type => .object [("type", .string type.word)]
    | none => .null
  | reference name => .object [("$ref", .string (componentPath name))]
  | optional inner => inner.schema
  | wrapped wrapper _ inner =>
    if isWrapper sequenceWrappers wrapper then
      .object [("type", .string "array"), ("items", inner.schema)]
    else if isWrapper optionalWrappers wrapper then inner.schema
    else .null
  | malformed _ => .null

def TypeExpr.mayBeAbsent : TypeExpr -> Bool
  | optional _ => true
  | wrapped wrapper _ _ => isWrapper optionalWrappers wrapper
  | _ => false

def WrittenField.required (field : WrittenField) : Bool :=
  !field.optional && !field.type.mayBeAbsent

/-- The schema of an object with some fields. A variant's object begins with the
property that holds the variant's name. -/
def objectSchema (about : String) (tag? : Option String) (fields : List WrittenField) : Json :=
  let tag := tag?.toList.map fun name =>
    (discriminator, Json.object [("type", .string "string"), ("enum", .array [.string name])])
  let properties := fields.map fun field => (field.name, field.type.schema)
  let required := tag?.toList.map (fun _ => discriminator) ++
    (fields.filter WrittenField.required).map WrittenField.name
  .object ([("type", .string "object")] ++
    (if about.isEmpty then [] else [("description", .string about)]) ++
    [("properties", .object (tag ++ properties))] ++
    (if required.isEmpty then [] else [("required", .array (required.map .string))]))

/-- The status of a variant, if its documentation begins with one of the protocol. -/
def WrittenVariant.status? (variant : WrittenVariant) : Option Nat :=
  match readStatus variant.doc.toList with
  | .ok (status?, _) => status?.filter Http.isStatus
  | .error _ => none

def WrittenVariant.description (variant : WrittenVariant) : String :=
  match readStatus variant.doc.toList with
  | .ok (_, []) => Http.reasonPhrase (variant.status?.getD Http.internalError)
  | .ok (_, text) => String.ofList text
  | .error _ => ""

def WrittenVariant.schema (variant : WrittenVariant) : Json :=
  objectSchema variant.description (some variant.name) variant.fields

def Written.schema (name : String) : Written -> Json
  | struct fields about => objectSchema about none fields
  | union variants => .object [
      ("oneOf", .array (variants.map fun variant =>
        .object [("$ref", .string (componentPath (variantName name variant.name)))])),
      ("discriminator", .object [ ("propertyName", .string discriminator),
        ("mapping", .object (variants.map fun variant =>
          (variant.name, .string (componentPath (variantName name variant.name)))))])]

def Written.variants : Written -> List WrittenVariant
  | struct _ _ => []
  | union variants => variants

/-! ## Descriptors of what is written

`refers` says which descriptors can stand for a name. -/

section
variable (refers : String -> Descriptor -> Prop)

def TypeExpr.Denotes : TypeExpr -> Descriptor -> Prop
  | primitive name, type => type = .primitive name
  | reference name, type => refers name type
  | optional expr, type => ∃ inner, type = .optional inner /\ expr.Denotes inner
  | wrapped wrapper _ expr, type =>
    ∃ wrap inner, wrap? wrapper = some wrap /\ type = wrap inner /\ expr.Denotes inner
  | malformed _, _ => False

structure WrittenField.Describes (written : WrittenField) (field : Field) : Prop where
  name : field.name = written.name
  optional : field.optional = written.optional
  type : written.type.Denotes refers field.type

structure WrittenVariant.Describes (written : WrittenVariant) (variant : Variant) : Prop where
  name : variant.name = written.name
  doc : variant.doc = written.doc
  fields : Forall₂ (WrittenField.Describes refers) written.fields variant.fields

def Written.Describes (name : String) : Written -> Descriptor -> Prop
  | struct fields about, type => ∃ members, type = .struct name members about /\
        Forall₂ (WrittenField.Describes refers) fields members
  | union variants, type => ∃ members,
      type = .union name members /\ Forall₂ (WrittenVariant.Describes refers) variants members
end

section
variable {refers further : String -> Descriptor -> Prop}
  (more : ∀ name type, refers name type -> further name type)

include more

theorem TypeExpr.Denotes.mono : (expr : TypeExpr) -> {type : Descriptor} ->
    expr.Denotes refers type -> expr.Denotes further type
  | .primitive _, _, denotes => denotes
  | .reference name, type, denotes => more name type denotes
  | .optional expr, _, denotes => by
    obtain ⟨inner, same, within⟩ := denotes
    exact ⟨inner, same, TypeExpr.Denotes.mono expr within⟩
  | .wrapped _ _ expr, _, denotes => by
    obtain ⟨wrap, inner, known, same, within⟩ := denotes
    exact ⟨wrap, inner, known, same, TypeExpr.Denotes.mono expr within⟩

theorem forall₂_fields_mono (described : Forall₂ (WrittenField.Describes refers) fields members) :
    Forall₂ (WrittenField.Describes further) fields members :=
  described.imp fun field _ held => ⟨held.name, held.optional, held.type.mono more field.type⟩

theorem forall₂_variants_mono
    (described : Forall₂ (WrittenVariant.Describes refers) variants members) :
    Forall₂ (WrittenVariant.Describes further) variants members :=
  described.imp fun _ _ held => ⟨held.name, held.doc, forall₂_fields_mono more held.fields⟩

theorem Written.Describes.mono {written : Written}
    (described : written.Describes refers name type) : written.Describes further name type := by
  cases written with
  | struct fields about =>
    obtain ⟨members, same, held⟩ := described
    exact ⟨members, same, forall₂_fields_mono more held⟩
  | union variants =>
    obtain ⟨members, same, held⟩ := described
    exact ⟨members, same, forall₂_variants_mono more held⟩
end

def Names (name : String) (type : Descriptor) : Prop :=
  type = .named name \/ (type.isType = true /\ type.typeName = name)

theorem toJson_shape_of_names (names : Names name type) :
    type.shape.toJson = refJson name /\ type.shape.isOptional = false := by
  rcases names with rfl | ⟨isType, rfl⟩
  · exact ⟨rfl, rfl⟩
  · cases type with
    | struct => exact ⟨rfl, rfl⟩
    | union => exact ⟨rfl, rfl⟩
    | _ => cases isType

theorem toJson_stripOptional (node : Node) : node.stripOptional.toJson = node.toJson := by
  cases node <;> rfl

theorem wrap?_cases (known : wrap? wrapper = some wrap) :
    (wrap = .sequence /\ isWrapper sequenceWrappers wrapper = true /\
        isWrapper optionalWrappers wrapper = false) \/
      (wrap = .optional /\ isWrapper sequenceWrappers wrapper = false /\
        isWrapper optionalWrappers wrapper = true) := by
  unfold wrap? at known
  unfold isWrapper
  generalize String.ofList (Text.lower wrapper.toList) = word at known ⊢
  by_cases sequence : word ∈ sequenceWrappers
  · have apart : word ∉ optionalWrappers := by
      have disjoint : ∀ word ∈ sequenceWrappers, word ∉ optionalWrappers := by decide
      exact disjoint word sequence
    simp only [if_pos sequence, Option.some.injEq] at known
    exact .inl ⟨known.symm, decide_eq_true sequence, decide_eq_false apart⟩
  · simp only [if_neg sequence] at known
    by_cases absent : word ∈ optionalWrappers
    · simp only [if_pos absent, Option.some.injEq] at known
      exact .inr ⟨known.symm, decide_eq_false sequence, decide_eq_true absent⟩
    · simp only [if_neg absent] at known
      cases known

theorem TypeExpr.toJson_shape : (expr : TypeExpr) -> {type : Descriptor} ->
    expr.Denotes Names type -> type.Grounded ->
      type.shape.toJson = expr.schema /\ type.shape.isOptional = expr.mayBeAbsent
  | .primitive name, _, denotes, grounded => by
    obtain rfl := denotes
    obtain ⟨known, found⟩ := Option.isSome_iff_exists.mp grounded
    simp only [shape, TypeExpr.schema, found]
    exact ⟨rfl, rfl⟩
  | .reference name, _, denotes, _ => toJson_shape_of_names denotes
  | .optional expr, _, denotes, grounded => by
    obtain ⟨inner, rfl, within⟩ := denotes
    have held := TypeExpr.toJson_shape expr within grounded
    exact ⟨(toJson_stripOptional _).trans held.1, rfl⟩
  | .wrapped wrapper whole expr, _, denotes, grounded => by
    obtain ⟨wrap, inner, known, rfl, within⟩ := denotes
    rcases wrap?_cases known with ⟨rfl, sequence, absent⟩ | ⟨rfl, sequence, absent⟩ <;>
      simp [shape, Node.toJson, Node.isOptional, toJson_stripOptional, TypeExpr.schema,
        TypeExpr.mayBeAbsent, sequence, absent, TypeExpr.toJson_shape expr within grounded]

section
variable {fields : List WrittenField} {members : List Field}

theorem names_of_described (described : Forall₂ (WrittenField.Describes refers) fields members) :
    members.map Field.name = fields.map WrittenField.name :=
  (map_eq_of_forall₂ described fun _ _ _ here => here.name.symm).symm

theorem toJson_member (field : Field) : field.member.2.toJson = field.type.shape.toJson := by
  unfold Field.member
  split <;> rfl

theorem isOptional_member (field : Field) :
    field.member.2.isOptional = (field.optional || field.type.shape.isOptional) := by
  unfold Field.member
  cases field.optional with
  | false => rfl
  | true =>
    cases absent : field.type.shape.isOptional with
    | false => rfl
    | true => exact absent

theorem members_of_described (described : Forall₂ (WrittenField.Describes Names) fields members)
    (grounded : ∀ field ∈ members, field.type.Grounded) :
    Node.propertiesJson (members.map Field.member) =
        fields.map (fun field => (field.name, field.type.schema)) /\
      Node.requiredFields (members.map Field.member) =
        (fields.filter WrittenField.required).map WrittenField.name := by
  induction described with
  | nil => exact ⟨rfl, rfl⟩
  | @cons written field _ _ here _ ih =>
    obtain ⟨properties, required⟩ := ih (forall_mem_cons.mp grounded).2
    obtain ⟨schema, absent⟩ := written.type.toJson_shape here.type (grounded field (.head _))
    have first : field.member = (written.name, field.member.2) := Prod.ext here.name rfl
    have mark : written.required = !field.member.2.isOptional := by
      rw [isOptional_member, absent, here.optional, WrittenField.required, Bool.not_or]
    rw [map_cons, first, Node.propertiesJson, toJson_member, schema, properties, map_cons,
      Node.requiredFields, required, filter_cons, mark]
    refine ⟨rfl, ?_⟩
    cases field.member.2.isOptional <;> rfl

theorem toJson_object (about : String) (tag? : Option String)
    (described : Forall₂ (WrittenField.Describes Names) fields members)
    (sound : FieldsSound members)
    (untagged : tag? ≠ none -> discriminator ∉ members.map Field.name) :
    (Node.object (members.map Field.member) about
      (tag?.map fun name => (discriminator, name))).toJson = objectSchema about tag? fields := by
  obtain ⟨properties, required⟩ := members_of_described described sound.grounded
  have nodup : (fields.map WrittenField.name).Nodup := by
    rw [<- names_of_described described]
    exact sound.distinct
  have keys : (fields.map fun field => (field.name, field.type.schema)).map Prod.fst =
      fields.map WrittenField.name := by
    rw [map_map]
    rfl
  rw [Node.toJson, properties, required]
  unfold objectJson objectSchema Json.ofMembers Json.texts
  cases tag? with
  | none =>
    have plain : ((fields.map fun field => (field.name, field.type.schema)).map Prod.fst).Nodup := by
      rw [keys]
      exact nodup
    simp only [Option.map_none, Option.toList_none, nil_append, map_nil,
      OrderedMap.entries_ofList_of_nodup plain]
    rfl
  | some name =>
    have tagged : (((discriminator, tagJson name) ::
        fields.map fun field => (field.name, field.type.schema)).map Prod.fst).Nodup := by
      rw [map_cons, keys, nodup_cons, <- names_of_described described]
      exact ⟨untagged (Option.some_ne_none name), sound.distinct⟩
    simp only [Option.map_some, Option.toList_some, singleton_append, map_cons,
      map_nil, OrderedMap.entries_ofList_of_nodup tagged]
    rfl
end

section
variable {members : List Variant} {written : WrittenVariant} {variant : Variant}

theorem variantNames_of_described
    (described : Forall₂ (WrittenVariant.Describes refers) variants members) :
    members.map Variant.name = variants.map WrittenVariant.name :=
  (map_eq_of_forall₂ described fun _ _ _ here => here.name.symm).symm

theorem status?_of_doc (doc : variant.doc = written.doc) : variant.status? = written.status? := by
  unfold Variant.status? Variant.reading WrittenVariant.status?
  rw [doc]
  cases readStatus written.doc.toList <;> rfl

theorem description_of_doc (doc : variant.doc = written.doc)
    (readable : ∃ reading, readStatus variant.doc.toList = .ok reading) :
    variant.error.description = written.description := by
  obtain ⟨⟨status?, text⟩, reads⟩ := readable
  have known := status?_of_doc doc
  unfold Variant.error WrittenVariant.description
  simp only [known]
  unfold Variant.reading
  rw [<- doc, reads]
  cases text <;> rfl

theorem toJson_variant (described : written.Describes Names variant) (sound : variant.Sound) :
    variant.error.node.toJson = written.schema := by
  have schema := toJson_object variant.error.description (some variant.name) described.fields
    sound.fields fun _ => sound.untagged
  rw [description_of_doc described.doc sound.readable] at schema
  unfold WrittenVariant.schema
  rw [<- described.name, <- schema, <- description_of_doc described.doc sound.readable]
  rfl

theorem toJson_union (name : String)
    (described : Forall₂ (WrittenVariant.Describes Names) variants members)
    (nodup : (members.map Variant.name).Nodup) :
    (unionNode name (members.map Variant.error)).toJson = (Written.union variants).schema name := by
  have names := variantNames_of_described described
  have listed : ∀ {β : Type} (f : String -> β),
      members.map (fun variant => f variant.name) = variants.map fun variant => f variant.name := by
    intro β f
    have mapped := congrArg (map f) names
    simpa only [map_map, Function.comp_def] using mapped
  have keys : (((members.map Variant.error).map fun variant =>
      (variant.name, variantName name variant.name)).map Prod.fst).Nodup := by
    rw [map_map, map_map]
    exact nodup
  unfold unionNode
  rw [Node.toJson, OrderedMap.entries_ofList_of_nodup keys]
  simp only [map_map, Function.comp_def, Written.schema]
  have alternatives := listed fun variant =>
    Json.object [("$ref", .string (componentPath (variantName name variant)))]
  have mapping := listed fun variant =>
    (variant, Json.string (componentPath (variantName name variant)))
  rw [<- alternatives, <- mapping]
  rfl
end

def tag? : Node -> Option String
  | .object _ _ (some (_, value)) => some value
  | _ => none

def definedName (name : String) : Option String -> String
  | none => name
  | some variant => variantName name variant

/-- Some definitions are those of what is written about a type: one for the type itself
and one for each variant. -/
structure Written.Reads (written : Written) (name : String) (defns : List Definition) : Prop where
  named : ∀ defn ∈ defns, defn.name = definedName name (tag? defn.node)
  itself : ∃ defn ∈ defns, tag? defn.node = none /\ defn.node.toJson = written.schema name
  variants : ∀ variant ∈ written.variants, ∃ defn ∈ defns,
    tag? defn.node = some variant.name /\ defn.node.toJson = variant.schema
  listed : ∀ defn ∈ defns, ∀ tag, tag? defn.node = some tag ->
    ∃ variant ∈ written.variants, variant.name = tag
  unique : ∀ first ∈ defns, ∀ second ∈ defns, tag? first.node = tag? second.node -> first = second

section
variable {name : String}

theorem reads_struct {members : List Field}
    (described : Forall₂ (WrittenField.Describes Names) fields members)
    (sound : (struct name members about).OwnSound) : (Written.struct fields about).Reads name
      (struct name members about).ownDefinitions := by
  have schema := toJson_object about none described sound fun impossible => absurd rfl impossible
  have single : ∀ defn ∈ (struct name members about).ownDefinitions,
      defn = structDefinition name about (members.map Field.member) :=
    fun defn mem => mem_singleton.mp mem
  refine ⟨fun defn mem => ?_, ⟨_, .head _, rfl, schema⟩,
    fun variant impossible => absurd impossible not_mem_nil,
    fun defn mem tag tagged => ?_, fun first one second other _ => ?_⟩
  · rw [single defn mem]
    rfl
  · rw [single defn mem] at tagged
    cases tagged
  · rw [single first one, single second other]

theorem ownDefinitions_union_cases (mem : defn ∈ (union name members).ownDefinitions) :
    (∃ variant ∈ members, defn = variant.error.definition name) \/
      defn = unionDefinition name (members.map Variant.error) := by
  rcases mem_append.mp mem with ofVariant | itself
  · obtain ⟨error, errorListed, rfl⟩ := mem_map.mp ofVariant
    obtain ⟨variant, listed, rfl⟩ := mem_map.mp errorListed
    exact .inl ⟨variant, listed, rfl⟩
  · exact .inr (mem_singleton.mp itself)

theorem reads_union (described : Forall₂ (WrittenVariant.Describes Names) variants members)
    (sound : (union name members).OwnSound) :
    (Written.union variants).Reads name (union name members).ownDefinitions := by
  obtain ⟨-, nodup, variantsSound⟩ := sound
  obtain ⟨forward, backward⟩ := exists_of_forall₂ described
  have schema := toJson_union name described nodup
  refine ⟨fun defn mem => ?_, ⟨_, mem_append_right _ (.head _), rfl, schema⟩,
    fun written listed => ?_, fun defn mem tag tagged => ?_,
    fun first one second other sameTag => ?_⟩
  · rcases ownDefinitions_union_cases mem with ⟨variant, -, rfl⟩ | rfl <;> rfl
  · obtain ⟨variant, variantListed, describes⟩ := forward written listed
    refine ⟨variant.error.definition name, mem_append_left _
      (mem_map_of_mem (mem_map_of_mem variantListed)), ?_, ?_⟩
    · exact congrArg Option.some describes.name
    · exact toJson_variant describes (variantsSound variant variantListed)
  · rcases ownDefinitions_union_cases mem with ⟨variant, listed, rfl⟩ | rfl
    · obtain ⟨written, writtenListed, describes⟩ := backward variant listed
      cases tagged
      exact ⟨written, writtenListed, describes.name.symm⟩
    · cases tagged
  -- The tag of a variant is its name, and the variants of a union have different names.
  · rcases ownDefinitions_union_cases one with ⟨variant, listed, rfl⟩ | rfl <;>
      rcases ownDefinitions_union_cases other with ⟨variant', listed', rfl⟩ | rfl
    · have sameName : variant.name = variant'.name := Option.some.inj sameTag
      rw [inj_on_of_nodup_map nodup listed listed' sameName]
    · cases sameTag
    · cases sameTag
    · rfl

theorem Written.Describes.reads {written : Written}
    (described : written.Describes Names name type) (sound : type.OwnSound) :
    written.Reads name type.ownDefinitions := by
  cases written with
  | struct fields about =>
    obtain ⟨members, rfl, held⟩ := described
    exact reads_struct held sound
  | union variants =>
    obtain ⟨members, rfl, held⟩ := described
    exact reads_union held sound
end
end RouteDocs.Declaration
