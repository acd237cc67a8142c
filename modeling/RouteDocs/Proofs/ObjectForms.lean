import RouteDocs.Proofs.ResponseMerge

/-!
# Objects in normal form

Whether a field may be left out is said by a flag, by an optional type, and by optional types inside
one another or inside sequences. What is registered says it once, at the outside of a field. So
the properties of an object and those that are required can be read off the type it stands for.
-/

namespace RouteDocs

/-! ## Alternatives that exclude each other

The alternatives of a union are told apart by a property that holds the name of the variant. In a
table without conflicts the schema of every alternative requires the property and allows it one
value only. So no value fits two alternatives of a union, or of one status.
-/

section

open List Json Schema

/-- A value meets what the schema of an object asks of one property: it has the property if the
schema requires it, and what it has there is one of the values that are listed. -/
structure Json.Meets (property : String) (schema value : Json) : Prop where
  present : ∀ names, schema.member? "required" = some (.array names) -> .string property ∈ names ->
    (value.member? property).isSome
  listed : ∀ shape values given,
    (schema.member? "properties").bind (member? property) = some shape ->
    shape.member? "enum" = some (.array values) -> value.member? property = some given ->
    given ∈ values

/-- The schema of an object requires a property and allows it one text only. -/
def Json.Tags (property text : String) (schema : Json) : Prop :=
  (schema.member? "properties").bind (member? property) = some (tagJson text) /\
    ∃ names, schema.member? "required" = some (.array names) /\ .string property ∈ names

theorem Json.Meets.eq_of_tags (meets : Meets property schema value)
    (tags : schema.Tags property text) : value.member? property = some (.string text) := by
  obtain ⟨shape, names, required, among⟩ := tags
  obtain ⟨given, found⟩ := Option.isSome_iff_exists.mp (meets.present names required among)
  rw [found, mem_singleton.mp (meets.listed _ [.string text] given shape rfl found)]

namespace Schema.Node
variable {fields : List (String × Node)} {tag? : Option (String × String)}

theorem properties_toJson (distinct : ((tag?.map Prod.fst).toList ++ fields.map Prod.fst).Nodup)
    (description : String) : (object fields description tag?).toJson.member? "properties" =
      some (.object ((tag?.map fun (property, value) => (property, tagJson value)).toList ++
        fields.map fun field => (field.1, field.2.toJson))) := by
  rw [toJson, propertiesJson_eq_map, objectJson, ofMembers, OrderedMap.entries_ofList_of_nodup]
  · cases description.isEmpty <;> rfl
  · rw [map_append, map_map]
    cases tag? <;> exact distinct

theorem required_toJson (description : String) :
    (object fields description tag?).toJson.member? "required" =
      if (tag?.map Prod.fst).toList ++ requiredFields fields = [] then none
      else some (texts ((tag?.map Prod.fst).toList ++ requiredFields fields)) := by
  rw [toJson, objectJson]
  generalize (tag?.map Prod.fst).toList ++ requiredFields fields = required
  cases description.isEmpty <;> cases required <;> rfl

theorem tags_toJson (distinct : (property :: fields.map Prod.fst).Nodup)
    (description text : String) :
    (object fields description (some (property, text))).toJson.Tags property text := by
  constructor
  · rw [@properties_toJson fields (some (property, text)) distinct]
    simp [member?, OrderedMap.find?]
  · exact ⟨_, required_toJson description, .head _⟩
end Schema.Node

namespace Schema.Table
variable {table : Table} {union : String} {variants : List Variant}

/-- Two names are registered, and no value meets what both schemas ask of the discriminator. -/
def Apart (table : Table) (first second : String) : Prop :=
  ∃ one other, table.get? first = some one /\ table.get? second = some other /\
    ∀ value, Meets discriminator one.toJson value -> ¬ Meets discriminator other.toJson value

theorem Completed.variant (completed : table.Completed (.union union variants))
    (agreed : table.conflicts = []) {variant : Variant} (mem : variant ∈ variants) :
    table.get? (variantName union variant.name) = some variant.error.node /\
      variant.error.node.toJson.Tags discriminator variant.name := by
  constructor
  · obtain ⟨node, found, same | recorded⟩ := completed.2 (variant.error.definition union)
      (mem_append_left _ (mem_map_of_mem (mem_map_of_mem mem)))
    · rw [<- show node = variant.error.node from same]
      exact found
    · rw [agreed] at recorded
      cases recorded
  · have sound := completed.1.2.2 variant mem
    have names : variant.error.fields.map Prod.fst = variant.fields.map Field.name := by
      rw [Variant.error, map_map]
      rfl
    refine Node.tags_toJson ?_ _ _
    rw [names]
    exact nodup_cons.mpr ⟨sound.untagged, sound.fields.distinct⟩

theorem Completed.apart (completed : table.Completed (.union union variants))
    (agreed : table.conflicts = []) {errors : List ErrorVariant}
    (kept : errors.Sublist (variants.map Variant.error)) :
    (errors.map fun error => variantName union error.name).Pairwise table.Apart := by
  have distinct : (errors.map ErrorVariant.name).Nodup :=
    (name_error variants ▸ completed.1.2.1).sublist (kept.map _)
  refine pairwise_map.mpr ((pairwise_map.mp distinct).imp_of_mem ?_)
  intro first second firstListed secondListed ne
  have tagged : ∀ error ∈ errors, ∃ node, table.get? (variantName union error.name) = some node /\
        node.toJson.Tags discriminator error.name := by
    intro error listed
    obtain ⟨variant, mem, rfl⟩ := mem_map.mp (kept.subset listed)
    exact ⟨_, completed.variant agreed mem⟩
  obtain ⟨one, found, tags⟩ := tagged first firstListed
  obtain ⟨other, otherFound, otherTags⟩ := tagged second secondListed
  refine ⟨one, other, found, otherFound, fun value meets otherMeets => ne ?_⟩
  have equal := (meets.eq_of_tags tags).symm.trans (otherMeets.eq_of_tags otherTags)
  exact string.inj (Option.some.inj equal)
end Schema.Table

namespace Registry

/-- Whatever calls are made, in a table without conflicts every union leads to the objects of its
variants. They have different tags, the mapping sends each tag to its object, and no value fits two
alternatives of the union or of one status. -/
theorem alternatives_exclusive (calls : List Call)
    (agreed : (performAll {} calls).2.table.conflicts = []) :
    (∀ union alternatives property mapping,
      (performAll {} calls).2.table.get? union = some (.union alternatives property mapping) ->
      alternatives.Pairwise (performAll {} calls).2.table.Apart /\ property = discriminator /\
        ∃ tags : List String, tags.Nodup /\ alternatives = tags.map (variantName union) /\
          mapping.entries = tags.map (fun tag => (tag, variantName union tag)) /\
          ∀ tag ∈ tags, ∃ fields description,
            (performAll {} calls).2.table.get? (variantName union tag) =
                some (.object fields description (some (discriminator, tag))) /\
              (Node.object fields description (some (discriminator, tag))).toJson.Tags
                discriminator tag) /\ ∀ union statuses status response,
        (performAll {} calls).2.table.statusMap? union = some statuses ->
        statuses.get? status = some response ->
          response.schemas.Pairwise (performAll {} calls).2.table.Apart := by
  have rests := (accounts_performAll calls).rests
  constructor
  · intro union alternatives property mapping found
    obtain ⟨type, completed, definition, mem, named, same⟩ := rests.owned union _ found
    obtain ⟨-, fields, description, tag?, -, object⟩ | ⟨name, variants, rfl, rfl⟩ :=
      Descriptor.ownDefinitions_cases mem
    · rw [object] at same
      cases same
    · obtain rfl : name = union := named
      have distinct := completed.1.2.1
      cases same
      refine ⟨completed.apart agreed (Sublist.refl _), rfl, variants.map Variant.name, distinct,
        ?_, ?_, ?_⟩
      · rw [map_map, map_map]
        rfl
      · rw [OrderedMap.entries_ofList_of_nodup]
        · rw [map_map, map_map]
          rfl
        · rw [map_map, map_map]
          exact distinct
      · intro tag listed
        obtain ⟨variant, inside, rfl⟩ := mem_map.mp listed
        exact ⟨_, _, completed.variant agreed inside⟩
  · intro union statuses status response found answers
    obtain ⟨type, completed, definition, mem, named, stated⟩ := rests.statuses union _ found
    obtain ⟨plain, -⟩ | ⟨name, variants, rfl, rfl⟩ := Descriptor.ownDefinitions_cases mem
    · rw [plain] at stated
      cases stated
    · cases stated
      rw [StatusMap.get?_ofVariants] at answers
      rw [groupResponse_schemas answers]
      exact completed.apart agreed filter_sublist

/-- Two faults of one status: no answer fits both. -/
theorem alternatives_exclusive_items : ∃ statuses response,
    (performAll {} itemRoutes).2.table.statusMap? "Fault" = some statuses /\
      statuses.get? 503 = some response /\ response.schemas = ["Fault.Busy", "Fault.Closed"] /\
      response.schemas.Pairwise (performAll {} itemRoutes).2.table.Apart := by
  have listed : ((performAll {} itemRoutes).2.table.statusMap? "Fault").bind (fun statuses =>
      (statuses.get? 503).map (·.schemas)) = some ["Fault.Busy", "Fault.Closed"] := by decide +kernel
  obtain ⟨statuses, found, listed⟩ := Option.bind_eq_some_iff.mp listed
  obtain ⟨response, answers, schemas⟩ := Option.map_eq_some_iff.mp listed
  exact ⟨statuses, response, found, answers, schemas,
    (alternatives_exclusive itemRoutes (by decide +kernel)).2 _ _ _ _ found answers⟩
end Registry

end

open List Schema

namespace Schema

/-- Primitives and references, in arrays: nothing in them is marked. -/
def Node.Unmarked : Node -> Prop
  | .primitive _ | .ref _ | .enumRef _ => True
  | .array inner => inner.Unmarked
  | .optional _ | .object .. | .union .. => False

def Descriptor.isOptional : Descriptor -> Bool
  | .optional _ => true
  | _ => false

/-- A field has to be present: neither is it flagged nor is its type optional. -/
def Field.isRequired (field : Field) : Bool := !field.optional && !field.type.isOptional

/-- The objects that a type stands for, with their tags and fields: a struct itself, and the
variants of a union. -/
def Descriptor.objects : Descriptor -> List (String × Option (String × String) × List Field)
  | .struct name fields _ => [(name, none, fields)]
  | .union name variants => variants.map fun variant =>
    (variantName name variant.name, some (discriminator, variant.name), variant.fields)
  | _ => []

theorem Descriptor.isOptional_shape (type : Descriptor) :
    type.shape.isOptional = type.isOptional := by
  cases type <;> rfl

theorem Descriptor.shape_unmarked : (type : Descriptor) -> type.shape.stripOptional.Unmarked
  | .optional inner | .sequence inner => inner.shape_unmarked
  | .primitive _ | .named _ | .struct .. | .union .. => trivial

theorem Field.member_unmarked (field : Field) : field.member.2.stripOptional.Unmarked := by
  have shape := field.type.shape_unmarked
  unfold Field.member
  split
  · rename_i marked
    cases node : field.type.shape with
    | optional inner => simp [node, Node.isOptional] at marked
    | primitive | array | object | ref | enumRef | union =>
      rw [node] at shape
      exact shape
  · exact shape

theorem Field.isOptional_member (field : Field) : field.member.2.isOptional = !field.isRequired := by
  rw [isRequired, <- Descriptor.isOptional_shape, Field.member]
  cases field.optional <;> cases marked : field.type.shape.isOptional <;> simp [marked]
  rfl

theorem Node.requiredFields_members (declared : List Field) :
    requiredFields (declared.map Field.member) =
      (declared.filter Field.isRequired).map Field.name := by
  induction declared with
  | nil => rfl
  | cons field rest ih =>
    have split : requiredFields (field.member :: rest.map Field.member) =
      if field.member.2.isOptional then _ else _ := rfl
    rw [map_cons, split, ih, field.isOptional_member, filter_cons]
    cases field.isRequired <;> rfl

/-- Every registered node is defined by one of some types, which is without fault. -/
def Table.Drawn (types : List Descriptor) (table : Table) : Prop :=
  ∀ name node, table.get? name = some node -> ∃ type ∈ types, type.OwnSound /\
      ∃ defn ∈ type.ownDefinitions, defn.name = name /\ defn.node = node

theorem Synthesis.Runs.drawn (runs : Runs active part pre post) (within : part.types ⊆ types)
    (drawn : pre.table.Drawn types) : post.table.Drawn types := by
  induction runs with
  | primitive | named | noFields | noVariants | remembered => exact drawn
  | optional _ ih | sequence _ ih => exact ih within drawn
  | inside =>
    split
    · exact drawn
    · intro name node found
      rw [Table.get?, Session.conflicted, Table.schemas_recordConflict] at found
      exact drawn name node found
  | @built _ type _ _ _ isType _ _ sound _ table _ ih =>
    have split : (Part.type type).types = type.inside ++ [type] := type.types_of_isType isType
    rw [split] at within
    rw [types_content] at ih
    intro name node found
    rw [table] at found
    rcases Table.get?_enterAll_cases found with old | new
    · exact ih (append_subset.mp within).1 drawn name node old
    · exact ⟨type, within (mem_append_right _ (.head _)), sound, new⟩
  | field _ _ here later =>
    exact later (append_subset.mp within).2 (here (append_subset.mp within).1 drawn)
  | variant _ _ here later =>
    refine later (append_subset.mp within).2 (here (append_subset.mp within).1 ?_)
    unfold Session.noted
    split <;> exact drawn

theorem Synthesis.drawn_ofDescriptors (within : descs.flatMap Descriptor.types ⊆ types)
    (drawn : pre.table.Drawn types) (yields : Yields (ofDescriptors descs) pre () post) :
    post.table.Drawn types := by
  induction descs generalizing pre with
  | nil => exact (yields_pure.mp yields).2 ▸ drawn
  | cons descriptor rest ih =>
    obtain ⟨shape, mid, built, remaining⟩ := yields_ofDescriptors_cons.mp yields
    rw [flatMap_cons] at within
    exact ih (append_subset.mp within).2 ((runs_of_node descriptor built).2.2.drawn
      (append_subset.mp within).1 drawn) remaining

theorem Descriptor.exists_object {type : Descriptor} (sound : type.OwnSound)
    (mem : defn ∈ type.ownDefinitions) (object : defn.node = .object fields about tag?) :
    ∃ declared, (defn.name, tag?, declared) ∈ type.objects /\ fields = declared.map Field.member /\
      ((tag?.map Prod.fst).toList ++ declared.map Field.name).Nodup := by
  cases type with
  | struct name declared about =>
    obtain rfl := mem_singleton.mp mem
    cases object
    exact ⟨declared, .head _, rfl, sound.distinct⟩
  | union name variants =>
    rcases mem_append.mp mem with ofVariant | whole
    · obtain ⟨_, listed, rfl⟩ := mem_map.mp ofVariant
      obtain ⟨variant, inside, rfl⟩ := mem_map.mp listed
      have fields := sound.2.2 variant inside
      cases object
      exact ⟨variant.fields, mem_map_of_mem inside, rfl,
        nodup_cons.mpr ⟨fields.untagged, fields.fields.distinct⟩⟩
    · obtain rfl := mem_singleton.mp whole
      cases object
  | _ => cases mem
end Schema

namespace Registry
theorem drawn_performAll (calls : List Call) :
    (performAll {} calls).2.table.Drawn (passedTypes calls) := by
  refine @held_passedTypes (fun types table => table.Drawn types) nofun (fun _ _ => id) ?_ calls
  intro types descs pre post drawn yields
  refine Synthesis.drawn_ofDescriptors (subset_append_right _ _) ?_ yields
  intro name node found
  obtain ⟨type, mem, defined⟩ := drawn name node found
  exact ⟨type, mem_append_left _ mem, defined⟩

/-- Whatever calls are made, the members of a registered object have different names, the tag
included, and are marked at most at their outside. They are the fields of a type that was passed,
in order; the object is rendered with one property for each of them, and it requires the tag and
the fields that have to be present. -/
theorem objects_in_normal_form (calls : List Call) (name description : String)
    (fields : List (String × Node)) (tag? : Option (String × String))
    (found : (performAll {} calls).2.table.get? name = some (.object fields description tag?)) :
    ((tag?.map Prod.fst).toList ++ fields.map Prod.fst).Nodup /\
      (∀ field ∈ fields, field.2.stripOptional.Unmarked) /\
      (Node.object fields description tag?).toJson.member? "properties" =
        some (.object ((tag?.map fun (property, value) => (property, tagJson value)).toList ++
          fields.map fun field => (field.1, field.2.toJson))) /\
      ∃ type ∈ passedTypes calls, ∃ declared, (name, tag?, declared) ∈ type.objects /\
        fields.map Prod.fst = declared.map Field.name /\
        ∃ required, required = (tag?.map Prod.fst).toList ++
            (declared.filter Field.isRequired).map Field.name /\ required.Nodup /\
          (Node.object fields description tag?).toJson.member? "required" =
            if required = [] then none else some (.texts required) := by
  obtain ⟨type, mem, sound, definition, defined, rfl, object⟩ := drawn_performAll calls name _ found
  obtain ⟨declared, listed, rfl, distinct⟩ := Descriptor.exists_object sound defined object
  have names := Synthesis.fst_member declared
  rw [<- names] at distinct
  refine ⟨distinct, ?_, Node.properties_toJson distinct description, type, mem, declared, listed,
    names, _, rfl, ?_, ?_⟩
  · intro field inside
    obtain ⟨field, -, rfl⟩ := mem_map.mp inside
    exact field.member_unmarked
  · rw [names] at distinct
    exact distinct.sublist ((filter_sublist.map _).append_left _)
  · rw [Node.required_toJson, Node.requiredFields_members]

/-- Both ways to say that a field may be left out, and an optional type inside a sequence. -/
theorem objects_in_normal_form_order :
    let order : Descriptor := .struct "Order" [⟨"id", .primitive "int", false⟩,
      ⟨"note", .optional (.optional (.primitive "str")), true⟩,
      ⟨"tags", .sequence (.optional (.primitive "str")), true⟩] ""
    ∃ fields, (performAll {} [.registerType (.descriptor order)]).2.table.get? "Order" =
        some (.object fields "" none) /\ fields.map Prod.fst = ["id", "note", "tags"] /\
      (Node.object fields "" none).toJson.member? "required" = some (.texts ["id"]) /\
      ∀ field ∈ fields, field.2.stripOptional.Unmarked := by
  intro order
  have found : (performAll {} [.registerType (.descriptor order)]).2.table.get? "Order" =
      some (.object [("id", .primitive .integer), ("note", .optional (.primitive .string)),
        ("tags", .optional (.array (.primitive .string)))] "" none) := by rfl
  exact ⟨_, found, rfl, rfl, (objects_in_normal_form _ _ _ _ _ found).2.1⟩
end Registry
end RouteDocs
