import RouteDocs.OpenApi.Assembly
import RouteDocs.Proofs.TableInvariants

namespace RouteDocs
open List

/-!
# Where a document refers to schemas

References are looked for in the rendering. In a schema position every member counts, with two
exceptions: the names under `properties` are names of fields, and a discriminator refers by the
values of its mapping. `documentTargets` goes through all schema positions of a document.
-/

namespace Json
def members : Json -> List (String × Json)
  | .object members => members
  | _ => []

def items : Json -> List Json
  | .array items => items
  | _ => []

def values (value : Json) : List Json := value.members.map Prod.snd

def under (key : String) (value : Json) : List Json :=
  (value.members.filter fun entry => entry.1 = key).map Prod.snd

def mappingTargets (discriminator : Json) : List Json :=
  (discriminator.under "mapping").flatMap values

mutual
def schemaTargets : Json -> List Json
  | .object members => memberTargets members
  | .array items => itemTargets items
  | _ => []

def memberTargets : List (String × Json) -> List Json
  | [] => []
  | (key, value) :: rest =>
    (if key = "$ref" then [value] else if key = "properties" then propertyTargets value
      else if key = "discriminator" then mappingTargets value
      else schemaTargets value) ++ memberTargets rest

def propertyTargets : Json -> List Json
  | .object members => valueTargets members
  | _ => []

def valueTargets : List (String × Json) -> List Json
  | [] => []
  | (_, value) :: rest => schemaTargets value ++ valueTargets rest

def itemTargets : List Json -> List Json
  | [] => []
  | item :: rest => schemaTargets item ++ itemTargets rest
end

def contentTargets (body : Json) : List Json :=
  (((body.under "content").flatMap values).flatMap (under "schema")).flatMap schemaTargets

def operationTargets (op : Json) : List Json :=
  (op.under "requestBody").flatMap contentTargets ++
    ((op.under "responses").flatMap values).flatMap contentTargets ++
    (((op.under "parameters").flatMap items).flatMap (under "schema")).flatMap schemaTargets

def components (page : Json) : List (String × Json) :=
  ((page.under "components").flatMap (under "schemas")).flatMap members

def documentTargets (page : Json) : List Json :=
  (((page.under "paths").flatMap values).flatMap values).flatMap operationTargets ++
    page.components.flatMap fun (_, schema) => schemaTargets schema

@[simp] theorem under_object_nil (key : String) : under key (.object []) = [] := rfl

@[simp] theorem under_object_cons (key name : String) (value : Json) (rest : List (String × Json)) :
    under key (.object ((name, value) :: rest)) =
      (if name = key then [value] else []) ++ under key (.object rest) := by
  unfold under members
  by_cases same : name = key <;> simp [same]

@[simp] theorem under_object_append (key : String) (first second : List (String × Json)) :
    under key (.object (first ++ second)) = under key (.object first) ++ under key (.object second) := by
  unfold under members
  rw [filter_append, map_append]

theorem flatMap_under_texts {α : Type} (key : String) (entries : List (String × String))
    {find : Json -> List α} (nothing : ∀ text, find (.string text) = []) :
    (under key (.object (entries.map fun (name, text) => (name, .string text)))).flatMap find = [] := by
  rw [flatMap_eq_nil_iff]
  intro value mem
  obtain ⟨entry, listed, rfl⟩ := mem_map.mp mem
  obtain ⟨text, -, rfl⟩ := mem_map.mp (mem_of_mem_filter listed)
  exact nothing text.2

theorem memberTargets_append (first second : List (String × Json)) :
    memberTargets (first ++ second) = memberTargets first ++ memberTargets second := by
  induction first with
  | nil => rfl
  | cons entry rest ih =>
    obtain ⟨key, value⟩ := entry
    rw [cons_append, memberTargets, memberTargets, ih, append_assoc]

theorem valueTargets_eq_flatMap (entries : List (String × Json)) :
    valueTargets entries = entries.flatMap fun entry => schemaTargets entry.2 := by
  induction entries with
  | nil => rfl
  | cons entry rest ih => rw [valueTargets, ih, flatMap_cons]

theorem itemTargets_eq_flatMap (items : List Json) : itemTargets items = items.flatMap schemaTargets := by
  induction items with
  | nil => rfl
  | cons item rest ih => rw [itemTargets, ih, flatMap_cons]

theorem schemaTargets_texts (words : List String) : schemaTargets (texts words) = [] := by
  unfold texts
  rw [schemaTargets, itemTargets_eq_flatMap, flatMap_map]
  exact flatMap_eq_nil_iff.mpr fun _ _ => rfl
end Json

open Json

namespace Schema
def target (name : String) : Json := .string (componentPath name)

theorem schemaTargets_refJson (name : String) : schemaTargets (refJson name) = [target name] := rfl

theorem schemaTargets_typeJson (type : String) : schemaTargets (typeJson type) = [] := by
  simp [typeJson, schemaTargets, memberTargets]

theorem schemaTargets_oneOf (names : List String) :
    schemaTargets (.array (names.map refJson)) = names.map target := by
  rw [schemaTargets, itemTargets_eq_flatMap, flatMap_map]
  induction names with
  | nil => rfl
  | cons name rest ih =>
    rw [flatMap_cons, schemaTargets_refJson, ih]
    rfl

theorem Node.schemaTargets_toJson_of_flat : (node : Node) -> node.Flat ->
    schemaTargets node.toJson = node.references.map target
  | .primitive type, _ => schemaTargets_typeJson type.word
  | .optional inner, flat => schemaTargets_toJson_of_flat inner flat
  | .array inner, flat => by
    have within := schemaTargets_toJson_of_flat inner flat
    simp [Node.toJson, Node.references, schemaTargets, memberTargets, within]
  | .ref name, _ => schemaTargets_refJson name
  | .enumRef name, _ => schemaTargets_refJson name

theorem schemaTargets_objectJson {about : String}
    (mem : found ∈ schemaTargets (objectJson about properties required)) :
    ∃ property ∈ properties, found ∈ schemaTargets property.2 := by
  have atProperties : found ∈ valueTargets (OrderedMap.ofList properties).entries := by
    have opened : schemaTargets (objectJson about properties required) =
        valueTargets (OrderedMap.ofList properties).entries := by
      unfold objectJson
      simp only [schemaTargets, memberTargets_append]
      have described : memberTargets (if about.isEmpty then []
          else [("description", .string about)]) = [] := by
        split <;> simp [memberTargets, schemaTargets]
      have demanded : memberTargets (if required.isEmpty then []
          else [("required", texts required)]) = [] := by
        split <;> simp [memberTargets, schemaTargets_texts]
      rw [described, demanded]
      simp [memberTargets, schemaTargets, ofMembers, propertyTargets]
    rw [<- opened]
    exact mem
  rw [valueTargets_eq_flatMap] at atProperties
  obtain ⟨entry, listed, within⟩ := mem_flatMap.mp atProperties
  exact ⟨entry, OrderedMap.entries_ofList_subset _ listed, within⟩

theorem Node.propertiesJson_eq_map (fields : List (String × Node)) :
    propertiesJson fields = fields.map fun field => (field.1, field.2.toJson) := by
  induction fields with
  | nil => rfl
  | cons field rest ih => rw [propertiesJson, ih, map_cons]

theorem Node.fieldReferences_eq_flatMap (fields : List (String × Node)) :
    fieldReferences fields = fields.flatMap fun field => field.2.references := by
  induction fields with
  | nil => rfl
  | cons field rest ih => rw [fieldReferences, ih, flatMap_cons]

theorem Node.mem_references_of_target {node : Node} (registrable : node.Registrable)
    (mem : found ∈ schemaTargets node.toJson) : ∃ name ∈ node.references, found = target name := by
  cases node with
  | object fields about tag? =>
    obtain ⟨property, listed, within⟩ := schemaTargets_objectJson mem
    rcases mem_append.mp listed with tag | ofField
    · obtain ⟨pair, -, rfl⟩ := Option.map_eq_some_iff.mp (Option.mem_toList.mp tag)
      simp [tagJson, schemaTargets, memberTargets, itemTargets] at within
    · rw [Node.propertiesJson_eq_map] at ofField
      obtain ⟨field, fieldListed, rfl⟩ := mem_map.mp ofField
      rw [Node.schemaTargets_toJson_of_flat field.2 (registrable field fieldListed)] at within
      obtain ⟨name, referred, rfl⟩ := mem_map.mp within
      rw [Node.references, Node.fieldReferences_eq_flatMap]
      exact ⟨name, mem_flatMap.mpr ⟨field, fieldListed, referred⟩, rfl⟩
  | union variants discriminator mapping =>
    have opened : schemaTargets (Node.union variants discriminator mapping).toJson =
        variants.map target ++ mapping.entries.map fun entry => target entry.2 := by
      have alternatives := schemaTargets_oneOf variants
      rw [Node.toJson, schemaTargets]
      simp [memberTargets, alternatives, mappingTargets, values, members, target]
    rw [opened] at mem
    rcases mem_append.mp mem with alternative | mapped
    · obtain ⟨name, listed, rfl⟩ := mem_map.mp alternative
      exact ⟨name, listed, rfl⟩
    · obtain ⟨entry, listed, rfl⟩ := mem_map.mp mapped
      exact ⟨entry.2, registrable entry listed, rfl⟩
  | primitive | optional | array | ref | enumRef => exact absurd registrable id
end Schema

namespace OpenApi
open Schema

theorem BodySchema.schemaTargets_toJson (schema : BodySchema) :
    schemaTargets schema.toJson = schema.references.map target := by
  cases schema with
  | ref name => exact schemaTargets_refJson name
  | oneOf names =>
    rw [BodySchema.toJson, schemaTargets]
    simp [memberTargets, schemaTargets_oneOf, BodySchema.references]
  | anyObject => exact schemaTargets_typeJson "object"

theorem RequestBody.contentTargets_toJson (body : RequestBody) :
    contentTargets body.toJson = body.schema.references.map target := by
  have described : under "content" (.object (if body.description.isEmpty then []
      else [("description", .string body.description)])) = [] := by
    split <;> simp
  unfold contentTargets RequestBody.toJson
  rw [under_object_append, described]
  simp [values, members, BodySchema.schemaTargets_toJson]

def Response.references (resp : Response) : List String :=
  (resp.schema?.map BodySchema.references).getD []

theorem Response.contentTargets_toJson (resp : Response) :
    contentTargets resp.toJson = resp.references.map target := by
  obtain ⟨about, contentType, schema?, examples⟩ := resp
  unfold contentTargets Response.toJson Response.references
  cases schema? <;> cases examples <;>
    simp [values, members, BodySchema.schemaTargets_toJson]

theorem schemaTargets_parameters (params : List Parameter) :
    ((params.map Parameter.toJson).flatMap (under "schema")).flatMap schemaTargets = [] := by
  rw [flatMap_map, flatMap_assoc, flatMap_eq_nil_iff]
  intro param _
  unfold Parameter.toJson
  cases param.description.isEmpty <;> simp [schemaTargets_typeJson]

def Operation.references (op : Operation) : List String :=
  (op.requestBody?.map fun body => body.schema.references).getD [] ++
    op.responses.values.flatMap Response.references

theorem Operation.operationTargets_toJson (op : Operation) :
    operationTargets op.toJson = op.references.map target := by
  have described : ∀ key, key ≠ "description" -> under key (.object
      (if op.description.isEmpty then []
        else [("description", .string op.description)])) = [] := by
    intro key ne
    split <;> simp [ne.symm]
  have body : (under "requestBody" op.toJson).flatMap contentTargets =
      ((op.requestBody?.map fun body => body.schema.references).getD []).map target := by
    unfold Operation.toJson
    simp only [under_object_append, flatMap_append, described "requestBody" (by decide)]
    rw [flatMap_under_texts _ _ fun _ => rfl]
    cases op.requestBody? with
    | none => cases op.parameters <;> simp
    | some body => cases op.parameters <;> simp [RequestBody.contentTargets_toJson]
  have resps : ((under "responses" op.toJson).flatMap values).flatMap contentTargets =
      (op.responses.values.flatMap Response.references).map target := by
    unfold Operation.toJson
    simp only [under_object_append, flatMap_append, described "responses" (by decide)]
    rw [flatMap_under_texts _ _ fun _ => rfl]
    cases op.requestBody? <;> cases op.parameters <;>
      simp [values, members, OrderedMap.values, flatMap_map, map_flatMap,
        Response.contentTargets_toJson]
  have params : (under "parameters" op.toJson).flatMap items =
      op.parameters.map Parameter.toJson := by
    unfold Operation.toJson
    simp only [under_object_append, flatMap_append, described "parameters" (by decide)]
    rw [flatMap_under_texts _ _ fun _ => rfl]
    cases op.requestBody? <;> cases op.parameters <;> simp [items]
  rw [operationTargets, body, resps, params, schemaTargets_parameters, append_nil, <- map_append]
  rfl
end OpenApi

namespace Document
theorem components_toJson (page : Document) : page.toJson.components =
      page.schemas.entries.map fun (name, node) => (name, node.toJson) := by
  simp [toJson, components, members]

theorem documentTargets_toJson (page : Document) : documentTargets page.toJson =
      ((page.paths.values.flatMap OrderedMap.values).flatMap
        OpenApi.Operation.references).map Schema.target ++
      page.schemas.values.flatMap fun node => schemaTargets node.toJson := by
  unfold documentTargets
  rw [components_toJson]
  simp [toJson, values, members, OrderedMap.values, flatMap_map, map_flatMap,
    flatMap_assoc, OpenApi.Operation.operationTargets_toJson]
end Document
end RouteDocs
