import RouteDocs.Proofs.JsonText
import RouteDocs.Proofs.ReferenceClosure
import RouteDocs.Proofs.RouteDocuments

namespace RouteDocs
open List OpenApi
open Json (Plain)

/-!
# The text of a document

Whatever the titles, names and descriptions are, no two members of an object in the rendering of a
document have one name: sections of the documentation are marked, so that none takes the place of a
member of the operation. So the text of a document is read as its rendering, if that holds for the
examples, which are values that the documentation gives.
-/

namespace Json
variable {fine : Int -> Prop}

structure Spread (fine : Int -> Prop) (names : List String) (members : List (String × Json)) : Prop where
  names : (members.map Prod.fst).Sublist names
  each : ∀ mem ∈ members, Plain fine mem.2

section
variable (name : String) {names others : List String} {members more : List (String × Json)}

theorem spread_nil : Spread fine [name] [] := ⟨nil_sublist _, nofun⟩

theorem spread_one (plain : Plain fine json) : Spread fine [name] [(name, json)] :=
  ⟨List.Sublist.refl _, forall_mem_singleton.mpr plain⟩

theorem spread_if (condition : Bool) (plain : Plain fine json) :
    Spread fine [name] (if condition then [] else [(name, json)]) := by
  split
  · exact spread_nil name
  · exact spread_one name plain

theorem Spread.append (first : Spread fine names members) (second : Spread fine others more) :
    Spread fine (names ++ others) (members ++ more) where
  names := by
    rw [map_append]
    exact first.names.append second.names
  each := forall_mem_append.mpr ⟨first.each, second.each⟩

theorem Spread.plain (spread : Spread fine names members) (nodup : names.Nodup) :
    Plain fine (.object members) :=
  .object (nodup.sublist spread.names) spread.each
end

theorem plain_single (name : String) (plain : Plain fine json) : Plain fine (.object [(name, json)]) :=
  (spread_one name plain).plain (nodup_singleton name)

theorem plain_entries (fine : Int -> Prop) {κ υ : Type} [DecidableEq κ] (map : OrderedMap κ υ) (rename : κ -> String)
    (apart : Function.Injective rename) (render : υ -> Json)
    (each : ∀ entry ∈ map.entries, Plain fine (render entry.2)) :
    Plain fine (.object (map.entries.map fun entry => (rename entry.1, render entry.2))) := by
  refine .object ?_ (forall_mem_map.mpr each)
  have keys := map.distinct.map apart
  rwa [map_map] at keys ⊢

theorem plain_ofMembers {members : List (String × Json)} (each : ∀ mem ∈ members, Plain fine mem.2) :
    Plain fine (ofMembers members) :=
  .object (OrderedMap.ofList members).distinct fun mem listed =>
    each mem (OrderedMap.entries_ofList_subset members listed)

theorem plain_array {α : Type} {render : α -> Json} (each : ∀ item, Plain fine (render item))
    (items : List α) : Plain fine (.array (items.map render)) :=
  .array (forall_mem_map.mpr fun item _ => each item)
end Json

open Json

namespace Schema
theorem plain_refJson (name : String) : Plain fine (refJson name) := plain_single _ (.string _)

theorem plain_typeJson (type : String) : Plain fine (typeJson type) := plain_single _ (.string _)

theorem plain_objectJson (about : String) {properties : List (String × Json)}
    (required : List String) (each : ∀ property ∈ properties, Plain fine property.2) :
    Plain fine (objectJson about properties required) :=
  ((((spread_one "type" (.string _)).append (spread_if "description" _ (.string _))).append
    (spread_one "properties" (plain_ofMembers each))).append
      (spread_if "required" _ (plain_array Plain.string required))).plain (by decide)

mutual
theorem Node.plain_toJson : (node : Node) -> Plain fine node.toJson
  | .primitive type => plain_typeJson _
  | .optional inner => inner.plain_toJson
  | .array inner =>
    ((spread_one "type" (.string _)).append (spread_one "items" inner.plain_toJson)).plain (by decide)
  | .ref name | .enumRef name => plain_refJson name
  | .union variants discriminator mapping => by
    have leads := plain_entries fine mapping id Function.injective_id
      (fun name => .string (componentPath name)) fun _ _ => .string _
    have chosen := ((spread_one "propertyName" (.string discriminator)).append
      (spread_one "mapping" leads)).plain (by decide)
    exact ((spread_one "oneOf" (plain_array plain_refJson variants)).append
      (spread_one "discriminator" chosen)).plain (by decide)
  | .object fields about tag? => by
    refine plain_objectJson _ _ (forall_mem_append.mpr ⟨?_, plain_propertiesJson fields⟩)
    cases tag? with
    | none => exact nofun
    | some tag =>
      exact forall_mem_singleton.mpr (((spread_one "type" (.string _)).append
        (spread_one "enum" (plain_array Plain.string [tag.2]))).plain (by decide))

theorem Node.plain_propertiesJson : (fields : List (String × Node)) ->
    ∀ property ∈ propertiesJson fields, Plain fine property.2
  | [] => nofun
  | (_, node) :: rest => forall_mem_cons.mpr ⟨node.plain_toJson, Node.plain_propertiesJson rest⟩
end
end Schema

namespace OpenApi
theorem BodySchema.plain_toJson (schema : BodySchema) : Plain fine schema.toJson := by
  cases schema with
  | ref name => exact Schema.plain_refJson name
  | anyObject => exact Schema.plain_typeJson _
  | oneOf names => exact plain_single _ (plain_array Schema.plain_refJson names)

theorem spread_text (name : String) (text? : Option String) : Spread fine [name] (match text? with
      | none => []
      | some text => if text.isEmpty then [] else [(name, .string text)]) := by
  cases text? with
  | none => exact spread_nil name
  | some text => exact spread_if name _ (.string text)

theorem Info.plain_toJson (info : Info) : Plain fine info.toJson :=
  (((spread_one "title" (.string _)).append (spread_one "version" (.string _))).append
    (spread_text "description" info.description?)).plain (by decide)

theorem Parameter.plain_toJson (param : Parameter) : Plain fine param.toJson :=
  ((((spread_one "name" (.string _)).append (spread_one "in" (.string _))).append
    (spread_if "description" _ (.string _))).append ((spread_one "required" (.bool _)).append
      (spread_one "schema" (Schema.plain_typeJson _)))).plain (by decide)

theorem RequestBody.plain_toJson (body : RequestBody) : Plain fine body.toJson :=
  ((spread_if "description" _ (.string _)).append ((spread_one "content" (plain_single _
    (plain_single _ body.schema.plain_toJson))).append (spread_one "required" (.bool _)))).plain
      (by decide)

theorem plain_exampleJson (plain : Plain fine shown.value) : Plain fine (exampleJson shown) :=
  ((spread_text "summary" shown.summary?).append (spread_one "value" plain)).plain (by decide)

theorem Response.spread_schema (resp : Response) : Spread fine ["schema"] (match resp.schema? with
      | none => []
      | some schema => [("schema", schema.toJson)]) := by
  split
  · exact spread_nil _
  · exact spread_one _ (BodySchema.plain_toJson _)

theorem Response.plain_toJson {resp : Response}
    (examples : ∀ shown ∈ resp.examples, Plain fine shown.value) : Plain fine resp.toJson := by
  have shown : Plain fine (ofMembers (resp.examples.map fun shown =>
      (shown.name, exampleJson shown))) :=
    plain_ofMembers (forall_mem_map.mpr fun shown mem => plain_exampleJson (examples shown mem))
  have media := resp.spread_schema.append (spread_if "examples" resp.examples.isEmpty shown)
  exact ((spread_one "description" (.string _)).append (spread_if "content" _
    (plain_single resp.contentType (media.plain (by decide))))).plain (by decide)

def Operation.Marked (op : Operation) : Prop :=
  ∀ name ∈ op.extensions.keys, ∃ tail, name.toList = 'x' :: '-' :: tail

variable {op : Operation}

theorem Site.Describes.marked {site : Site} (describes : site.Describes op) : op.Marked := by
  intro name mem
  rw [describes.extensions] at mem
  obtain ⟨entry, listed, rfl⟩ := mem_map.mp mem
  obtain ⟨part, -, rfl⟩ := mem_map.mp (OrderedMap.entries_ofList_subset _ listed)
  exact ⟨_, String.toList_ofList⟩

theorem Operation.spread_requestBody (op : Operation) :
    Spread fine ["requestBody"] (match op.requestBody? with
      | none => []
      | some body => [("requestBody", body.toJson)]) := by
  split
  · exact spread_nil _
  · exact spread_one _ (RequestBody.plain_toJson _)

theorem Operation.plain_toJson (marked : op.Marked)
    (examples : ∀ resp ∈ op.responses.values, ∀ shown ∈ resp.examples,
      Plain fine shown.value) : Plain fine op.toJson := by
  have resps := plain_entries fine op.responses toString Reader.toString_injective
    Response.toJson fun entry mem => Response.plain_toJson (examples _ (mem_map_of_mem mem))
  have fixed := (((((spread_one "operationId" (.string op.operationId)).append
    (spread_one "summary" (.string op.summary))).append
      (spread_if "description" op.description.isEmpty (.string op.description))).append
        (spread_if "parameters" op.parameters.isEmpty
          (plain_array Parameter.plain_toJson op.parameters))).append op.spread_requestBody).append
            (spread_one "responses" resps)
  have further : Spread fine op.extensions.keys (op.extensions.entries.map fun entry =>
      (entry.1, .string entry.2)) := by
    refine ⟨?_, forall_mem_map.mpr fun _ _ => .string _⟩
    rw [map_map]
    exact List.Sublist.refl _
  refine (fixed.append further).plain (nodup_append.mpr ⟨by decide, op.extensions.distinct, ?_⟩)
  rintro name unmarked _ mem rfl
  obtain ⟨tail, begins⟩ := marked name mem
  simp only [cons_append, nil_append, mem_cons, not_mem_nil, or_false] at unmarked
  rcases unmarked with rfl | rfl | rfl | rfl | rfl | rfl <;> cases begins
end OpenApi

def Document.examples (document : Document) : List Json :=
  document.paths.values.flatMap fun ops => ops.values.flatMap fun op =>
    op.responses.values.flatMap fun resp => resp.examples.map Doc.Example.value

theorem Document.plain_toJson {document : Document} (marked : document.paths.Every Operation.Marked)
    (examples : ∀ value ∈ document.examples, Plain fine value) : Plain fine document.toJson := by
  have paths := plain_entries fine document.paths id Function.injective_id
    (fun ops => .object (ops.entries.map fun entry =>
      (Http.Method.key entry.1, Operation.toJson entry.2))) fun filed listed =>
    plain_entries fine filed.2 Http.Method.key Http.Method.key_injective Operation.toJson
      fun item mem => Operation.plain_toJson
        (marked _ (mem_map_of_mem listed) _ (mem_map_of_mem mem))
        fun resp found shown given => examples _ (mem_flatMap.mpr ⟨_,
          mem_map_of_mem listed, mem_flatMap.mpr ⟨_, mem_map_of_mem mem,
            mem_flatMap.mpr ⟨resp, found, mem_map_of_mem given⟩⟩⟩)
  have schemas := plain_entries fine document.schemas id Function.injective_id Schema.Node.toJson
    fun entry _ => entry.2.plain_toJson
  exact ((((spread_one "openapi" (.string _)).append
    (spread_one "info" document.info.plain_toJson)).append (spread_one "paths" paths)).append
      (spread_one "components" (plain_single "schemas" schemas))).plain (by decide)

namespace Registry
end Registry
end RouteDocs
