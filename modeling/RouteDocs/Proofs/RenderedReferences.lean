import RouteDocs.Proofs.Targets

/-!
# References of a node and of its rendering

The references of a node are listed without rendering it. A rendered schema has others inside it
under its properties, as its items and as its alternatives; what is found there is the same list,
as long as no property takes the place of another one.
-/

namespace RouteDocs
open List

namespace Json

mutual

/-- What the schemas at the places for schemas refer to, in order and with repetitions. The values
of a discriminator's mapping stand at no such place. -/
def schemaRefs : Json -> List Json
  | .object members => memberRefs members
  | _ => []

def memberRefs : List (String × Json) -> List Json
  | [] => []
  | (key, value) :: rest =>
    (if key = "$ref" then [value] else if key = "items" then schemaRefs value
      else if key = "properties" || key = "oneOf" then innerRefs value else []) ++ memberRefs rest

def innerRefs : Json -> List Json
  | .object members => valueRefs members
  | .array items => itemRefs items
  | _ => []

def valueRefs : List (String × Json) -> List Json
  | [] => []
  | (_, value) :: rest => schemaRefs value ++ valueRefs rest

def itemRefs : List Json -> List Json
  | [] => []
  | item :: rest => schemaRefs item ++ itemRefs rest
end

theorem memberRefs_append (first second : List (String × Json)) :
    memberRefs (first ++ second) = memberRefs first ++ memberRefs second := by
  induction first with
  | nil => rfl
  | cons entry rest ih =>
    obtain ⟨key, value⟩ := entry
    rw [cons_append, memberRefs, memberRefs, ih, append_assoc]

def component? : Json -> Option String
  | .string path =>
    let home := "#/components/schemas/".toList
    if home.isPrefixOf path.toList then some (String.ofList (path.toList.drop home.length)) else none
  | _ => none
end Json

namespace Schema
open Json

theorem component?_target (name : String) : component? (target name) = some name := by
  have path : (componentPath name).toList = "#/components/schemas/".toList ++ name.toList :=
    String.toList_append
  have home := isPrefixOf_iff_prefix.mpr (prefix_append "#/components/schemas/".toList name.toList)
  rw [target, component?, path]
  simp only [home, if_true, drop_left, String.ofList_toList]

theorem itemRefs_refJson (names : List String) :
    itemRefs (names.map refJson) = names.map target := by
  induction names with
  | nil => rfl
  | cons name rest ih =>
    rw [map_cons, itemRefs, ih]
    rfl

theorem schemaRefs_objectJson {properties : List (String × Json)}
    (distinct : (properties.map Prod.fst).Nodup) (about : String) (required : List String) :
    schemaRefs (objectJson about properties required) = valueRefs properties := by
  have described : memberRefs (if about.isEmpty then []
      else [("description", .string about)]) = [] := by
    split <;> rfl
  have demanded : memberRefs (if required.isEmpty then []
      else [("required", texts required)]) = [] := by
    split <;> rfl
  rw [objectJson, schemaRefs, memberRefs_append, memberRefs_append, memberRefs_append, described,
    demanded, ofMembers, OrderedMap.entries_ofList_of_nodup distinct, append_nil]
  exact append_nil _

namespace Node

mutual

/-- No object inside a node has two members of one name, its tag included. -/
def Distinct : Node -> Prop
  | .optional inner | .array inner => inner.Distinct
  | .object fields _ tag? =>
    ((tag?.map Prod.fst).toList ++ fields.map Prod.fst).Nodup /\ FieldsDistinct fields
  | .primitive _ | .ref _ | .enumRef _ | .union .. => True

def FieldsDistinct : List (String × Node) -> Prop
  | [] => True
  | (_, node) :: rest => node.Distinct /\ FieldsDistinct rest
end

mutual
theorem schemaRefs_toJson : (node : Node) -> node.Distinct ->
    schemaRefs node.toJson = node.references.map target
  | .primitive type, _ => rfl
  | .optional inner, distinct => schemaRefs_toJson inner distinct
  | .array inner, distinct => by
    have within := schemaRefs_toJson inner distinct
    rw [toJson, schemaRefs, references, <- within]
    exact append_nil _
  | .ref name, _ => rfl
  | .enumRef name, _ => rfl
  | .union variants discriminator mapping, _ => by
    rw [toJson, schemaRefs, references, <- itemRefs_refJson]
    exact append_nil _
  | .object fields about tag?, ⟨names, inside⟩ => by
    have within := valueRefs_propertiesJson fields inside
    rw [toJson, references, schemaRefs_objectJson, <- within]
    · cases tag? <;> rfl
    · rw [map_append, propertiesJson_eq_map, map_map]
      cases tag? <;> exact names

theorem valueRefs_propertiesJson : (fields : List (String × Node)) -> FieldsDistinct fields ->
    valueRefs (propertiesJson fields) = (fieldReferences fields).map target
  | [], _ => rfl
  | (_, node) :: rest, ⟨here, later⟩ => by
    rw [propertiesJson, valueRefs, schemaRefs_toJson node here, valueRefs_propertiesJson rest later,
      fieldReferences, map_append]
end

/-- **The references of a node are those of its rendering**, in the same order and as often. -/
theorem references_of_rendering (node : Node) (distinct : node.Distinct) :
    (schemaRefs node.toJson).map component? = node.references.map some := by
  rw [schemaRefs_toJson node distinct, map_map]
  exact map_congr_left fun name _ => component?_target name

/-- A variant that refers to one component twice, and to another inside an object of its own. -/
theorem references_of_rendering_order :
    let node := Node.object [("from", .ref "Place"), ("to", .optional (.ref "Place")),
      ("lines", .array (.object [("type", .enumRef "Kind")] "" none))] "" (some ("type", "Order"))
    node.Distinct /\
      (schemaRefs node.toJson).map component? = [some "Place", some "Place", some "Kind"] := by
  intro node
  have distinct : node.Distinct := by simp [node, Distinct, FieldsDistinct]
  exact ⟨distinct, references_of_rendering _ distinct⟩
end Node
end Schema
end RouteDocs
