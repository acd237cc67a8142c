import RouteDocs.Proofs.AssemblySteps
import RouteDocs.Proofs.RegistryCalls

namespace RouteDocs
open List
namespace OpenApi
open Schema Json

/-!
# No dangling references

What registered schemas refer to is checked in the table, and what routes refer to where an
operation is built. Neither check looks at the mapping of a union. That it leads nowhere else than
to the alternatives is an invariant of all tables that calls can produce.
-/

def Paths.Every (expected : Operation -> Prop) (paths : Paths) : Prop :=
  ∀ operations ∈ paths.values, ∀ op ∈ operations.values, expected op

namespace Paths.Every
variable {paths : Paths}

theorem enter (every : Every expected paths) (new : expected op) :
    Every expected (paths.enter path method op) := by
  intro operations mem other listed
  obtain ⟨entry, found, rfl⟩ := mem_map.mp mem
  obtain ⟨item, foundItem, rfl⟩ := mem_map.mp listed
  rcases OrderedMap.mem_entries_insert found with inserted | old
  · rw [inserted] at foundItem
    rcases OrderedMap.mem_entries_insert foundItem with here | pre
    · rw [here]
      exact new
    · cases known : paths.get? path with
      | none =>
        rw [known] at pre
        cases pre
      | some operations =>
        rw [known] at pre
        have listedPath := (paths.mem_entries_iff path operations).mpr known
        exact every operations (mem_map_of_mem listedPath) item.2 (mem_map_of_mem pre)
  · exact every entry.2 (mem_map_of_mem old) item.2 (mem_map_of_mem foundItem)

theorem enterAll (every : Every expected paths)
    (new : Forall₂ (fun _ op => expected op) entries operations) :
    Every expected (enterAll paths (entries.zip operations)) := by
  induction new generalizing paths with
  | nil => exact every
  | cons here _ ih => exact ih (every.enter here)
end Paths.Every

theorem every_of_assembly
    (assembled : ((assembly info entries table options).run.run pre).1 = .ok document)
    (described : ∀ entry op, Site.Describes ⟨entry, table, options⟩ op ->
      expected op) : document.paths.Every expected := by
  obtain ⟨-, -, -, operations, built, filed⟩ := paths_of_assembly assembled
  have start : Paths.Every expected ∅ := nofun
  rw [filed]
  exact start.enterAll (built.imp fun entry op alone =>
    described entry op (Site.describes_of_alone alone))

theorem covers_references (complete : danglingReference? table = none)
    (mem : entry ∈ table.schemas.entries) : Covers table entry.2.references := by
  intro name referred
  have nothing := findSome?_eq_none_iff.mp complete entry mem
  have found := find?_eq_none.mp (Option.map_eq_none_iff.mp nothing) name referred
  simpa using found
end OpenApi

namespace Registry
open Schema Json

def SchemasRegistrable (table : Table) : Prop :=
  ∀ entry ∈ table.schemas.entries, entry.2.Registrable

theorem schemasRegistrable_inductive : Table.Inductive SchemasRegistrable where
  recordConflict := by
    intro table name known
    rw [SchemasRegistrable, Table.schemas_recordConflict]
    exact known
  warn := fun _ _ known => known
  define := by
    intro table name node registrable known
    rw [Table.define_node]
    cases table.get? name with
    | none =>
      intro entry mem
      rcases OrderedMap.mem_entries_insert mem with new | old
      · rw [new]
        exact registrable
      · exact known entry old
    | some first =>
      cases same : first.same node with
      | true =>
        simp only [same, if_true]
        exact known
      | false =>
        simp only [same, Bool.false_eq_true, if_false, SchemasRegistrable,
          Table.schemas_recordConflict]
        exact known
  defineStatuses := by
    intro table name codes known
    rw [SchemasRegistrable, (table.defineStatuses_frame name codes).1]
    exact known

/-- After any calls, successful or not, and with any title, version and options: if a
document is assembled, then whatever its rendering refers to in a schema position, at
any depth and by a discriminator's mapping as well, is the path of a component, and
the name is that of a registered schema in the same rendering. -/
theorem no_dangling_reference (calls : List Call) (title version : String)
    (options : OpenApi.Options) {document : Document}
    (assembled : ((performAll {} calls).2.assemble title version options).1 = .ok document) :
    ∀ found ∈ documentTargets document.toJson, ∃ name ∈ document.toJson.components.map Prod.fst,
        found = .string (componentPath name) := by
  have registrable : SchemasRegistrable (performAll {} calls).2.table :=
    held_performAll schemasRegistrable_inductive (fun _ known => known)
      (fun _ mem => absurd mem not_mem_nil) calls
  obtain ⟨-, complete, sameSchemas, -⟩ := OpenApi.paths_of_assembly assembled
  have covered : document.paths.Every fun operation =>
      OpenApi.Covers (performAll {} calls).2.table operation.references :=
    OpenApi.every_of_assembly assembled fun _ _ described => described.covered
  have listed : ∀ name, (performAll {} calls).2.table.contains name = true ->
      name ∈ document.toJson.components.map Prod.fst := by
    intro name registered
    rw [Document.components_toJson, sameSchemas, map_map]
    exact (OrderedMap.contains_iff _ name).mp registered
  intro found mem
  rw [Document.documentTargets_toJson, sameSchemas] at mem
  rcases mem_append.mp mem with ofOperation | ofSchema
  · obtain ⟨name, referred, rfl⟩ := mem_map.mp ofOperation
    obtain ⟨operation, operationListed, atOperation⟩ := mem_flatMap.mp referred
    obtain ⟨operations, pathListed, atPath⟩ := mem_flatMap.mp operationListed
    exact ⟨name, listed name (covered operations pathListed operation atPath name atOperation), rfl⟩
  · obtain ⟨node, nodeListed, atNode⟩ := mem_flatMap.mp ofSchema
    obtain ⟨entry, entryListed, rfl⟩ := mem_map.mp nodeListed
    obtain ⟨name, referred, rfl⟩ :=
      Node.mem_references_of_target (registrable entry entryListed) atNode
    exact ⟨name, listed name (OpenApi.covers_references complete entryListed name referred), rfl⟩

def orderError : Candidate := .descriptor (.union "OrderError"
    [⟨"Stale", [⟨"current", .struct "Order" [⟨"id", .primitive "int", false⟩] "", false⟩], "409"⟩])

/-- The document of the error refers to its variant twice, by an alternative and by the
mapping, and from there to the order. -/
theorem no_dangling_reference_orderError : ∃ document,
    ((performAll {} [.registerType orderError]).2.assemble "Orders" "1").1 = .ok document /\
      (documentTargets document.toJson).length = 3 /\
      ∀ found ∈ documentTargets document.toJson, ∃ name ∈ document.toJson.components.map Prod.fst,
          found = .string (componentPath name) :=
  ⟨_, rfl, by decide, no_dangling_reference [.registerType orderError] "Orders" "1" {} rfl⟩
end Registry
end RouteDocs
