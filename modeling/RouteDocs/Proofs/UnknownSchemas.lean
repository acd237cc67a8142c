import RouteDocs.Proofs.NamedReferences
import RouteDocs.Proofs.ReferenceClosure

namespace RouteDocs
open List OpenApi Http
open Route (Entry)
open Schema (Node Table)
open OpenApi.Site (present?)

/-!
# Unknown schemas

What is documented with a schema of its own needs no other one; `Entry.Uses` gives the schemas that
a route uses. The assembly of a registry without conflicts succeeds exactly if all schemas in use
are known, and otherwise it names one that is not, with the route or the schema that refers to it.
-/

inductive Route.Entry.Uses (entry : Entry) : String -> Prop where
  | documentedBody {name : String}
      (named : present? (entry.doc.requestBody?.bind (·.schema?)) = some name) : entry.Uses name
  | body {name : String} (unnamed : present? (entry.doc.requestBody?.bind (·.schema?)) = none)
      (typed : present? entry.request? = some name) : entry.Uses name
  | documentedResponse {name : String} {status : Int} {resp : Doc.Response}
      (documented : entry.doc.responses.get? status = some resp)
      (named : resp.ownSchema? = some name) : entry.Uses name
  /-- The success type is for the successes without a schema of their own, or for the only
  one if none is documented. -/
  | success {name : String} (typed : present? entry.success? = some name)
      (unanswered : (∀ status ∈ entry.doc.responses.keys, isSuccess status = false) \/
        ∃ status resp, entry.doc.responses.get? status = some resp /\
          isSuccess status = true /\ resp.ownSchema? = none) : entry.Uses name
  /-- The error type is for internal errors, unless they are documented with a schema of their
  own. -/
  | error {name : String} (typed : entry.error? = some name)
      (unanswered : ∀ resp, entry.doc.responses.get? internalError = some resp ->
        resp.ownSchema? = none) : entry.Uses name

namespace OpenApi
namespace Site
variable {site : Site} {name : String}

theorem error_of_unknown (known : site.table.StatusesKnown)
    (found : site.errorMap.get? status = some error) (listed : name ∈ error.schemas)
    (unknown : site.table.contains name = false) :
    site.entry.error? = some name /\ status = internalError := by
  unfold errorMap at found
  cases typed : site.entry.error? with
  | none =>
    rw [typed] at found
    cases found
  | some owner =>
    rw [typed] at found
    cases stated : site.table.statusMap? owner with
    | some codes =>
      simp only [stated] at found
      have registered := (known owner codes stated).2 status error found name listed
      exact absurd registered (Bool.eq_false_iff.mp unknown)
    | none =>
      simp only [stated, OrderedMap.get?_insert] at found
      by_cases internal : (internalError : Int) = status
      · rw [if_pos internal, Option.some.injEq] at found
        rw [<- found] at listed
        exact ⟨congrArg some (mem_singleton.mp listed).symm, internal.symm⟩
      · rw [if_neg internal] at found
        cases found

theorem errorMap_of_unknown (known : site.table.StatusesKnown)
    (typed : site.entry.error? = some name) (unknown : site.table.contains name = false) :
    site.errorMap.get? internalError = some ⟨internalError, name ++ " error", [name]⟩ := by
  have unstated : site.table.statusMap? name = none := by
    cases stated : site.table.statusMap? name with
    | none => rfl
    | some codes => exact absurd (known name codes stated).1 (Bool.eq_false_iff.mp unknown)
  simp [errorMap, typed, unstated]

theorem present?_present? (name? : Option String) : present? (present? name?) = present? name? := by
  unfold present?
  rw [Option.filter_filter]
  simp only [Bool.and_self]

theorem bodyName?_eq (site : Site) :
    site.bodyName? = (present? (site.entry.doc.requestBody?.bind (·.schema?))).or
      (present? site.entry.request?) := by
  unfold bodyName?
  cases documented : present? (site.entry.doc.requestBody?.bind (·.schema?)) with
  | none => rfl
  | some name =>
    have again := present?_present? (site.entry.doc.requestBody?.bind (·.schema?))
    rw [documented] at again
    exact again

theorem uses_of_mem_inferredNames (known : site.table.StatusesKnown)
    (unknown : site.table.contains name = false)
    (documented : site.entry.doc.responses.get? status = some resp)
    (unnamed : resp.ownSchema? = none) (mem : name ∈ site.inferredNames status) :
    site.entry.Uses name := by
  unfold inferredNames at mem
  split at mem
  · rename_i inferred typed
    rw [mem_singleton.mp mem]
    split at typed
    · rename_i successful
      exact .success typed (.inr ⟨status, resp, documented, successful, unnamed⟩)
    · cases typed
  · rename_i error _ found
    rcases error_of_unknown known found mem unknown with ⟨typed, rfl⟩
    refine .error typed fun other alsoDocumented => ?_
    rw [documented] at alsoDocumented
    rw [<- Option.some.inj alsoDocumented]
    exact unnamed
  · cases mem

theorem uses_of_mem_names (known : site.table.StatusesKnown)
    (unknown : site.table.contains name = false) (mem : name ∈ site.names) :
    site.entry.Uses name := by
  rcases mem_append.mp mem with ofBody | ofResponses
  · rw [Option.mem_toList, bodyName?_eq] at ofBody
    rcases Option.or_eq_some_iff.mp ofBody with named | ⟨unnamed, typed⟩
    · exact .documentedBody named
    · exact .body unnamed typed
  rcases mem_append.mp ofResponses with ofDocumented | inferred
  · rcases mem_flatMap.mp ofDocumented with ⟨⟨status, resp⟩, listed, here⟩
    have documented := (site.entry.doc.responses.mem_entries_iff status resp).mp listed
    unfold documentedNames at here
    cases own : resp.ownSchema? with
    | some name =>
      rw [own] at here
      rw [mem_singleton.mp here]
      exact .documentedResponse documented own
    | none =>
      rw [own] at here
      exact uses_of_mem_inferredNames known unknown documented own here
  rcases mem_append.mp inferred with ofSuccess | ofErrors
  · unfold successNames at ofSuccess
    split at ofSuccess
    · cases ofSuccess
    · rename_i undocumented
      rw [Option.mem_toList] at ofSuccess
      refine .success ofSuccess (.inl fun status listed => ?_)
      rw [documentsSuccess, Bool.not_eq_true, any_eq_false] at undocumented
      exact Bool.eq_false_iff.mpr (undocumented status listed)
  · rcases mem_flatMap.mp ofErrors with ⟨⟨status, error⟩, listed, here⟩
    split at here
    · cases here
    · rename_i undocumented
      have found := (site.errorMap.mem_entries_iff status error).mp listed
      rcases error_of_unknown known found here unknown with ⟨typed, rfl⟩
      refine .error typed fun resp documented => ?_
      exact absurd (Option.isSome_iff_exists.mpr ⟨resp, documented⟩) undocumented

theorem mem_names_of_documented (documented : site.entry.doc.responses.get? status = some resp)
    (mem : name ∈ site.documentedNames status resp) : name ∈ site.names := by
  have listed := (site.entry.doc.responses.mem_entries_iff status resp).mpr documented
  exact mem_append_right _ (mem_append_left _ (mem_flatMap.mpr ⟨_, listed, mem⟩))

theorem mem_names_of_uses (known : site.table.StatusesKnown)
    (unknown : site.table.contains name = false) (uses : site.entry.Uses name) :
    name ∈ site.names := by
  cases uses with
  | documentedBody named =>
    refine mem_append_left _ (Option.mem_toList.mpr ?_)
    rw [bodyName?_eq, named]
    rfl
  | body unnamed typed =>
    refine mem_append_left _ (Option.mem_toList.mpr ?_)
    rw [bodyName?_eq, unnamed, typed]
    rfl
  | documentedResponse documented named =>
    apply mem_names_of_documented documented
    rw [documentedNames, named]
    exact .head _
  | success typed unanswered =>
    rcases unanswered with undocumented | ⟨status, resp, documented, successful, unnamed⟩
    · have none : site.documentsSuccess = false := by
        rw [documentsSuccess, any_eq_false]
        intro status listed
        exact Bool.eq_false_iff.mp (undocumented status listed)
      have added : name ∈ site.successNames := by
        rw [successNames, none, typed]
        exact .head _
      exact mem_append_right _ (mem_append_right _ (mem_append_left _ added))
    · apply mem_names_of_documented documented
      rw [documentedNames, unnamed, inferredNames, if_pos successful, typed]
      exact .head _
  | error typed unanswered =>
    have found := errorMap_of_unknown known typed unknown
    cases documented : site.entry.doc.responses.get? internalError with
    | none =>
      have listed := (site.errorMap.mem_entries_iff _ _).mpr found
      have added : name ∈ site.errorNames site.errorMap.entries := by
        refine mem_flatMap.mpr ⟨_, listed, ?_⟩
        rw [if_neg (by simp [OrderedMap.contains, documented])]
        exact .head _
      exact mem_append_right _ (mem_append_right _ (mem_append_right _ added))
    | some resp =>
      apply mem_names_of_documented documented
      have failing : isSuccess (internalError : Int) = false := by decide
      rw [documentedNames, unanswered resp documented, inferredNames, failing, found]
      exact .head _
end Site

theorem checks_addOperations (table : Table) (options : Options) (entries : List Entry)
    (paths : Paths) (pre : List String) :
    ((∀ entry ∈ entries, Covers table (Site.names ⟨entry, table, options⟩)) /\
        ∃ value post, Yields (addOperations table options paths entries) pre value post) \/
      ∃ entry ∈ entries, ∃ name ∈ Site.names ⟨entry, table, options⟩, table.contains name = false /\
        ∃ post, (addOperations table options paths entries).run.run pre =
          (.error (.unresolved name ("Route " ++ entry.label)), post) := by
  induction entries generalizing paths pre with
  | nil => exact .inl ⟨nofun, paths, pre, yields_pure.mpr ⟨rfl, rfl⟩⟩
  | cons entry rest ih =>
    obtain ⟨accepted, said, ran⟩ := Site.run_operation ⟨entry, table, options⟩
    rw [addOperations, run_bind, ran]
    cases answer : Site.alone ⟨entry, table, options⟩ with
    | error failure =>
      rw [answer] at accepted
      obtain ⟨name, mem, unknown, rfl⟩ := accepted
      exact .inr ⟨entry, .head _, name, mem, unknown, _, rfl⟩
    | ok op =>
      rw [answer] at accepted ran
      rcases ih (paths.enter (Route.documentPath entry.path) entry.method op)
          (pre ++ said) with
        ⟨others, value, post, added⟩ | ⟨other, mem, name, listed, unknown, post, stopped⟩
      · exact .inl ⟨forall_mem_cons.mpr ⟨accepted.1, others⟩, value, post,
          yields_bind.mpr ⟨op, _, ran pre, added⟩⟩
      · exact .inr ⟨other, .tail _ mem, name, listed, unknown, post, stopped⟩

theorem exists_of_danglingReference? (found : danglingReference? table = some (target, owner)) :
    ∃ node, table.get? owner = some node /\ target ∈ node.references /\
      table.contains target = false := by
  rcases exists_of_findSome?_eq_some found with ⟨⟨name, node⟩, listed, here⟩
  rcases Option.map_eq_some_iff.mp here with ⟨first, missing, same⟩
  cases same
  have unknown := find?_some missing
  rw [Bool.not_eq_true'] at unknown
  exact ⟨node, (table.schemas.mem_entries_iff owner node).mp listed,
    mem_of_find?_eq_some missing, unknown⟩

/-- If there is no conflict and no reference of a schema leads nowhere, a document is a matter of
the operations. -/
theorem assembly_of_complete (info : Info) (entries : List Entry) (options : Options)
    (agreeing : table.conflicts = []) (complete : danglingReference? table = none) :
    ∃ document : Paths -> List String -> Document, assembly info entries table options = (do
        let paths <- addOperations table options ∅ entries return document paths (<- get)) := by
  unfold assembly
  rw [agreeing, complete]
  exact ⟨_, rfl⟩
end OpenApi

namespace Registry
open OpenApi (Options)

/-- A schema or a route refers to a name. The first word says which of the two, in the words of
an error. -/
inductive Refers (reg : Registry) : String -> String -> Prop where
  | schema {owner name : String} {node : Node} (found : reg.table.get? owner = some node)
      (referred : name ∈ node.references) : reg.Refers s!"Schema '{owner}'" name
  | route {entry : Entry} {name : String} (mem : entry ∈ reg.entries)
      (uses : entry.Uses name) : reg.Refers ("Route " ++ entry.label) name

/-- Without conflicts an assembly succeeds, with every name known, or it stops at a name that is
unknown. -/
theorem assemble_cases {reg : Registry} (known : reg.table.StatusesKnown)
    (agreeing : reg.table.conflicts = []) (title version : String) (options : Options) :
    ((∀ referrer name, reg.Refers referrer name -> reg.table.contains name = true) /\
        ∃ document, (reg.assemble title version options).1 = .ok document) \/
      ∃ referrer name, reg.Refers referrer name /\ reg.table.contains name = false /\
        (reg.assemble title version options).1 = .error (.unresolved name referrer) := by
  cases dangling : danglingReference? reg.table with
  | some found =>
    rcases found with ⟨target, owner⟩
    rcases exists_of_danglingReference? dangling with ⟨node, found, referred, unknown⟩
    refine .inr ⟨_, target, .schema found referred, unknown, ?_⟩
    unfold assemble assembly
    rw [agreeing, dangling]
    rfl
  | none =>
    rcases assembly_of_complete ⟨title, version, options.description?⟩ reg.entries options
      agreeing dangling with ⟨document, opened⟩
    have ran : (reg.assemble title version options).1 = ((do
        let paths <- addOperations reg.table options ∅ reg.entries
        return document paths (<- get) : Assembly Document).run.run []).1 := by
      rw [<- opened]
      rfl
    rw [ran, run_bind]
    rcases checks_addOperations reg.table options reg.entries ∅ [] with
      ⟨covered, paths, warnings, added⟩ | ⟨entry, mem, name, listed, unknown, post, stopped⟩
    · refine .inl ⟨?_, document paths warnings, ?_⟩
      · intro referrer name refers
        cases refers with
        | schema found referred =>
          have listed := (reg.table.schemas.mem_entries_iff _ _).mpr found
          exact covers_references dangling listed name referred
        | @route entry _ mem uses =>
          cases registered : reg.table.contains name with
          | true => rfl
          | false =>
            have needed : name ∈ Site.names ⟨entry, reg.table, options⟩ :=
              Site.mem_names_of_uses known registered uses
            rw [<- registered]
            exact covered entry mem name needed
      · rw [added]
        rfl
    · have uses : entry.Uses name := Site.uses_of_mem_names known unknown listed
      refine .inr ⟨_, name, .route mem uses, unknown, ?_⟩
      rw [stopped]

/-- Every unknown schema is reported. In a registry that any calls left without a conflict: if a registered
schema refers to an unknown name, or a route uses one, then the assembly fails and names such a
schema or route with its unknown name; and otherwise a document is assembled. -/
theorem unknown_schemas_reported (calls : List Call) (title version : String) (options : Options)
    {registry : Registry} (left : (performAll {} calls).2 = registry)
    (agreeing : registry.table.conflicts = []) :
    ((∃ referrer name, registry.Refers referrer name /\ registry.table.contains name = false) ->
        ∃ referrer name, registry.Refers referrer name /\ registry.table.contains name = false /\
          (registry.assemble title version options).1 = .error (.unresolved name referrer)) /\
      ((∀ referrer name, registry.Refers referrer name -> registry.table.contains name = true) ->
        ∃ document, (registry.assemble title version options).1 = .ok document) := by
  have known : registry.table.StatusesKnown := left ▸ (accounts_performAll calls).rests.statusesKnown
  rcases assemble_cases known agreeing title version options with ⟨allKnown, assembled⟩ | reported
  · refine ⟨?_, fun _ => assembled⟩
    rintro ⟨referrer, name, refers, unknown⟩
    exact absurd (allKnown referrer name refers) (Bool.eq_false_iff.mp unknown)
  · refine ⟨fun _ => reported, fun allKnown => ?_⟩
    rcases reported with ⟨referrer, name, refers, unknown, -⟩
    exact absurd (allKnown referrer name refers) (Bool.eq_false_iff.mp unknown)

section
def pageDoc : EndpointDoc where
  responses := OrderedMap.ofList [(200, .elaborate 200 "A page of items" "application/json" (some "Item") [])]

/-- A route whose answers are documented as items, with a success type that nobody knows. -/
def pageCalls : List Call := [.registerType (.descriptor (.struct "Item" [] "")),
    .register { method := "GET", path := "/pages", doc := .parsed pageDoc,
                success? := some (.descriptor (.named "Page")) }]

/-- A name need not be known: the success type of a route whose documented successes have
schemas of their own is never looked up. -/
theorem replaced_type_not_reported : (performAll {} pageCalls).2.table.conflicts = [] /\
      (∃ entry ∈ (performAll {} pageCalls).2.entries, entry.success? = some "Page") /\
      (performAll {} pageCalls).2.table.contains "Page" = false /\
      ∃ document, ((performAll {} pageCalls).2.assemble "Pages" "1").1 = .ok document := by
  refine ⟨by decide +kernel, by decide +kernel, by decide +kernel, ?_⟩
  have succeeds : ((performAll {} pageCalls).2.assemble "Pages" "1").1.isOk = true := by
    decide +kernel
  cases answer : ((performAll {} pageCalls).2.assemble "Pages" "1").1 with
  | ok document => exact ⟨document, rfl⟩
  | error failure =>
    rw [answer] at succeeds
    cases succeeds

/-- A second route has the same success type and documents nothing; it is reported. -/
theorem unknown_schemas_reported_pages : let calls := pageCalls ++ [.register
      { method := "PUT", path := "/pages", success? := some (.descriptor (.named "Page")) }]
    (performAll {} calls).2.table.conflicts = [] /\
      (∃ referrer name, (performAll {} calls).2.Refers referrer name /\
        (performAll {} calls).2.table.contains name = false /\
        ((performAll {} calls).2.assemble "Pages" "1" {}).1 = .error (.unresolved name referrer)) := by
  intro calls
  have agreeing : (performAll {} calls).2.table.conflicts = [] := by decide +kernel
  refine ⟨agreeing, (unknown_schemas_reported calls "Pages" "1" {} rfl agreeing).1 ?_⟩
  have found : ∃ entry ∈ (performAll {} calls).2.entries,
      present? entry.success? = some "Page" /\ entry.doc.responses.keys = [] := by
    decide +kernel
  rcases found with ⟨entry, mem, typed, undocumented⟩
  have uses : entry.Uses "Page" := by
    refine .success typed (.inl ?_)
    rw [undocumented]
    exact fun _ absent => absurd absent not_mem_nil
  exact ⟨_, "Page", .route mem uses, by decide +kernel⟩
end
end Registry
end RouteDocs
