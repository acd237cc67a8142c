import RouteDocs.Proofs.NamedReferences

namespace RouteDocs
open List OrderedMap
open OpenApi (BodySchema Options Response Site)
open OpenApi.Site (present?)
open Schema

/-!
# Where the responses of an operation come from

The documented responses, the one for the success type and those of the error type are entered into
one map. Which of them stands under a status is settled by the statuses alone, because a documented
status is never entered again. The status of a success is not protected in this way: an error type
that uses it replaces the response of the success type.
-/

def Schema.Session.StatusesDrawn (drawn : Descriptor -> Prop) (sess : Session) : Prop :=
  ∀ name codes, sess.table.statusMap? name = some codes -> ∃ variants, drawn (.union name variants) /\
      codes = .ofVariants name (variants.map Variant.error)

theorem Schema.Session.inductive_statusesDrawn (drawn : Descriptor -> Prop) :
    Session.Inductive (StatusesDrawn drawn) drawn where
  notices := fun _ _ known => known
  recordConflict := by
    intro sess name known
    rw [StatusesDrawn]
    simp only [Table.statusMap?, Table.statusMaps_recordConflict]
    exact known
  warn := fun _ _ known => known
  remember := by
    intro sess name type _ known
    rw [StatusesDrawn, Session.table_remember]
    exact known
  define := by
    intro sess name node _ _ known
    rw [StatusesDrawn]
    simp only [Table.statusMap?, (sess.table.define_frame name node).1]
    exact known
  defineStatuses := by
    intro sess name variants isDrawn _ known other codes found
    rw [Table.statusMap?_defineStatuses] at found
    rcases Option.or_eq_some_iff.mp found with old | ⟨-, new⟩
    · exact known other codes old
    · split at new
      · rename_i same
        subst same
        exact ⟨variants, isDrawn, (Option.some.inj new).symm⟩
      · cases new

namespace Registry
def passedTypes (calls : List Call) : List Descriptor :=
  (passed (accepted {} calls)).flatMap Descriptor.types

/-- What holds of an empty table and stays with every synthesis, as far as only given types are
passed, holds of the table of a registry and the types passed to it. -/
theorem held_passedTypes {held : List Descriptor -> Table -> Prop} (start : held [] {})
    (freeze : ∀ types table, held types table -> held types table.freeze)
    (step : ∀ types descs pre post, held types pre.table ->
      Yields (Synthesis.ofDescriptors descs) pre () post ->
        held (types ++ descs.flatMap Descriptor.types) post.table) (calls : List Call) :
    held (passedTypes calls) (performAll {} calls).2.table := by
  induction calls using reverseRecOn with
  | nil => exact start
  | append_singleton earlier call ih =>
    unfold passedTypes at ih ⊢
    rcases performAll_concat_cases {} earlier call with
      ⟨reply, post, performed, last, listed⟩ | ⟨unchanged, listed⟩
    · rw [last, listed, passed_concat, flatMap_append]
      by_cases frozen : call = .freeze
      · subst frozen
        cases performed
        rw [show Call.freeze.descriptors = [] from rfl, flatMap_nil, append_nil]
        exact freeze _ _ ih
      · rcases (perform_eq_ok_iff frozen).mp performed with ⟨-, -, -, -, sess, synthesized, rfl⟩
        exact step _ _ _ _ ih synthesized
    · rw [unchanged, listed]
      exact ih

theorem statusesDrawn_performAll (calls : List Call) :
    (performAll {} calls).2.session.StatusesDrawn (· ∈ passedTypes calls) := by
  refine @held_passedTypes (fun types table => ({ table } : Session).StatusesDrawn (· ∈ types))
    nofun (fun _ _ => id) ?_ calls
  intro types descs pre post known yields
  have start : pre.StatusesDrawn (· ∈ types ++ descs.flatMap Descriptor.types) := by
    intro name codes found
    rcases known name codes found with ⟨variants, given, same⟩
    exact ⟨variants, mem_append_left _ given, same⟩
  have kept := Synthesis.held_ofDescriptors (Session.inductive_statusesDrawn _)
    (fun desc mem type inside =>
      mem_append_right types (mem_flatMap.mpr ⟨desc, mem, inside⟩)) start yields
  exact kept
end Registry

namespace OpenApi.Site
variable (site : Site) (status : Int)

def added : List Int := if (present? site.entry.success?).isSome = true /\
      ∀ status ∈ site.entry.doc.responses.keys, ¬ (200 <= status /\ status < 300) then [200]
  else []

theorem documentsSuccess_iff : site.documentsSuccess = false ↔
    ∀ status ∈ site.entry.doc.responses.keys, ¬ (200 <= status /\ status < 300) := by
  simp [documentsSuccess, Http.isSuccess]

theorem map_fst_successItems : site.successItems.map Prod.fst = site.added := by
  unfold successItems added
  simp only [<- documentsSuccess_iff]
  cases site.documentsSuccess <;> cases present? site.entry.success? <;> rfl

theorem ofList_documentedItems : ofList (site.documentedItems site.entry.doc.responses.entries) =
      site.entry.doc.responses.mapValues site.documentedAs :=
  eq_of_entries
    (entries_ofList_of_nodup (site.entry.doc.responses.mapValues site.documentedAs).distinct)

theorem entries_errorItems : (ofList (site.errorItems site.errorMap.entries)).entries =
      site.errorItems site.errorMap.entries := by
  refine entries_ofList_of_nodup ?_
  rw [errorItems, map_map]
  exact site.errorMap.distinct.sublist (filter_sublist.map _)

theorem keys_errorItems : (ofList (site.errorItems site.errorMap.entries)).keys =
      site.errorMap.keys.filter fun status => status ∉ site.entry.doc.responses.keys := by
  have keys : site.errorMap.keys = site.errorMap.entries.map Prod.fst := rfl
  rw [OrderedMap.keys, entries_errorItems, errorItems, map_map, keys, filter_map]
  refine congrArg _ ?_
  refine filter_congr fun item _ => ?_
  rw [Function.comp_apply, Bool.eq_iff_iff, Bool.not_eq_true', decide_eq_true_iff,
    <- OrderedMap.contains_iff, Bool.not_eq_true]

theorem get?_errorItems (undocumented : status ∉ site.entry.doc.responses.keys) :
    (ofList (site.errorItems site.errorMap.entries)).get? status =
      (site.errorMap.get? status).map site.errorAs := by
  apply Option.ext
  intro resp
  rw [<- mem_entries_iff, entries_errorItems, Option.map_eq_some_iff]
  constructor
  · intro mem
    rcases mem_map.mp mem with ⟨item, kept, same⟩
    cases same
    exact ⟨item.2, (site.errorMap.mem_entries_iff _ _).mp (mem_filter.mp kept).1, rfl⟩
  · rintro ⟨error, found, rfl⟩
    refine mem_map.mpr ⟨(status, error), mem_filter.mpr ⟨?_, ?_⟩, rfl⟩
    · exact (site.errorMap.mem_entries_iff status error).mpr found
    · rw [Bool.not_eq_true', <- Bool.not_eq_true, OrderedMap.contains_iff]
      exact undocumented

theorem get?_responseItems : (ofList site.responseItems).get? status =
      ((ofList (site.errorItems site.errorMap.entries)).get? status).or
        (((ofList site.successItems).get? status).or
          ((site.entry.doc.responses.get? status).map (site.documentedAs status))) := by
  rw [responseItems, <- append_assoc, ofList_append, ofList_append,
    get?_insertAll, get?_insertAll, ofList_documentedItems,
    get?_mapValues]

variable {site status}

theorem not_mem_added (documented : status ∈ site.entry.doc.responses.keys) :
    status ∉ site.added := by
  unfold added
  split
  · rename_i free
    intro here
    rw [mem_singleton.mp here] at documented
    exact free.2 200 documented (by decide)
  · exact not_mem_nil

theorem get?_successItems (free : status ∉ site.added) :
    (ofList site.successItems).get? status = none := by
  rw [get?_eq_none_iff]
  intro mem
  rcases mem_map.mp mem with ⟨item, listed, rfl⟩
  refine free (site.map_fst_successItems ▸ mem_map_of_mem ?_)
  exact entries_ofList_subset _ listed

theorem get?_of_documented (documented : site.entry.doc.responses.get? status = some doc) :
    (ofList site.responseItems).get? status = some (site.documentedAs status doc) := by
  have listed := (site.entry.doc.responses.mem_keys_iff status).mpr ⟨doc, documented⟩
  have noError : (ofList (site.errorItems site.errorMap.entries)).get? status = none := by
    rw [get?_eq_none_iff, keys_errorItems, mem_filter]
    exact fun kept => of_decide_eq_true kept.2 listed
  rw [get?_responseItems, noError, get?_successItems (not_mem_added listed), documented]
  rfl

theorem get?_of_error (found : site.errorMap.get? status = some error)
    (undocumented : status ∉ site.entry.doc.responses.keys) :
    (ofList site.responseItems).get? status = some (site.errorAs error) := by
  rw [get?_responseItems, get?_errorItems _ _ undocumented, found]
  rfl

theorem get?_of_success (typed : present? site.entry.success? = some type)
    (free : site.added = [200]) (unused : site.errorMap.get? 200 = none) :
    (ofList site.responseItems).get? 200 = some (site.successAs type) := by
  have undocumented : (200 : Int) ∉ site.entry.doc.responses.keys :=
    fun documented => not_mem_added documented (free ▸ .head _)
  have success : (ofList site.successItems).get? 200 = some (site.successAs type) := by
    have single := site.map_fst_successItems
    unfold successItems at single ⊢
    rw [free, typed] at single
    rw [typed]
    cases documents : site.documentsSuccess with
    | true => rw [documents] at single; cases single
    | false => rfl
  rw [get?_responseItems, get?_errorItems _ _ undocumented, unused, success]
  rfl

theorem keys_responseItems : (ofList site.responseItems).keys =
      site.entry.doc.responses.keys ++ site.added ++ site.errorMap.keys.filter fun status =>
        status ∉ site.entry.doc.responses.keys ++ site.added := by
  have success : (ofList site.successItems).keys = site.added := by
    rw [<- map_fst_successItems]
    refine congrArg _ (entries_ofList_of_nodup ?_)
    rw [map_fst_successItems, added]
    split <;> simp
  have documented : (site.entry.doc.responses.mapValues site.documentedAs).keys =
      site.entry.doc.responses.keys := by
    rw [OrderedMap.keys, mapValues, map_map]
    rfl
  rw [responseItems, <- append_assoc, ofList_append, ofList_append,
    keys_insertAll, keys_insertAll, ofList_documentedItems, documented,
    success, keys_errorItems, filter_filter]
  have kept : site.added.filter (fun status => status ∉ site.entry.doc.responses.keys) = site.added := by
    refine filter_eq_self.mpr fun status mem => decide_eq_true ?_
    exact fun listed => not_mem_added listed mem
  rw [kept]
  congr 1
  refine filter_congr fun status _ => ?_
  rw [Bool.eq_iff_iff, Bool.and_eq_true]
  simp only [decide_eq_true_iff, mem_append, not_or]
  exact ⟨fun both => both.1, fun neither => ⟨neither, neither.1⟩⟩
end OpenApi.Site

namespace Registry
variable {calls : List Call}

/-- The responses of an operation and where they come from. In every registry, the statuses of
an operation are the documented ones, the one that is added for the success type, and those of
the error type, in this order. A documented status keeps what is documented, and the schema that
it does not name itself is that of the success type or of the error type. The other statuses of
the error type have the error type's response, with the schemas of their variants in the order of
the union. -/
theorem responses_merged {site : Site} (reachable : site.table = (performAll {} calls).2.table)
    (built : site.alone = .ok operation) : operation.responses.keys =
        site.entry.doc.responses.keys ++ site.added ++ site.errorMap.keys.filter (fun status =>
          status ∉ site.entry.doc.responses.keys ++ site.added) /\
      (∀ status doc, site.entry.doc.responses.get? status = some doc ->
        operation.responses.get? status = some (site.documentedAs status doc)) /\
      (∀ status error, site.errorMap.get? status = some error ->
        status ∉ site.entry.doc.responses.keys ->
        operation.responses.get? status = some (site.errorAs error)) /\
      (∀ type, present? site.entry.success? = some type -> site.added = [200] ->
        site.errorMap.get? 200 = none -> operation.responses.get? 200 = some (site.successAs type)) /\
      (site.entry.error? = none -> site.errorMap = ∅) /\
      (∀ name, site.entry.error? = some name -> site.table.statusMap? name = none ->
        site.errorMap.keys = [500] /\
          ∀ error, site.errorMap.get? 500 = some error -> error.schemas = [name]) /\
      ∀ name, site.entry.error? = some name -> site.table.statusMap? name ≠ none ->
        site.table.statusMap? name = some site.errorMap /\
          ∃ variants, .union name variants ∈ passedTypes calls /\ site.errorMap.keys = firstUses
              ((variants.map Variant.error).map fun error => (error.status : Int)) /\
            ∀ status error, site.errorMap.get? status = some error ->
              error.schemas = ((variants.map Variant.error).filter fun variant =>
                (variant.status : Int) = status).map fun variant => variantName name variant.name := by
  rw [(Site.describes_of_alone built).responses]
  refine ⟨Site.keys_responseItems, fun _ _ => Site.get?_of_documented, fun _ _ => Site.get?_of_error,
    fun _ => Site.get?_of_success, ?untyped, ?unmapped, ?mapped⟩
  case untyped =>
    intro none
    rw [Site.errorMap, none]
  case unmapped =>
    intro name typed unmapped
    simp only [Site.errorMap, typed, unmapped]
    exact ⟨rfl, by rintro error ⟨⟩; rfl⟩
  case mapped =>
    intro name typed mapped
    rcases Option.ne_none_iff_exists'.mp mapped with ⟨statuses, found⟩
    have same : site.errorMap = statuses := by simp only [Site.errorMap, typed, found]
    rw [same]
    refine ⟨found, ?_⟩
    rw [reachable] at found
    rcases statusesDrawn_performAll calls name statuses found with ⟨variants, given, rfl⟩
    refine ⟨variants, given, StatusMap.keys_ofVariants _ _, fun status error answers => ?_⟩
    rw [StatusMap.get?_ofVariants] at answers
    exact groupResponse_schemas answers

section

/-- Two routes that give items. One of the faults of the first route comes with the status of
a success. -/
def itemRoutes : List Call :=
  let item : Descriptor := .struct "Item" [] ""
  let fault : Descriptor := .union "Fault" [⟨"Missing", [], "404: no item"⟩,
    ⟨"Stale", [], "200: as before"⟩, ⟨"Busy", [], "503: later"⟩, ⟨"Closed", [], "503: never"⟩]
  let doc : EndpointDoc := { responses := .ofList [(404, .simple 404 "No item")] }
  let refusal : Descriptor := .union "Refusal" [⟨"Denied", [], "403: no"⟩]
  [.register { method := "get", path := "/items", doc := .parsed doc,
               success? := some (.descriptor item), error? := some (.descriptor fault) },
    .register { method := "get", path := "/stock", doc := .parsed doc,
                success? := some (.descriptor item), error? := some (.descriptor refusal) }]

def itemSite : Site := ⟨(performAll {} itemRoutes).2.entries.headD ⟨.get, "", {}, none, none, none⟩,
    (performAll {} itemRoutes).2.table, {}⟩

theorem responses_merged_items : ∃ operation, itemSite.alone = .ok operation /\
    operation.responses.keys = [404, 200, 503] /\
      (operation.responses.get? 404).bind Response.schema? = some (.ref "Fault.Missing") /\
      (operation.responses.get? 503).bind Response.schema? =
        some (.oneOf ["Fault.Busy", "Fault.Closed"]) := by
  have succeeds : itemSite.alone.toOption.isSome = true := by decide +kernel
  cases built : itemSite.alone with
  | error failure => rw [built] at succeeds; cases succeeds
  | ok operation =>
    obtain ⟨keys, documented, errors, -⟩ := responses_merged rfl built
    refine ⟨operation, rfl, keys.trans (by decide +kernel), ?_, ?_⟩
    · rw [documented 404 (.simple 404 "No item") rfl]
      decide +kernel
    · rw [errors 503 ⟨503, "later; never", ["Fault.Busy", "Fault.Closed"]⟩ (by decide +kernel)
        (by decide +kernel)]
      decide +kernel
end

/-- A success type is not hidden by an error type that does not have the status of a success.
In every document, a route with a success type that documents no success has a response of
status 200.  It is that of the success type, unless 200 is a status of the error type; then it
is the error type's. -/
theorem success_response {title version : String} {options : Options} {document : Document}
    {entry : Route.Entry} {type : String}
    (assembled : ((performAll {} calls).2.assemble title version options).1 = .ok document)
    (listed : entry ∈ (performAll {} calls).2.entries) (typed : entry.success? = some type)
    (named : type ≠ "")
    (undocumented : ∀ status ∈ entry.doc.responses.keys, ¬ (200 <= status /\ status < 300)) :
    let site : Site := ⟨entry, (performAll {} calls).2.table, options⟩
    ∃ operation response,
      document.operation? (Route.documentPath entry.path) entry.method = some operation /\
        operation.responses.get? 200 = some response /\
        (site.errorMap.get? 200 = none -> response = site.successAs type /\
          response.schema? = some (.ref type)) /\
        ∀ error, site.errorMap.get? 200 = some error -> response = site.errorAs error := by
  intro site
  rcases OpenApi.paths_of_assembly assembled with ⟨-, -, -, operations, built, filed⟩
  have empty : RoutesDistinct {} := nodup_nil
  have distinct := empty.performAll calls
  rcases (exists_of_forall₂ built).1 entry listed with ⟨operation, -, alone⟩
  have found := (Document.operation?_iff distinct built filed _ _ operation).mpr
    ⟨entry, listed, rfl, rfl, alone⟩
  have responses := (Site.describes_of_alone alone).responses
  have present : present? site.entry.success? = some type := by
    simp [site, typed, OpenApi.Site.present?, named]
  have free : site.added = [200] := by rw [Site.added, if_pos ⟨by rw [present]; rfl, undocumented⟩]
  cases used : site.errorMap.get? 200 with
  | none =>
    have answer := Site.get?_of_success present free used
    rw [<- responses] at answer
    exact ⟨operation, _, found, answer, fun _ => ⟨rfl, rfl⟩, nofun⟩
  | some error =>
    have answer := Site.get?_of_error used fun documented => undocumented 200 documented (by decide)
    rw [<- responses] at answer
    refine ⟨operation, _, found, answer, nofun, fun other same => ?_⟩
    rw [Option.some.inj same]

def itemSchema? (path : String) (status : Int) : Option BodySchema :=
  ((performAll {} itemRoutes).2.assemble "Items" "1").1.toOption.bind fun document =>
    (document.operation? path .get).bind fun op => (op.responses.get? status).bind Response.schema?

/-- An error type can hide a success type: one of its variants has the status of a success. -/
theorem success_hidden_by_error :
    (∃ entry ∈ (performAll {} itemRoutes).2.entries, entry.path = "/items" /\
      entry.success? = some "Item" /\
      ∀ status ∈ entry.doc.responses.keys, ¬ (200 <= status /\ status < 300)) /\
      itemSchema? "/items" 200 = some (.ref "Fault.Stale") := by
  decide +kernel

theorem success_response_stock : ∃ document operation response,
    ((performAll {} itemRoutes).2.assemble "Items" "1").1 = .ok document /\
      document.operation? "/stock" .get = some operation /\
      operation.responses.get? 200 = some response /\ response.schema? = some (.ref "Item") := by
  have succeeds : ((performAll {} itemRoutes).2.assemble "Items" "1").1.toOption.isSome = true := by
    decide +kernel
  cases assembled : ((performAll {} itemRoutes).2.assemble "Items" "1").1 with
  | error failure => rw [assembled] at succeeds; cases succeeds
  | ok document =>
    have second : ∃ entry ∈ (performAll {} itemRoutes).2.entries,
        (Route.documentPath entry.path = "/stock" /\ entry.method = .get) /\
        entry.success? = some "Item" /\
        (∀ status ∈ entry.doc.responses.keys, ¬ (200 <= status /\ status < 300)) /\
        (Site.errorMap ⟨entry, (performAll {} itemRoutes).2.table, {}⟩).get? 200 = none := by
      decide +kernel
    rcases second with ⟨entry, listed, ⟨path, method⟩, typed, undocumented, unused⟩
    rcases success_response assembled listed typed (by decide) undocumented with
      ⟨operation, response, found, answer, shown, -⟩
    rw [path, method] at found
    exact ⟨document, operation, response, rfl, found, answer, (shown unused).2⟩
end Registry
end RouteDocs
